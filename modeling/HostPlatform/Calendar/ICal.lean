-- SUMMARY: The iCalendar parser: unfolding, content lines, events, and the errors they raise (`ical.ts`).
import HostPlatform.Lib.CivilDate
import HostPlatform.Lib.Outcome
import Mathlib.Order.Compare

/-!
# Reading an iCalendar file

`parseICalendar` reads the lines of a file one after another, with the event that
is open, if any, and the events completed so far.
-/

namespace HostPlatform

open Lib (CivilDate JsString js require)
open Lib.JsString

def maxIcalBytes : Nat := 2 * 1024 * 1024

def maxIcalEvents : Nat := 5000

/-- `CalendarEvent` of `ical.ts`: an event as it was read. -/
structure ImportedEvent where
  eventKey : JsString
  externalUid : JsString
  startsOn : CivilDate
  endsOn : CivilDate
  summary : Option JsString
  deriving DecidableEq

structure CalendarParseError where
  message : JsString
  deriving DecidableEq

/-- `String.prototype.localeCompare` in the locale of the process: a consistent
comparator. -/
structure Collation where
  localeCompare : JsString → JsString → Ordering
  total : ∀ a b, (localeCompare a b).isLE = true ∨ (localeCompare b a).isLE = true
  trans : ∀ a b c, (localeCompare a b).isLE = true → (localeCompare b c).isLE = true →
    (localeCompare a c).isLE = true

/-- The comparator that tells no two texts apart. -/
def sampleCollation : Collation := ⟨fun _ _ => .eq, fun _ _ => .inl rfl, fun _ _ _ _ _ => rfl⟩

/-! ## Lines -/

/-- The lines of the text as they are written. -/
def physicalLines (source : JsString) : List JsString :=
  (replaceUnit cr [lf] (replacePairs isCrLf [lf] source)).splitOn lf

/-- `line.startsWith(" ") || line.startsWith("\t")`. -/
def isContinuation (line : JsString) : Bool := line.head? == some space || line.head? == some tab

/-- One line of the loop: it continues the last line, or is a new one. -/
def unfoldStep (unfolded : List JsString) (line : JsString) : List JsString :=
  match isContinuation line, unfolded.getLast? with
  | true, some last => unfolded.dropLast ++ [last ++ line.drop 1]
  | _, _ => unfolded ++ [line]

def unfoldLines (source : JsString) : List JsString := (physicalLines source).foldl unfoldStep []

/-- The name of a content line in upper case, without its parameters, and its value. -/
def splitContentLine (line : JsString) : JsString × JsString :=
  match line.idxOf? colon with
  | none | some 0 => ([], [])
  | some separator =>
    let property := line.take separator
    let name := match property.idxOf? semicolon with
      | none => property
      | some parameterSeparator => property.take parameterSeparator
    (toUpperCase name, line.drop (separator + 1))

def parseCalendarDate (value : JsString) (fieldName : JsString) :
    Except CalendarParseError CivilDate := do
  let compactDate := (trim value).take 8
  require (compactDate.length = 8 ∧ compactDate.all isDigit = true)
    ⟨fieldName ++ js " must contain a valid iCalendar date"⟩
  match CivilDate.ofCompact? compactDate with
  | some date => .ok date
  | none => .error ⟨fieldName ++ js " contains an invalid calendar date"⟩

/-- `replace(/\\c/g, ..)` of an escaped character. -/
def isEscaped (chars : JsString) (a b : Nat) : Bool := a == backslash && chars.contains b

def unescapeText (value : JsString) : JsString :=
  let spaced := replacePairs (isEscaped (js "nN")) [space] value
  let commas := replacePairs (isEscaped [comma]) [comma] spaced
  let semicolons := replacePairs (isEscaped [semicolon]) [semicolon] commas
  trim (replacePairs (isEscaped [backslash]) [backslash] semicolons)

/-! ## Events -/

structure PendingEvent where
  uid : Option JsString
  recurrenceId : Option JsString
  startsOn : Option CivilDate
  endsOn : Option CivilDate
  summary : Option JsString
  status : Option JsString
  recurring : Bool
  deriving DecidableEq

def PendingEvent.empty : PendingEvent := ⟨none, none, none, none, none, none, false⟩

def recurringMessage : JsString :=
  js "Recurring calendar events are not supported; export a booking calendar containing individual reservations"

/-- The event a block described; a cancelled one is left out. -/
def finishEvent (event : PendingEvent) : Except CalendarParseError (Option ImportedEvent) := do
  if event.status.map toUpperCase = some (js "CANCELLED") then
    return none
  require (event.recurring = false) ⟨recurringMessage⟩
  let externalUid := unescapeText (event.uid.getD [])
  require (externalUid ≠ []) ⟨js "A calendar event is missing UID"⟩
  require (externalUid.length ≤ 500) ⟨js "A calendar event UID is too long"⟩
  match event.startsOn, event.endsOn with
  | some startsOn, some endsOn =>
    require (startsOn < endsOn)
      ⟨js "Calendar event " ++ externalUid ++ js " must end after it starts"⟩
    let recurrenceId := unescapeText (event.recurrenceId.getD [])
    let eventKey := if recurrenceId = [] then externalUid else externalUid ++ js "::" ++ recurrenceId
    require (eventKey.length ≤ 500) ⟨js "A calendar event key is too long"⟩
    let summary := unescapeText (event.summary.getD [])
    return some
      { eventKey := eventKey
        externalUid := externalUid
        startsOn := startsOn
        endsOn := endsOn
        summary := if summary = [] then none else some (summary.take 300) }
  | _, _ =>
    .error ⟨js "Calendar event " ++ externalUid ++ js " must include DTSTART and DTEND"⟩

/-- `events.set(event.eventKey, event)`: a key that is there keeps its place. -/
def setEvent (events : List ImportedEvent) (event : ImportedEvent) : List ImportedEvent :=
  if events.any fun e => e.eventKey == event.eventKey then
    events.map fun e => if e.eventKey = event.eventKey then event else e
  else events ++ [event]

/-! ## The file -/

/-- The events completed so far and the one that is open. -/
structure ParserState where
  events : List ImportedEvent
  pending : Option PendingEvent
  deriving DecidableEq

/-- The `switch` over the name of a content line. -/
def readProperty (pending : PendingEvent) (line : JsString) :
    Except CalendarParseError PendingEvent :=
  let (name, value) := splitContentLine line
  if name = js "UID" then .ok { pending with uid := some value }
  else if name = js "RECURRENCE-ID" then .ok { pending with recurrenceId := some value }
  else if name = js "DTSTART" then do
    let date ← parseCalendarDate value (js "DTSTART")
    return { pending with startsOn := some date }
  else if name = js "DTEND" then do
    let date ← parseCalendarDate value (js "DTEND")
    return { pending with endsOn := some date }
  else if name = js "SUMMARY" then .ok { pending with summary := some value }
  else if name = js "STATUS" then .ok { pending with status := some value }
  else if name = js "RRULE" ∨ name = js "RDATE" then .ok { pending with recurring := true }
  else .ok pending

def marker (rawLine : JsString) : JsString := toUpperCase (trim (trimEnd rawLine))

/-- `END:VEVENT` of an open event. -/
def endEvent (events : List ImportedEvent) (pending : PendingEvent) :
    Except CalendarParseError ParserState := do
  match ← finishEvent pending with
  | none => return ⟨events, none⟩
  | some completed =>
    let events := setEvent events completed
    require (events.length ≤ maxIcalEvents) ⟨js "Calendar contains more than 5,000 events"⟩
    return ⟨events, none⟩

/-- One line of the loop of `parseICalendar`. -/
def readLine (state : ParserState) (rawLine : JsString) : Except CalendarParseError ParserState :=
  if marker rawLine = js "BEGIN:VEVENT" then
    match state.pending with
    | some _ => .error ⟨js "Nested calendar events are invalid"⟩
    | none => .ok { state with pending := some .empty }
  else if marker rawLine = js "END:VEVENT" then
    match state.pending with
    | none => .error ⟨js "Calendar event ended without beginning"⟩
    | some pending => endEvent state.events pending
  else
    match state.pending with
    | none => .ok state
    | some pending => do
      let pending ← readProperty pending (trimEnd rawLine)
      return { state with pending := some pending }

def readLines (state : ParserState) (lines : List JsString) : Except CalendarParseError ParserState :=
  lines.foldlM readLine state

def ParserState.start : ParserState := ⟨[], none⟩

/-- The comparator of the final sort. -/
def eventLe (collation : Collation) (left right : ImportedEvent) : Bool :=
  if left.startsOn = right.startsOn then (collation.localeCompare left.eventKey right.eventKey).isLE
  else left.startsOn < right.startsOn

def parseICalendar (collation : Collation) (source : JsString) :
    Except CalendarParseError (List ImportedEvent) := do
  require (utf8Length source ≤ maxIcalBytes) ⟨js "Calendar file is larger than 2 MB"⟩
  let lines := unfoldLines source
  require (lines.any (fun line => toUpperCase (trim line) == js "BEGIN:VCALENDAR") = true)
    ⟨js "The response is not an iCalendar file"⟩
  let state ← readLines .start lines
  require (state.pending = none) ⟨js "Calendar event is missing END:VEVENT"⟩
  return state.events.mergeSort (eventLe collation)

end HostPlatform
