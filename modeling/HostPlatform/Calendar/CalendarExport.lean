-- SUMMARY: The iCalendar file a property is exported as: escaping, folding, and its lines (`calendarExport.ts`).
import HostPlatform.Lib.CivilDate

/-!
# Writing an iCalendar file

`buildCalendar` writes one event for each range of unavailable nights. Long lines
are folded into chunks, the later ones after a space.
-/

namespace HostPlatform

open Lib (CivilDate JsString js)
open Lib.JsString

structure DateRange where
  startsOn : CivilDate
  endsOn : CivilDate
  deriving DecidableEq

/-- What `new Date()` reads. -/
structure Instant where
  date : CivilDate
  hour : Nat
  minute : Nat
  second : Nat
  millisecond : Nat
  deriving DecidableEq

/-- `replace(/\r?\n/g, "\\n")`. -/
def escapeLineBreaks (value : JsString) : JsString :=
  replaceUnit lf (js "\\n") (replacePairs isCrLf (js "\\n") value)

def escapeIcalText (value : JsString) : JsString :=
  let backslashes := replaceUnit backslash [backslash, backslash] value
  let breaks := escapeLineBreaks backslashes
  let commas := replaceUnit comma [backslash, comma] breaks
  replaceUnit semicolon [backslash, semicolon] commas

/-! ## Folding -/

def maximumLength : Nat := 73

/-- The loop over `remaining`; each round takes `width` units, so the length is fuel enough. -/
def chunks (width : Nat) : Nat → JsString → List JsString
  | 0, _ => []
  | fuel + 1, remaining =>
    if remaining = [] then [] else remaining.take width :: chunks width fuel (remaining.drop width)

def foldLine (line : JsString) : List JsString :=
  if line.length ≤ maximumLength then [line]
  else
    let remaining := line.drop maximumLength
    line.take maximumLength ::
      (chunks (maximumLength - 1) remaining.length remaining).map fun chunk => space :: chunk

/-! ## The file -/

def threeDigits (n : Nat) : JsString := [digit (n / 100), digit (n / 10), digit n]

def Instant.toISOString (now : Instant) : JsString :=
  now.date.iso ++ js "T" ++ CivilDate.twoDigits now.hour ++ js ":" ++ CivilDate.twoDigits now.minute
    ++ js ":" ++ CivilDate.twoDigits now.second ++ js "." ++ threeDigits now.millisecond ++ js "Z"

/-- `replace(/\.\d{3}Z$/, "Z")`. -/
def dropMilliseconds (s : JsString) : JsString :=
  let ending := s.drop (s.length - 5)
  if ending.length = 5 ∧ ending.head? = some dot ∧ ((ending.drop 1).take 3).all isDigit = true
      ∧ ending.drop 4 = js "Z" then
    s.take (s.length - 5) ++ js "Z"
  else s

def generatedAt (now : Instant) : JsString :=
  dropMilliseconds (now.toISOString.filter fun u => u != hyphen && u != colon)

def eventUid (propertyId : JsString) (range : DateRange) : JsString :=
  js "host-" ++ propertyId ++ js "-" ++ range.startsOn.iso ++ js "-" ++ range.endsOn.iso
    ++ js "@hostcityliving.com"

def headerLines : List JsString :=
  [js "BEGIN:VCALENDAR", js "VERSION:2.0", js "PRODID:-//HOST//Property Availability//EN",
    js "CALSCALE:GREGORIAN", js "METHOD:PUBLISH"]

def nameLine (propertyName : JsString) : JsString :=
  js "X-WR-CALNAME:" ++ escapeIcalText (js "HOST - " ++ propertyName)

def eventLines (now : Instant) (propertyId : JsString) (range : DateRange) : List JsString :=
  [js "BEGIN:VEVENT", js "UID:" ++ eventUid propertyId range, js "DTSTAMP:" ++ generatedAt now,
    js "DTSTART;VALUE=DATE:" ++ range.startsOn.compact, js "DTEND;VALUE=DATE:" ++ range.endsOn.compact,
    js "STATUS:CONFIRMED", js "TRANSP:OPAQUE", js "SUMMARY:Unavailable", js "END:VEVENT"]

def calendarLines (now : Instant) (propertyId propertyName : JsString) (ranges : List DateRange) :
    List JsString :=
  headerLines ++ [nameLine propertyName] ++ ranges.flatMap (eventLines now propertyId)
    ++ [js "END:VCALENDAR"]

def buildCalendar (now : Instant) (propertyId propertyName : JsString) (ranges : List DateRange) :
    JsString :=
  [cr, lf].intercalate ((calendarLines now propertyId propertyName ranges).flatMap foldLine) ++ [cr, lf]

end HostPlatform
