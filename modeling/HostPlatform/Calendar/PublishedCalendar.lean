-- SUMMARY: The calendar a property publishes under a secret link: its tokens, the query of its nights, and the public route (`calendarExport.ts`, `calendarSync.ts`).
import HostPlatform.Calendar.GroupDates
import HostPlatform.Calendar.ExportedEvents
import HostPlatform.Calendar.CalendarSync

/-!
# Published calendars

A token is the only secret of a link. The first request for the link of a property
makes its token, a rotation replaces it, and the public route looks it up.
-/

namespace HostPlatform

open Lib (CivilDate JsString Table Keyed js require)
open Lib.JsString

/-- A row of `property_calendar_exports`; a token is the text of its `uuid`. -/
structure CalendarExportRow where
  propertyId : PropertyId
  exportToken : JsString
  deriving DecidableEq, Repr

instance : Keyed CalendarExportRow := ⟨CalendarExportRow.propertyId⟩

/-- What the export selects of a property, as texts. -/
structure ExportPropertyRow where
  propertyId : JsString
  propertyName : JsString
  deriving DecidableEq

structure CalendarExport where
  propertyId : JsString
  propertyName : JsString
  body : JsString
  deriving DecidableEq

/-! ## Tokens -/

/-- The two constraints of the table on a new token. -/
def checkExportToken (db : Db) (exports : Table CalendarExportRow) (propertyId : PropertyId)
    (generated : JsString) : Except BookingError Unit := do
  require ((db.properties.find? propertyId).isSome) foreignKeyViolation
  require (∀ row ∈ exports.rows, row.exportToken = generated → row.propertyId = propertyId) uniqueViolation

/-- `generated` is what `gen_random_uuid()` returns, and is used for a new row only. -/
def getOrCreateCalendarExportToken (db : Db) (exports : Table CalendarExportRow) (propertyId : PropertyId)
    (generated : JsString) : Except BookingError (JsString × Table CalendarExportRow) :=
  match exports.find? propertyId with
  | some row => .ok (row.exportToken, exports)
  | none => do
    checkExportToken db exports propertyId generated
    return (generated, exports.upsert ⟨propertyId, generated⟩ (fun row => row) fun _ => rfl)

def rotateCalendarExportToken (db : Db) (exports : Table CalendarExportRow) (propertyId : PropertyId)
    (generated : JsString) : Except BookingError (JsString × Table CalendarExportRow) := do
  checkExportToken db exports propertyId generated
  return (generated, exports.upsert ⟨propertyId, generated⟩ (fun row => { row with exportToken := generated })
    fun _ => rfl)

/-- `WHERE export_token = $1::uuid`: the cast reads either case of a digit. -/
def findExport (exports : Table CalendarExportRow) (exportToken : JsString) : Option CalendarExportRow :=
  exports.rows.find? fun row => row.exportToken == toLowerCase exportToken

/-- A host asks for the link of a property, or for a new one. -/
inductive ExportLabel where
  | getOrCreate (propertyId : PropertyId) (generated : JsString)
  | rotate (propertyId : PropertyId) (generated : JsString)
  deriving DecidableEq

namespace ExportLabel

def propertyId : ExportLabel → PropertyId
  | .getOrCreate p _ => p
  | .rotate p _ => p

def generated : ExportLabel → JsString
  | .getOrCreate _ g => g
  | .rotate _ g => g

def isRotation : ExportLabel → Bool
  | .getOrCreate .. => false
  | .rotate .. => true

def step (db : Db) (exports : Table CalendarExportRow) : ExportLabel → Table CalendarExportRow
  | .getOrCreate p g => Lib.commit exports (getOrCreateCalendarExportToken db exports p g)
  | .rotate p g => Lib.commit exports (rotateCalendarExportToken db exports p g)

end ExportLabel

/-! ## The export -/

structure PublishedDb where
  db : Db
  exports : Table CalendarExportRow
  texts : PropertyId → ExportPropertyRow

/-- The rows of `SELECT date .. WHERE date >= CURRENT_DATE AND status != 'available' ORDER BY date`. -/
structure AvailabilityRows (db : Db) (propertyId : PropertyId) (today : Int) (dates : List CivilDate) : Prop where
  ordered : dates.Pairwise (· < ·)
  mem_iff : ∀ d : CivilDate, d ∈ dates ↔ today ≤ d.toDays ∧
    ∃ row, db.availability propertyId d.toDays = some row ∧ row.status ≠ .available

/-- A date text without its hyphens. -/
def compactDate (value : JsString) : JsString := value.filter fun u => u != hyphen

def textEventLines (now : Instant) (propertyId : JsString) (range : TextRange) : List JsString :=
  [js "BEGIN:VEVENT",
    js "UID:" ++ (js "host-" ++ propertyId ++ js "-" ++ range.startsOn ++ js "-" ++ range.endsOn
      ++ js "@hostcityliving.com"),
    js "DTSTAMP:" ++ generatedAt now, js "DTSTART;VALUE=DATE:" ++ compactDate range.startsOn,
    js "DTEND;VALUE=DATE:" ++ compactDate range.endsOn, js "STATUS:CONFIRMED", js "TRANSP:OPAQUE",
    js "SUMMARY:Unavailable", js "END:VEVENT"]

/-- `buildCalendar` on ranges as `groupConsecutiveDates` returns them. -/
def buildTextCalendar (now : Instant) (propertyId propertyName : JsString) (ranges : List TextRange) :
    JsString :=
  let lines := headerLines ++ [nameLine propertyName] ++ ranges.flatMap (textEventLines now propertyId)
    ++ [js "END:VCALENDAR"]
  [cr, lf].intercalate (lines.flatMap foldLine) ++ [cr, lf]

/-- `dates` are the rows of the query for a property. An error is what `toISOString` throws. -/
def generateCalendarExport (s : PublishedDb) (now : Instant) (dates : PropertyId → List CivilDate)
    (exportToken : JsString) : Except JsString (Option CalendarExport) :=
  match (findExport s.exports exportToken).filter fun row => (s.db.properties.find? row.propertyId).isSome with
  | none => .ok none
  | some row =>
    let property := s.texts row.propertyId
    match groupConsecutiveDates ((dates row.propertyId).map CivilDate.iso) with
    | none => .error (js "Invalid time value")
    | some ranges => .ok (some
        { propertyId := property.propertyId
          propertyName := property.propertyName
          body := buildTextCalendar now property.propertyId property.propertyName ranges })

/-! ## The public route -/

inductive CalendarResponse where
  | calendar (fileName body : JsString)
  | error (status : Nat) (code message : JsString)
  deriving DecidableEq

def calendarNotFound : CalendarResponse := .error 404 (js "CALENDAR_NOT_FOUND") (js "Calendar was not found.")

/-- `GET /api/calendars/[token]`. -/
def getCalendar (s : PublishedDb) (now : Instant) (dates : PropertyId → List CivilDate) (token : JsString) :
    CalendarResponse :=
  if isUuid token then
    match generateCalendarExport s now dates token with
    | .error _ =>
      .error 500 (js "CALENDAR_EXPORT_FAILED") (js "Calendar is temporarily unavailable.")
    | .ok none => calendarNotFound
    | .ok (some calendar) => .calendar (js "HOST-" ++ calendar.propertyId ++ js ".ics") calendar.body
  else calendarNotFound

end HostPlatform
