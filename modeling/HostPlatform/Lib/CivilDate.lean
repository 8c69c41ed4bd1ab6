-- SUMMARY: Dates of the proleptic Gregorian calendar with four-digit years: their texts, their order and their day number.
import HostPlatform.Lib.JsString
import Mathlib.Data.Int.ConditionallyCompleteOrder

/-!
# Civil dates

A `CivilDate` is a date that exists, so it has exactly one text of each format.
Texts of one format are ordered as the dates are.
-/

namespace Lib

open JsString

def isLeapYear (year : Nat) : Bool := year % 4 == 0 && (year % 100 != 0 || year % 400 == 0)

def daysInMonth (year month : Nat) : Nat :=
  if month = 2 then (if isLeapYear year then 29 else 28)
  else if month = 4 ∨ month = 6 ∨ month = 9 ∨ month = 11 then 30
  else 31

/-- The three numbers are a date of the calendar. -/
def IsRealDate (year month day : Nat) : Prop :=
  year ≤ 9999 ∧ 1 ≤ month ∧ month ≤ 12 ∧ 1 ≤ day ∧ day ≤ daysInMonth year month

instance (year month day : Nat) : Decidable (IsRealDate year month day) := by
  unfold IsRealDate
  infer_instance

structure CivilDate where
  year : Nat
  month : Nat
  day : Nat
  real : IsRealDate year month day
  deriving DecidableEq

namespace CivilDate

def ofNumbers? (year month day : Nat) : Option CivilDate :=
  if h : IsRealDate year month day then some ⟨year, month, day, h⟩ else none

/-- The number `YYYYMMDD`. -/
def ordinal (d : CivilDate) : Nat := d.year * 10000 + d.month * 100 + d.day

theorem daysInMonth_le (year month : Nat) : daysInMonth year month ≤ 31 := by
  unfold daysInMonth
  split
  · split <;> omega
  · split <;> omega

theorem day_le (d : CivilDate) : d.day ≤ 31 := d.real.2.2.2.2.trans (daysInMonth_le d.year d.month)

theorem ordinal_injective : Function.Injective ordinal := by
  intro a b h
  have ha := a.day_le
  have hb := b.day_le
  have hma := a.real.2.2.1
  have hmb := b.real.2.2.1
  obtain ⟨ya, ma, da, _⟩ := a
  obtain ⟨yb, mb, db, _⟩ := b
  simp only [ordinal] at h ha hb hma hmb
  obtain rfl : ya = yb := by omega
  obtain rfl : ma = mb := by omega
  obtain rfl : da = db := by omega
  rfl

instance : LinearOrder CivilDate := LinearOrder.lift' ordinal ordinal_injective

theorem lt_def {a b : CivilDate} : a < b ↔ a.ordinal < b.ordinal := Iff.rfl

theorem le_def {a b : CivilDate} : a ≤ b ↔ a.ordinal ≤ b.ordinal := Iff.rfl

/-- Days since 1970-01-01. Years are counted from March, so that the leap day ends one. -/
def toDays (d : CivilDate) : Int :=
  let year : Int := if d.month ≤ 2 then d.year - 1 else d.year
  let era := year / 400
  let yearOfEra := year - era * 400
  let monthFromMarch : Int := if d.month ≤ 2 then d.month + 9 else d.month - 3
  let dayOfYear := (153 * monthFromMarch + 2) / 5 + d.day - 1
  let dayOfEra := yearOfEra * 365 + yearOfEra / 4 - yearOfEra / 100 + dayOfYear
  era * 146097 + dayOfEra - 719468

/-! ## Texts -/

def twoDigits (n : Nat) : JsString := [digit (n / 10), digit n]

def fourDigits (n : Nat) : JsString := [digit (n / 1000), digit (n / 100), digit (n / 10), digit n]

/-- `YYYYMMDD`. -/
def compact (d : CivilDate) : JsString := fourDigits d.year ++ twoDigits d.month ++ twoDigits d.day

/-- `YYYY-MM-DD`. -/
def iso (d : CivilDate) : JsString :=
  fourDigits d.year ++ [hyphen] ++ twoDigits d.month ++ [hyphen] ++ twoDigits d.day

/-- The date a text `YYYYMMDD` spells, if there is one. -/
def ofCompact? (s : JsString) : Option CivilDate :=
  ofNumbers? (digitsValue (s.take 4)) (digitsValue ((s.drop 4).take 2)) (digitsValue ((s.drop 6).take 2))

theorem digitsValue_fourDigits {n : Nat} (h : n ≤ 9999) : digitsValue (fourDigits n) = n := by
  simp only [digitsValue, fourDigits, digit, List.foldl_cons, List.foldl_nil]
  omega

theorem digitsValue_twoDigits {n : Nat} (h : n ≤ 99) : digitsValue (twoDigits n) = n := by
  simp only [digitsValue, twoDigits, digit, List.foldl_cons, List.foldl_nil]
  omega

theorem length_compact (d : CivilDate) : d.compact.length = 8 := rfl

theorem length_iso (d : CivilDate) : d.iso.length = 10 := rfl

theorem isDigit_compact (d : CivilDate) : ∀ u ∈ d.compact, isDigit u = true := by
  intro u hu
  simp only [compact, fourDigits, twoDigits, List.cons_append, List.nil_append, List.mem_cons,
    List.not_mem_nil, or_false] at hu
  rcases hu with rfl | rfl | rfl | rfl | rfl | rfl | rfl | rfl
  all_goals exact isDigit_digit _

/-- The compact text is read back as the date. -/
theorem ofCompact?_compact (d : CivilDate) : ofCompact? d.compact = some d := by
  have hyear : digitsValue (d.compact.take 4) = d.year := digitsValue_fourDigits d.real.1
  have hmonth : digitsValue ((d.compact.drop 4).take 2) = d.month :=
    digitsValue_twoDigits (d.real.2.2.1.trans (by decide))
  have hday : digitsValue ((d.compact.drop 6).take 2) = d.day :=
    digitsValue_twoDigits (d.day_le.trans (by decide))
  unfold ofCompact?
  rw [hyear, hmonth, hday]
  exact dif_pos d.real

/-- Different dates have different texts. -/
theorem iso_injective : Function.Injective iso := by
  intro a b h
  -- without its two hyphens the one text is the other
  have hcompact : a.compact = b.compact := congrArg (fun s => (s.eraseIdx 7).eraseIdx 4) h
  have ha := ofCompact?_compact a
  rw [hcompact, ofCompact?_compact b] at ha
  exact (Option.some.inj ha).symm

end CivilDate

/-- The day numbers of a few dates. -/
example : (CivilDate.ofNumbers? 1970 1 1).map CivilDate.toDays = some 0
    ∧ (CivilDate.ofNumbers? 2000 2 29).map CivilDate.toDays = some 11016
    ∧ (CivilDate.ofNumbers? 2100 2 29).map CivilDate.toDays = none := by decide

end Lib
