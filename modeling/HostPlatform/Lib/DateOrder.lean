-- SUMMARY: The day after a date, and the order of date texts.
import HostPlatform.Lib.CivilDate
import Mathlib.Tactic.IntervalCases
import Mathlib.Tactic.NormNum

/-!
# Order and successor of dates

The day after a date is the next one in the order, and its day number is one more.
Texts `YYYY-MM-DD` are ordered by their units as the dates are.
-/

namespace Lib

open JsString

namespace CivilDate

/-! ## The day after -/

/-- Year, month and day of the day after; the year may have more than four digits. -/
def dayAfter : Nat × Nat × Nat → Nat × Nat × Nat
  | (year, month, day) =>
    if day < daysInMonth year month then (year, month, day + 1)
    else if month < 12 then (year, month + 1, 1)
    else (year + 1, 1, 1)

def numbers (d : CivilDate) : Nat × Nat × Nat := (d.year, d.month, d.day)

theorem dayAfter_numbers (d : CivilDate) : dayAfter d.numbers =
    if d.day < daysInMonth d.year d.month then (d.year, d.month, d.day + 1)
    else if d.month < 12 then (d.year, d.month + 1, 1)
    else (d.year + 1, 1, 1) := rfl

theorem le_daysInMonth (year month : Nat) : 28 ≤ daysInMonth year month := by
  unfold daysInMonth
  split
  · split <;> omega
  · split <;> omega

/-- Only the last date has no day after. -/
theorem exists_dayAfter {d e : CivilDate} (h : d < e) : ∃ e : CivilDate, e.numbers = dayAfter d.numbers := by
  obtain ⟨hyear, hmonth, hmonth', hday, hday'⟩ := d.real
  rw [dayAfter_numbers]
  split
  · rename_i hlt
    exact ⟨⟨d.year, d.month, d.day + 1, hyear, hmonth, hmonth', by omega, hlt⟩, rfl⟩
  · rename_i hend
    split
    · rename_i hlt
      have hlength := le_daysInMonth d.year (d.month + 1)
      exact ⟨⟨d.year, d.month + 1, 1, hyear, by omega, hlt, le_rfl, by omega⟩, rfl⟩
    · have hlength := le_daysInMonth (d.year + 1) 1
      have hnext : d.year + 1 ≤ 9999 := by
        obtain ⟨heyear, -, hemonth, -, -⟩ := e.real
        have heday := e.day_le
        have hmonth12 : d.month = 12 := by omega
        have hlast : d.day = 31 := by
          rw [hmonth12] at hday' hend
          simp [daysInMonth] at hday' hend
          omega
        rw [lt_def] at h
        simp only [ordinal] at h
        omega
      exact ⟨⟨d.year + 1, 1, 1, hnext, le_rfl, by omega, le_rfl, by omega⟩, rfl⟩

theorem exists_dayAfter_of_year {d : CivilDate} (h : d.year ≤ 9998) :
    ∃ e : CivilDate, e.numbers = dayAfter d.numbers := by
  refine exists_dayAfter (e := ⟨9999, 1, 1, by decide⟩) ?_
  obtain ⟨-, -, hmonth, -, -⟩ := d.real
  have hday := d.day_le
  rw [lt_def]
  simp only [ordinal]
  omega

section

variable {d e : CivilDate}

/-- The three cases of the day after: in the month, in the year, in the next year. -/
theorem dayAfter_cases (h : e.numbers = dayAfter d.numbers) :
    (e.year = d.year ∧ e.month = d.month ∧ e.day = d.day + 1) ∨
    (d.day = daysInMonth d.year d.month ∧ e.day = 1 ∧
      ((e.year = d.year ∧ e.month = d.month + 1) ∨ (d.month = 12 ∧ e.year = d.year + 1 ∧ e.month = 1))) := by
  obtain ⟨-, -, hmonth, -, hday⟩ := d.real
  rw [dayAfter_numbers] at h
  split at h
  · simp only [numbers, Prod.mk.injEq] at h
    exact .inl h
  · have hend : d.day = daysInMonth d.year d.month := by omega
    split at h
    · simp only [numbers, Prod.mk.injEq] at h
      exact .inr ⟨hend, h.2.2, .inl ⟨h.1, h.2.1⟩⟩
    · simp only [numbers, Prod.mk.injEq] at h
      exact .inr ⟨hend, h.2.2, .inr ⟨by omega, h.1, h.2.1⟩⟩

/-- No date lies between a date and the day after it. -/
theorem lt_dayAfter_iff (h : e.numbers = dayAfter d.numbers) (x : CivilDate) : x < e ↔ x ≤ d := by
  have hxday := x.day_le
  have hdday := d.day_le
  obtain ⟨-, hxmonth, hxmonth', hxday', hxlength⟩ := x.real
  obtain ⟨-, -, hdmonth, -, -⟩ := d.real
  rw [lt_def, le_def]
  simp only [ordinal]
  -- a date in the month that ends with `d` is no later than `d`
  have hsame : x.year = d.year → x.month = d.month → d.day = daysInMonth d.year d.month → x.day ≤ d.day := by
    intro hyear hmonth hend
    rw [hend, ← hyear, ← hmonth]
    exact hxlength
  rcases dayAfter_cases h with ⟨hyear, hmonth, hday⟩ | ⟨hend, hday, ⟨hyear, hmonth⟩ | ⟨htwelve, hyear, hmonth⟩⟩
  · rw [hyear, hmonth, hday]
    omega
  · rw [hyear, hmonth, hday]
    omega
  · rw [hyear, hmonth, hday]
    omega

/-- The day number of the day after is one more. -/
theorem toDays_dayAfter (h : e.numbers = dayAfter d.numbers) : e.toDays = d.toDays + 1 := by
  obtain ⟨-, hmonth, hmonth', -, -⟩ := d.real
  rcases dayAfter_cases h with ⟨hyear, hmonth, hday⟩ | ⟨hend, hday, ⟨hyear, hnext⟩ | ⟨htwelve, hyear, hnext⟩⟩
  · simp only [toDays, hyear, hmonth, hday]
    omega
  · simp only [toDays, hyear, hnext, hday, hend, daysInMonth, isLeapYear]
    generalize hm : d.month = m at *
    interval_cases m
    all_goals
      simp
      omega
  · simp only [toDays, hyear, hnext, hday, hend, htwelve]
    norm_num [daysInMonth]
    omega

end

/-- Later dates have larger day numbers. -/
theorem toDays_strictMono : StrictMono toDays := by
  intro d e h
  -- induction on the distance: the day after `d` is `e` or before it
  induction hn : e.ordinal - d.ordinal using Nat.strong_induction_on generalizing d with
  | _ n ih =>
    obtain ⟨d', hd'⟩ := exists_dayAfter h
    have hnext : d < d' := (lt_dayAfter_iff hd' d).mpr le_rfl
    have hstep := toDays_dayAfter hd'
    rcases (not_lt.mp fun hlt => h.not_ge ((lt_dayAfter_iff hd' e).mp hlt) : d' ≤ e).eq_or_lt with rfl | hlt
    · omega
    · have hgap := lt_def.mp hlt
      have hrest := ih _ (by rw [lt_def] at hnext; omega) hlt rfl
      omega

/-! ## Texts -/

theorem append_lt_append_iff {a b : JsString} (h : a.length = b.length) (x y : JsString) :
    a ++ x < b ++ y ↔ a < b ∨ (a = b ∧ x < y) := by
  induction a generalizing b with
  | nil =>
    obtain rfl := List.length_eq_zero_iff.mp h.symm
    simp
  | cons u a ih =>
    cases b with
    | nil => simp at h
    | cons v b =>
      simp only [List.length_cons, Nat.add_right_cancel_iff] at h
      simp only [List.cons_append, List.cons_lt_cons_iff, ih h, List.cons.injEq]
      grind

theorem twoDigits_lt_iff {m n : Nat} (hm : m ≤ 99) (hn : n ≤ 99) : twoDigits m < twoDigits n ↔ m < n := by
  simp only [twoDigits, digit, List.cons_lt_cons_iff, List.not_lt_nil, and_false, or_false]
  omega

@[simp] theorem length_twoDigits (n : Nat) : (twoDigits n).length = 2 := rfl

@[simp] theorem length_fourDigits (n : Nat) : (fourDigits n).length = 4 := rfl

theorem fourDigits_inj {m n : Nat} (hm : m ≤ 9999) (hn : n ≤ 9999) : fourDigits m = fourDigits n ↔ m = n := by
  constructor
  · intro h
    rw [← digitsValue_fourDigits hm, h, digitsValue_fourDigits hn]
  · rintro rfl
    rfl

theorem twoDigits_inj {m n : Nat} (hm : m ≤ 99) (hn : n ≤ 99) : twoDigits m = twoDigits n ↔ m = n := by
  constructor
  · intro h
    rw [← digitsValue_twoDigits hm, h, digitsValue_twoDigits hn]
  · rintro rfl
    rfl

theorem fourDigits_eq (n : Nat) : fourDigits n = twoDigits (n / 100) ++ twoDigits (n % 100) := by
  simp only [fourDigits, twoDigits, digit, List.cons_append, List.nil_append, List.cons.injEq, and_true,
    true_and, Nat.div_div_eq_div_mul]
  omega

theorem fourDigits_lt_iff {m n : Nat} (hm : m ≤ 9999) (hn : n ≤ 9999) :
    fourDigits m < fourDigits n ↔ m < n := by
  rw [fourDigits_eq, fourDigits_eq, append_lt_append_iff (by simp), twoDigits_lt_iff (by omega) (by omega),
    twoDigits_inj (by omega) (by omega), twoDigits_lt_iff (by omega) (by omega)]
  omega

/-- The order of the texts is the order of the dates. -/
theorem iso_lt_iff (a b : CivilDate) : a.iso < b.iso ↔ a < b := by
  have haday := a.day_le
  have hbday := b.day_le
  obtain ⟨hayear, -, hamonth, -, -⟩ := a.real
  obtain ⟨hbyear, -, hbmonth, -, -⟩ := b.real
  rw [lt_def]
  simp only [iso, List.append_assoc, ordinal]
  rw [append_lt_append_iff (by simp), append_lt_append_iff (by simp), append_lt_append_iff (by simp),
    append_lt_append_iff (by simp), fourDigits_lt_iff hayear hbyear, fourDigits_inj hayear hbyear, twoDigits_lt_iff (by omega) (by omega),
    twoDigits_inj (by omega) (by omega), twoDigits_lt_iff (by omega) (by omega)]
  simp only [List.lt_irrefl, false_or, true_and]
  omega

end CivilDate

end Lib
