-- SUMMARY: The ranges of an export are exact: separated, and together the unavailable dates.
import HostPlatform.Calendar.GroupDates
import HostPlatform.Safety.ExportImport
import Mathlib.Data.Set.List

/-!
# The ranges are the dates

The texts are sorted by their units, which is the order of the dates, so the loop meets
the dates in order. It keeps the run of dates that ends with the last one.
-/

namespace HostPlatform

open Lib (CivilDate JsString js)
open Lib.JsString

/-- The nights of a half-open range. -/
def DateRange.Covers (range : DateRange) (d : CivilDate) : Prop := range.startsOn ≤ d ∧ d < range.endsOn

/-! ## Texts of dates -/

theorem ofIso?_iso (d : CivilDate) : ofIso? d.iso = some d := by
  have hcompact : (d.iso.eraseIdx 7).eraseIdx 4 = d.compact := rfl
  simp [ofIso?, hcompact, CivilDate.ofCompact?_compact]

theorem isoSlice_numbers (d : CivilDate) : isoSlice d.numbers = d.iso := by
  change ((if d.year ≤ 9999 then CivilDate.fourDigits d.year else js "+" ++ sixDigits d.year) ++ [hyphen]
    ++ CivilDate.twoDigits d.month ++ [hyphen] ++ CivilDate.twoDigits d.day).take 10 = d.iso
  rw [if_pos d.real.1]
  rfl

theorem addDays_one {d e : CivilDate} (h : e.numbers = CivilDate.dayAfter d.numbers) :
    addDays d.iso 1 = some e.iso := by
  simp only [addDays, ofIso?_iso, Option.map_some, Function.iterate_one, ← h, isoSlice_numbers]

/-! ## Sorting -/

theorem nodup_eraseDups {α : Type} [BEq α] [LawfulBEq α] (l : List α) : l.eraseDups.Nodup := by
  induction hn : l.length using Nat.strong_induction_on generalizing l with
  | _ n ih =>
    cases l with
    | nil => simp
    | cons a l =>
      have hshort := List.length_filter_le (fun b => !b == a) l
      simp only [List.length_cons] at hn
      rw [List.eraseDups_cons, List.nodup_cons]
      refine ⟨?_, ih _ (by omega) _ rfl⟩
      simp

/-- The sorted texts are those of the dates, in order and each once. -/
theorem sortedDates_iso (dates : List CivilDate) : ∃ sorted : List CivilDate,
    sortedDates (dates.map CivilDate.iso) = sorted.map CivilDate.iso ∧ sorted.Pairwise (· < ·) ∧
    ∀ d, d ∈ sorted ↔ d ∈ dates := by
  have hmem : ∀ text, text ∈ sortedDates (dates.map CivilDate.iso) ↔ text ∈ dates.map CivilDate.iso := by
    intro text
    rw [sortedDates, List.mem_mergeSort, List.mem_eraseDups]
  have hrange : sortedDates (dates.map CivilDate.iso) ∈ Set.range (List.map CivilDate.iso) := by
    rw [Set.range_list_map]
    intro text htext
    obtain ⟨d, -, rfl⟩ := List.mem_map.mp ((hmem text).mp htext)
    exact ⟨d, rfl⟩
  obtain ⟨sorted, hsorted⟩ := hrange
  have htrans : ∀ a b c : JsString, (!decide (b < a)) = true → (!decide (c < b)) = true → (!decide (c < a)) = true := by
    simp only [Bool.not_eq_true', decide_eq_false_iff_not]
    exact fun a b c hab hbc hca => hab (List.lt_of_le_of_lt hbc hca)
  have htotal : ∀ a b : JsString, ((!decide (b < a)) || !decide (a < b)) = true := by
    simp only [Bool.or_eq_true, Bool.not_eq_true', decide_eq_false_iff_not]
    exact fun a b => List.le_total a b
  have hle : ((dates.map CivilDate.iso).eraseDups.mergeSort fun a b => !decide (b < a)).Pairwise
      fun a b => (!decide (b < a)) = true := List.pairwise_mergeSort htrans htotal _
  have hnodup := (List.mergeSort_perm (dates.map CivilDate.iso).eraseDups
    fun a b => !decide (b < a)).nodup_iff.mpr (nodup_eraseDups _)
  have hboth := hle.and hnodup
  change (sortedDates (dates.map CivilDate.iso)).Pairwise _ at hboth
  rw [← hsorted, List.pairwise_map] at hboth
  refine ⟨sorted, hsorted.symm, hboth.imp ?_, ?_⟩
  · rintro a b ⟨hab, hne⟩
    rw [Bool.not_eq_true', decide_eq_false_iff_not, CivilDate.iso_lt_iff, not_lt] at hab
    exact lt_of_le_of_ne hab fun heq => hne (congrArg CivilDate.iso heq)
  · intro d
    have htext := hmem d.iso
    rw [← hsorted, List.mem_map_of_injective CivilDate.iso_injective,
      List.mem_map_of_injective CivilDate.iso_injective] at htext
    exact htext

/-! ## The loop -/

/-- What the loop gives from a run of dates `start … previous` and the later dates. -/
structure GroupsFrom (start previous : CivilDate) (dates : List CivilDate) (ranges : List DateRange) : Prop where
  separated : Separated ranges
  starts : ∀ range ∈ ranges, start ≤ range.startsOn
  covers : ∀ d, (∃ range ∈ ranges, range.Covers d) ↔ (start ≤ d ∧ d ≤ previous) ∨ d ∈ dates

theorem groupFrom_exact {dates : List CivilDate} : ∀ {start previous : CivilDate},
    (∀ d ∈ previous :: dates, d.year ≤ 9998) → (previous :: dates).Pairwise (· < ·) → start ≤ previous →
    ∃ ranges, groupFrom start.iso previous.iso (dates.map CivilDate.iso) = some (ranges.map DateRange.texts) ∧
      GroupsFrom start previous dates ranges := by
  induction dates with
  | nil =>
    intro start previous hyear _ hle
    obtain ⟨after, hafter⟩ := CivilDate.exists_dayAfter_of_year (hyear previous List.mem_cons_self)
    have hlt := CivilDate.lt_dayAfter_iff hafter
    refine ⟨[⟨start, after⟩], by simp [groupFrom, addDays_one hafter, DateRange.texts], ?_, ?_, ?_⟩
    · simpa [Separated, hlt] using hle
    · simp
    · simp [DateRange.Covers, hlt]
  | cons date dates ih =>
    intro start previous hyear hsorted hle
    obtain ⟨after, hafter⟩ := CivilDate.exists_dayAfter_of_year (hyear previous List.mem_cons_self)
    have hlt := CivilDate.lt_dayAfter_iff hafter
    obtain ⟨hfirst, hrest⟩ := List.pairwise_cons.mp hsorted
    have hdate : previous < date := hfirst date List.mem_cons_self
    have hyear' : ∀ d ∈ date :: dates, d.year ≤ 9998 := fun d hd => hyear d (List.mem_cons_of_mem _ hd)
    by_cases hnext : date = after
    · -- the run goes on: what is up to `date` is what is up to `previous`, and `date`
      obtain ⟨ranges, heq, hgroups⟩ := ih hyear' hrest (hle.trans hdate.le)
      refine ⟨ranges, by simp [groupFrom, addDays_one hafter, hnext, ← heq], hgroups.separated,
        hgroups.starts, fun d => ?_⟩
      have hupto : d ≤ date ↔ d = date ∨ d ≤ previous := by
        rw [le_iff_eq_or_lt, hnext, hlt]
      rw [hgroups.covers, hupto, List.mem_cons]
      constructor
      · rintro (⟨hstart, rfl | hd⟩ | hd)
        · exact .inr (.inl rfl)
        · exact .inl ⟨hstart, hd⟩
        · exact .inr (.inr hd)
      · rintro (⟨hstart, hd⟩ | rfl | hd)
        · exact .inl ⟨hstart, .inr hd⟩
        · exact .inl ⟨hle.trans hdate.le, .inl rfl⟩
        · exact .inr hd
    · -- the run ends: the next one starts after the day after `previous`
      obtain ⟨ranges, heq, hgroups⟩ := ih hyear' hrest le_rfl
      have hgap : after < date := lt_of_le_of_ne (not_lt.mp fun h => absurd ((hlt date).mp h) hdate.not_ge)
        (Ne.symm hnext)
      have hne : date.iso ≠ after.iso := fun h => hnext (CivilDate.iso_injective h)
      refine ⟨⟨start, after⟩ :: ranges, by simp [groupFrom, addDays_one hafter, hne, heq, DateRange.texts],
        ⟨?_, ?_⟩, ?_, fun d => ?_⟩
      · simpa [hlt, hle] using hgroups.separated.1
      · refine List.pairwise_cons.mpr ⟨fun range hrange => ?_, hgroups.separated.2⟩
        exact hgap.trans_le (hgroups.starts range hrange)
      · simpa using fun range hrange => (hle.trans hdate.le).trans (hgroups.starts range hrange)
      · simp only [List.mem_cons, exists_eq_or_imp, hgroups.covers]
        rw [DateRange.Covers, hlt]
        rw [and_comm (a := date ≤ d), ← le_antisymm_iff]

/-- A year's end, and a leap day. -/
example : groupFrom (js "2027-12-31") (js "2027-12-31") [js "2028-01-01", js "2028-02-29", js "2028-03-01"] =
    some [⟨js "2027-12-31", js "2028-01-02"⟩, ⟨js "2028-02-29", js "2028-03-02"⟩] := by
  decide +kernel

/-- The ranges are separated, and cover the dates and no other. -/
theorem groupConsecutiveDates_exact {dates : List CivilDate} (hyear : ∀ d ∈ dates, d.year ≤ 9998) :
    ∃ ranges, groupConsecutiveDates (dates.map CivilDate.iso) = some (ranges.map DateRange.texts) ∧
      Separated ranges ∧ ∀ d, (∃ range ∈ ranges, range.Covers d) ↔ d ∈ dates := by
  obtain ⟨sorted, hsorted, hpairwise, hmem⟩ := sortedDates_iso dates
  unfold groupConsecutiveDates
  rw [hsorted]
  cases sorted with
  | nil => exact ⟨[], rfl, by simp [Separated], fun d => by simp [← hmem]⟩
  | cons first dates' =>
    have hyear' : ∀ d ∈ first :: dates', d.year ≤ 9998 := fun d hd => hyear d ((hmem d).mp hd)
    obtain ⟨ranges, heq, hgroups⟩ := groupFrom_exact hyear' hpairwise le_rfl
    refine ⟨ranges, heq, hgroups.separated, fun d => ?_⟩
    rw [hgroups.covers, ← hmem, List.mem_cons, and_comm, ← le_antisymm_iff]

def leapDayDates : List CivilDate := [⟨2028, 3, 1, by decide⟩, ⟨2028, 2, 29, by decide⟩]

theorem leapDay_grouped : leapDayDates.map CivilDate.iso = [js "2028-03-01", js "2028-02-29"] ∧
    ∃ ranges, groupConsecutiveDates (leapDayDates.map CivilDate.iso) = some (ranges.map DateRange.texts) ∧
      Separated ranges ∧ ∀ d, (∃ range ∈ ranges, range.Covers d) ↔ d ∈ leapDayDates :=
  ⟨by decide, groupConsecutiveDates_exact (by decide)⟩

end HostPlatform
