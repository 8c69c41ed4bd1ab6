-- SUMMARY: A file written from its lines, one below the other, is read as these lines.
import HostPlatform.Calendar.EventBlocks
import HostPlatform.Calendar.ICalLines
import Mathlib.Algebra.GroupWithZero.Nat

/-!
# Files from lines

Lines without line breaks that do not start with white space are read back as they are
joined. What such a file gives depends on the run of the loop over its lines.
-/

namespace HostPlatform

open Lib (JsString js)
open Lib.JsString

/-- A line as it stands in a file, not folded. -/
def IsLogicalLine (line : JsString) : Prop := NoBreak line ∧ isContinuation line = false

/-- The lines, each with its line break. -/
def joinedLines (lines : List JsString) : JsString := [cr, lf].intercalate lines ++ [cr, lf]

theorem utf8Length_le (s : JsString) : utf8Length s ≤ 3 * s.length := by
  have hunit : ∀ u, unitBytes u ≤ 3 := by
    intro u
    unfold unitBytes
    split
    · omega
    · split <;> omega
  induction s using utf8Length.induct with
  | case1 a b s hpair ih =>
    simp only [utf8Length, hpair, if_true, List.length_cons]
    omega
  | case2 a b s hpair ih =>
    have ha := hunit a
    rw [utf8Length, if_neg hpair]
    simp only [List.length_cons] at ih ⊢
    omega
  | case3 a => exact hunit a
  | case4 => exact le_rfl

theorem length_joinedLines {lines : List JsString} (hne : lines ≠ []) :
    (joinedLines lines).length = (lines.map fun line => line.length + 2).sum := by
  induction lines with
  | nil => exact absurd rfl hne
  | cons line lines ih =>
    cases lines with
    | nil => simp [joinedLines]
    | cons next lines =>
      have hrest := ih (List.cons_ne_nil _ _)
      simp only [joinedLines, List.length_append, List.intercalate_cons_cons, List.map_cons, List.sum_cons] at hrest ⊢
      simp only [List.length_cons, List.length_nil] at hrest ⊢
      omega

theorem unfoldLines_joinedLines {lines : List JsString} (hne : lines ≠ []) (h : ∀ line ∈ lines, IsLogicalLine line) :
    unfoldLines (joinedLines lines) = lines ++ [[]] := by
  obtain ⟨line, rest, rfl⟩ := List.exists_cons_of_ne_nil hne
  have hphysical : (line :: rest).flatMap physicalLines = line :: rest := by
    rw [List.flatMap_congr fun l hl => physicalLines_of_noBreak (h l hl).1]
    exact List.flatMap_singleton' _
  have hfold : ∀ lines before : List JsString, (∀ l ∈ lines, isContinuation l = false) →
      lines.foldl unfoldStep before = before ++ lines := by
    intro lines
    induction lines with
    | nil => simp
    | cons l lines ih =>
      intro before hlines
      obtain ⟨hl, hlines⟩ := List.forall_mem_cons.mp hlines
      rw [List.foldl_cons, unfoldStep_new before hl, ih _ hlines]
      simp
  have hempty : isContinuation [] = false := rfl
  unfold unfoldLines joinedLines
  rw [physicalLines_intercalate, hphysical, hfold _ []]
  · rfl
  · intro l hl
    rcases List.mem_append.mp hl with hl | hl
    · exact (h l hl).2
    · rw [List.mem_singleton.mp hl]
      exact hempty

/-- The result of a file is that of the loop over its lines. -/
theorem parseICalendar_eq_ok {collation : Collation} {source : JsString} {events : List ImportedEvent} :
    parseICalendar collation source = .ok events ↔
      utf8Length source ≤ maxIcalBytes ∧
      (unfoldLines source).any (fun line => toUpperCase (trim line) == js "BEGIN:VCALENDAR") = true ∧
      ∃ state, readLines .start (unfoldLines source) = .ok state ∧ state.pending = none ∧
        state.events.mergeSort (eventLe collation) = events := by
  unfold parseICalendar
  simp only [Lib.bind_eq_ok, Lib.require_eq_ok, exists_const, pure, Except.pure, Except.ok.injEq]

end HostPlatform
