-- SUMMARY: The texts a decoded file gives are stored as they were read.
import HostPlatform.Calendar.EventBlocks
import HostPlatform.Lib.Surrogates

/-!
# Stored texts

No step of the parser cuts a surrogate pair of a key: texts are cut at line breaks,
colons and white space.
-/

namespace Lib.JsString

theorem length_toWellFormed (s : JsString) : (toWellFormed s).length = s.length := by
  induction s using toWellFormed.induct with
  | case1 a b s hpair ih => simp [toWellFormed, hpair, ih]
  | case2 a b s hpair ih =>
    rw [toWellFormed, if_neg hpair]
    simp only [List.length_cons] at ih ⊢
    omega
  | case3 a => rfl
  | case4 => rfl

theorem charLength_le_length (s : JsString) : charLength s ≤ s.length := by
  induction s using charLength.induct with
  | case1 a b s hpair ih =>
    simp only [charLength, hpair, if_true, List.length_cons]
    omega
  | case2 a b s hpair ih =>
    rw [charLength, if_neg hpair]
    simp only [List.length_cons] at ih ⊢
    omega
  | case3 a => exact le_rfl
  | case4 => exact le_rfl

theorem charLength_pos {s : JsString} (h : s ≠ []) : 1 ≤ charLength s := by
  match s with
  | [] => exact absurd rfl h
  | [a] => exact le_rfl
  | a :: b :: s =>
    unfold charLength
    split <;> omega

end Lib.JsString

namespace HostPlatform

open Lib (JsString js)
open Lib.JsString

theorem wellFormed_unescapeText {value : JsString} (h : WellFormed value) : WellFormed (unescapeText value) := by
  have hescaped : ∀ chars : JsString, (∀ c ∈ chars, isSurrogate c = false) → ∀ u v,
      isEscaped chars u v = true → isSurrogate u = false ∧ isSurrogate v = false := by
    intro chars hchars u v huv
    unfold isEscaped at huv
    rw [Bool.and_eq_true, beq_iff_eq, List.contains_iff_mem] at huv
    exact ⟨huv.1 ▸ by decide, hchars v huv.2⟩
  unfold unescapeText
  refine WellFormed.trim (WellFormed.replacePairs (hescaped _ (by decide)) (by decide) ?_)
  refine WellFormed.replacePairs (hescaped _ (by decide)) (by decide) ?_
  refine WellFormed.replacePairs (hescaped _ (by decide)) (by decide) ?_
  exact WellFormed.replacePairs (hescaped _ (by decide)) (by decide) h

/-- The lines of a well-formed text are well-formed. -/
theorem wellFormed_unfoldLines {source : JsString} (h : WellFormed source) :
    ∀ line ∈ unfoldLines source, WellFormed line := by
  have hphysical : ∀ line ∈ physicalLines source, WellFormed line := by
    refine WellFormed.splitOn (by decide) (WellFormed.replaceUnit (by decide) (by decide) ?_)
    refine WellFormed.replacePairs (fun u v huv => ?_) (by decide) h
    unfold isCrLf at huv
    rw [Bool.and_eq_true, beq_iff_eq, beq_iff_eq] at huv
    rw [huv.1, huv.2]
    decide
  have hstep : ∀ (unfolded : List JsString) (line : JsString), (∀ l ∈ unfolded, WellFormed l) → WellFormed line →
      ∀ l ∈ unfoldStep unfolded line, WellFormed l := by
    intro unfolded line hunfolded hline
    unfold unfoldStep
    split
    · rename_i last hcontinuation hlast
      obtain ⟨u, hhead, hu⟩ : ∃ u, line.head? = some u ∧ isSurrogate u = false := by
        unfold isContinuation at hcontinuation
        rw [Bool.or_eq_true, beq_iff_eq, beq_iff_eq] at hcontinuation
        exact hcontinuation.elim (fun h => ⟨space, h, by decide⟩) fun h => ⟨tab, h, by decide⟩
      obtain ⟨rest, rfl⟩ := List.head?_eq_some_iff.mp hhead
      refine List.forall_mem_append.mpr ⟨fun l hl => hunfolded l (List.dropLast_subset _ hl), ?_⟩
      refine List.forall_mem_singleton.mpr (WellFormed.append (hunfolded last (List.mem_of_getLast? hlast)) ?_)
      exact (wellFormed_cons hu).mp hline
    · exact List.forall_mem_append.mpr ⟨hunfolded, List.forall_mem_singleton.mpr hline⟩
  unfold unfoldLines
  have hfold : ∀ (lines unfolded : List JsString), (∀ l ∈ unfolded, WellFormed l) → (∀ l ∈ lines, WellFormed l) →
      ∀ l ∈ lines.foldl unfoldStep unfolded, WellFormed l := by
    intro lines
    induction lines with
    | nil => exact fun unfolded hunfolded _ => hunfolded
    | cons line lines ih =>
      intro unfolded hunfolded hlines
      obtain ⟨hline, hlines⟩ := List.forall_mem_cons.mp hlines
      exact ih _ (hstep unfolded line hunfolded hline) hlines
  exact hfold _ [] nofun hphysical

theorem wellFormed_contentLine {line : JsString} (h : WellFormed line) : WellFormed (contentLine line).2 := by
  have htrim := h.trimEnd
  unfold contentLine splitContentLine
  split
  · rfl
  · rfl
  · rename_i separator _ hseparator
    obtain ⟨hlt, hcolon, -⟩ := List.idxOf?_eq_some_iff.mp hseparator
    have hsplit : trimEnd line = (trimEnd line).take separator ++ colon :: (trimEnd line).drop (separator + 1) := by
      rw [← hcolon, List.getElem_cons_drop, List.take_append_drop]
    exact (htrim.split (by decide) hsplit).2

theorem mem_eventBlocks {lines block : List JsString} (h : block ∈ eventBlocks lines) : block ⊆ lines := by
  induction lines with
  | nil => cases h
  | cons line lines ih =>
    unfold eventBlocks at h
    split at h
    · rcases List.mem_cons.mp h with rfl | h
      · exact List.subset_cons_of_subset _ (List.takeWhile_subset _)
      · exact List.subset_cons_of_subset _ (ih h)
    · exact List.subset_cons_of_subset _ (ih h)

/-- The value of a property of a block is well-formed. -/
theorem wellFormed_lastValue {name : JsString} {block : List JsString} (h : ∀ line ∈ block, WellFormed line) :
    WellFormed ((lastValue name block).getD []) := by
  unfold lastValue
  cases hfind : (block.map contentLine).reverse.find? fun content => content.1 = name with
  | none => rfl
  | some content =>
    have hmem := List.mem_of_find?_eq_some hfind
    rw [List.mem_reverse, List.mem_map] at hmem
    obtain ⟨line, hline, rfl⟩ := hmem
    exact wellFormed_contentLine (h line hline)

end HostPlatform
