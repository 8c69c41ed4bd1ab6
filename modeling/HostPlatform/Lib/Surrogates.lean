-- SUMMARY: Texts without unpaired surrogates, and what keeps them so.
import HostPlatform.Lib.JsString

/-!
# Well-formed texts

A text decoded from bytes has no unpaired surrogate, and is stored as it is. Cutting it at
other units, and replacing other units, leaves it well-formed.
-/

namespace Lib.JsString

def isSurrogate (u : Nat) : Bool := isHighSurrogate u || isLowSurrogate u

def WellFormed (s : JsString) : Prop := toWellFormed s = s

instance (s : JsString) : Decidable (WellFormed s) := inferInstanceAs (Decidable (toWellFormed s = s))

theorem isSurrogate_eq_false {u : Nat} (h : isSurrogate u = false) :
    isHighSurrogate u = false ∧ isLowSurrogate u = false := Bool.or_eq_false_iff.mp h

theorem wellFormed_nil : WellFormed [] := rfl

theorem wellFormed_cons {u : Nat} {s : JsString} (hu : isSurrogate u = false) :
    WellFormed (u :: s) ↔ WellFormed s := by
  obtain ⟨hhigh, hlow⟩ := isSurrogate_eq_false hu
  cases s with
  | nil => simp [WellFormed, toWellFormed, hhigh, hlow]
  | cons v s => simp [WellFormed, toWellFormed, hhigh, hlow]

theorem wellFormed_pair {a b : Nat} {s : JsString} (ha : isHighSurrogate a = true) (hb : isLowSurrogate b = true) :
    WellFormed (a :: b :: s) ↔ WellFormed s := by
  simp [WellFormed, toWellFormed, ha, hb]

/-- What is put for an unpaired surrogate is none. -/
theorem eq_of_replaced {u : Nat} (h : (if isHighSurrogate u || isLowSurrogate u then 0xFFFD else u) = u) :
    isSurrogate u = false := by
  cases hu : isSurrogate u with
  | false => rfl
  | true =>
    obtain rfl : 0xFFFD = u := (if_pos hu).symm.trans h
    exact absurd hu (by decide)

/-- A text is built of single units and of surrogate pairs. -/
theorem WellFormed.induction {motive : (s : JsString) → WellFormed s → Prop} (nil : motive [] wellFormed_nil)
    (cons : ∀ u s (hu : isSurrogate u = false) (hs : WellFormed s), motive s hs →
      motive (u :: s) ((wellFormed_cons hu).mpr hs))
    (pair : ∀ a b s (ha : isHighSurrogate a = true) (hb : isLowSurrogate b = true) (hs : WellFormed s),
      motive s hs → motive (a :: b :: s) ((wellFormed_pair ha hb).mpr hs))
    {s : JsString} (h : WellFormed s) : motive s h := by
  induction hn : s.length using Nat.strong_induction_on generalizing s with
  | _ n ih =>
    match s, h with
    | [], _ => exact nil
    | [u], h =>
      exact cons u [] (eq_of_replaced (List.cons.inj h).1) wellFormed_nil nil
    | a :: b :: s, h =>
      simp only [List.length_cons] at hn
      have hread := h
      unfold WellFormed toWellFormed at hread
      split at hread
      · rename_i hpair
        rw [Bool.and_eq_true] at hpair
        simp only [List.cons.injEq, true_and] at hread
        exact pair a b s hpair.1 hpair.2 hread (ih _ (by omega) hread rfl)
      · obtain ⟨hfirst, hrest⟩ := List.cons.inj hread
        exact cons a (b :: s) (eq_of_replaced hfirst) hrest
          (ih _ (by simp only [List.length_cons]; omega) hrest rfl)

theorem WellFormed.append {a b : JsString} (ha : WellFormed a) (hb : WellFormed b) : WellFormed (a ++ b) := by
  induction ha using WellFormed.induction with
  | nil => exact hb
  | cons u s hu _ ih => exact (wellFormed_cons hu).mpr ih
  | pair u v s hu hv _ ih => exact (wellFormed_pair hu hv).mpr ih

/-- Cut at a unit that is no surrogate, both parts are well-formed. -/
theorem WellFormed.split {u : Nat} (hu : isSurrogate u = false) {s : JsString} (h : WellFormed s) :
    ∀ {a b : JsString}, s = a ++ u :: b → WellFormed a ∧ WellFormed b := by
  obtain ⟨hhigh, hlow⟩ := isSurrogate_eq_false hu
  induction h using WellFormed.induction with
  | nil =>
    intro a b heq
    simp at heq
  | cons v s hv hs ih =>
    intro a b heq
    cases a with
    | nil =>
      obtain ⟨rfl, rfl⟩ := List.cons.inj heq
      exact ⟨rfl, hs⟩
    | cons w a =>
      simp only [List.cons_append, List.cons.injEq] at heq
      obtain ⟨ha, hb⟩ := ih heq.2
      exact ⟨heq.1 ▸ (wellFormed_cons hv).mpr ha, hb⟩
  | pair v w s hv hw hs ih =>
    intro a b heq
    match a with
    | [] =>
      obtain ⟨rfl, -⟩ := List.cons.inj heq
      rw [hhigh] at hv
      cases hv
    | [x] =>
      simp only [List.cons_append, List.nil_append, List.cons.injEq] at heq
      obtain ⟨rfl, rfl, -⟩ := heq
      rw [hlow] at hw
      cases hw
    | x :: y :: a =>
      simp only [List.cons_append, List.cons.injEq] at heq
      obtain ⟨rfl, rfl, heq⟩ := heq
      obtain ⟨ha, hb⟩ := ih heq
      exact ⟨(wellFormed_pair hv hw).mpr ha, hb⟩

/-! ## Trimming -/

theorem isSurrogate_of_isSpace {u : Nat} (h : isSpace u = true) : isSurrogate u = false := by
  unfold isSpace at h
  unfold isSurrogate isHighSurrogate isLowSurrogate
  simp only [Bool.or_eq_true, Bool.and_eq_true, decide_eq_true_eq, beq_iff_eq] at h
  simp only [Bool.or_eq_false_iff, Bool.and_eq_false_iff, decide_eq_false_iff_not]
  omega

theorem WellFormed.trimStart {s : JsString} (h : WellFormed s) : WellFormed (trimStart s) := by
  induction s with
  | nil => exact h
  | cons u s ih =>
    unfold JsString.trimStart at ih ⊢
    rw [List.dropWhile_cons]
    split
    · rename_i hu
      exact ih ((wellFormed_cons (isSurrogate_of_isSpace hu)).mp h)
    · exact h

theorem WellFormed.trimEnd {s : JsString} (h : WellFormed s) : WellFormed (trimEnd s) := by
  induction s using List.reverseRecOn with
  | nil => exact h
  | append_singleton s u ih =>
    unfold JsString.trimEnd at ih ⊢
    rw [List.rdropWhile_concat]
    split
    · rename_i hu
      exact ih (h.split (isSurrogate_of_isSpace hu) rfl).1
    · exact h

theorem WellFormed.trim {s : JsString} (h : WellFormed s) : WellFormed (trim s) := h.trimStart.trimEnd

/-! ## Replacing -/

/-- A unit that starts no match stays. -/
theorem replacePairs_cons {isMatch : Nat → Nat → Bool} {out : JsString} {u : Nat}
    (h : ∀ v, isMatch u v = false) (s : JsString) :
    replacePairs isMatch out (u :: s) = u :: replacePairs isMatch out s := by
  cases s with
  | nil => rfl
  | cons v s => simp [replacePairs, h v]

theorem WellFormed.replacePairs {isMatch : Nat → Nat → Bool} {out : JsString}
    (hmatch : ∀ u v, isMatch u v = true → isSurrogate u = false ∧ isSurrogate v = false) (hout : WellFormed out)
    {s : JsString} (h : WellFormed s) : WellFormed (replacePairs isMatch out s) := by
  induction hn : s.length using Nat.strong_induction_on generalizing s with
  | _ n ih =>
    have hstart : ∀ u, isSurrogate u = true → ∀ v, isMatch u v = false := by
      intro u hu v
      rw [← Bool.not_eq_true]
      intro huv
      rw [(hmatch u v huv).1] at hu
      cases hu
    induction h using WellFormed.induction with
    | nil => rfl
    | cons u s hu hs _ =>
      simp only [List.length_cons] at hn
      cases s with
      | nil => exact (wellFormed_cons hu).mpr hs
      | cons v s =>
        simp only [List.length_cons] at hn
        unfold JsString.replacePairs
        split
        · rename_i huv
          exact hout.append (ih _ (by omega) ((wellFormed_cons (hmatch u v huv).2).mp hs) rfl)
        · exact (wellFormed_cons hu).mpr (ih _ (by simp only [List.length_cons]; omega) hs rfl)
    | pair u v s hu hv hs _ =>
      simp only [List.length_cons] at hn
      rw [replacePairs_cons (hstart u (by simp [isSurrogate, hu])),
        replacePairs_cons (hstart v (by simp [isSurrogate, hv]))]
      exact (wellFormed_pair hu hv).mpr (ih _ (by omega) hs rfl)

theorem WellFormed.replaceUnit {u : Nat} (hu : isSurrogate u = false) {out s : JsString} (hout : WellFormed out)
    (h : WellFormed s) : WellFormed (replaceUnit u out s) := by
  obtain ⟨hhigh, hlow⟩ := isSurrogate_eq_false hu
  unfold JsString.replaceUnit
  induction h using WellFormed.induction with
  | nil => rfl
  | cons v s hv _ ih =>
    rw [List.flatMap_cons]
    refine WellFormed.append ?_ ih
    split
    · exact hout
    · exact (wellFormed_cons hv).mpr rfl
  | pair v w s hv hw _ ih =>
    have hvu : v ≠ u := fun heq => by rw [heq, hhigh] at hv; cases hv
    have hwu : w ≠ u := fun heq => by rw [heq, hlow] at hw; cases hw
    rw [List.flatMap_cons, List.flatMap_cons, if_neg hvu, if_neg hwu]
    exact (wellFormed_pair hv hw).mpr ih

/-! ## Splitting -/

theorem WellFormed.splitOn {u : Nat} (hu : isSurrogate u = false) {s : JsString} (h : WellFormed s) :
    ∀ piece ∈ s.splitOn u, WellFormed piece := by
  induction hn : s.length using Nat.strong_induction_on generalizing s with
  | _ n ih =>
    by_cases hmem : u ∈ s
    · obtain ⟨a, b, rfl, hnot⟩ := List.eq_append_cons_of_mem hmem
      obtain ⟨ha, hb⟩ := h.split hu rfl
      simp only [List.length_append, List.length_cons] at hn
      rw [List.splitOn_append_cons_self_of_not_mem hnot]
      exact List.forall_mem_cons.mpr ⟨ha, ih _ (by omega) hb rfl⟩
    · rw [List.splitOn_eq_singleton hmem]
      exact List.forall_mem_singleton.mpr h

end Lib.JsString
