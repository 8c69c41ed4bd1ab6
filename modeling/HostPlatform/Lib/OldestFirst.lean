-- SUMMARY: Batches taken from the front of a sorted list, and how long an item waits for the batch that takes it.
import HostPlatform.Lib.Transition
import Mathlib.Algebra.GroupWithZero.Nat
import Mathlib.Data.List.Perm.Subperm

/-!
# Oldest first

A batch job sorts what is due and serves the first few. The order is any total
preorder; what matters is only a property `early` that separates it: no late item
stands before an early one.
-/

namespace Lib.OldestFirst

variable {α : Type}

/-- The batch: the first `limit` items in the order. -/
def pick (le : α → α → Bool) (limit : Nat) (xs : List α) : List α := (xs.mergeSort le).take limit

/-- No late item of the list may stand before an early one. -/
def Separates (le : α → α → Bool) (early : α → Bool) (xs : List α) : Prop :=
  ∀ a ∈ xs, ∀ b ∈ xs, early a → early b = false → le b a = false

section

variable {le : α → α → Bool} {early : α → Bool} {xs : List α} {limit : Nat}

theorem eq_filter_append (hsorted : xs.Pairwise fun a b => le a b) (hsep : Separates le early xs) :
    xs = xs.filter early ++ xs.filter fun a => !early a := by
  induction xs with
  | nil => rfl
  | cons a xs ih =>
    obtain ⟨ha, hxs⟩ := List.pairwise_cons.mp hsorted
    have hrest := ih hxs fun b hb c hc => hsep b (List.mem_cons_of_mem _ hb) c (List.mem_cons_of_mem _ hc)
    cases hearly : early a with
    | true =>
      rw [List.filter_cons_of_pos hearly, List.filter_cons_of_neg (by simp [hearly]), List.cons_append, ← hrest]
    | false =>
      -- a late head leaves no early item behind it
      have hnone : xs.filter early = [] := by
        refine List.filter_eq_nil_iff.mpr fun b hb hbearly => ?_
        have hnot := hsep b (List.mem_cons_of_mem _ hb) a List.mem_cons_self hbearly hearly
        rw [ha b hb] at hnot
        cases hnot
      rw [hnone, List.nil_append] at hrest
      rw [List.filter_cons_of_neg (by simp [hearly]), List.filter_cons_of_pos (by simp [hearly]), hnone,
        List.nil_append, ← hrest]

theorem pick_subset {a : α} (h : a ∈ pick le limit xs) : a ∈ xs :=
  List.mem_mergeSort.mp (List.mem_of_mem_take h)

/-- The keys of a batch are distinct if those of all items are. -/
theorem pick_nodup {β : Type} {f : α → β} (h : (xs.map f).Nodup) : ((pick le limit xs).map f).Nodup := by
  have hsorted : ((xs.mergeSort le).map f).Nodup := ((List.mergeSort_perm xs le).map f).nodup_iff.mpr h
  exact hsorted.sublist ((List.take_sublist _ _).map f)

/-- Only the order of the items themselves matters. -/
theorem pick_congr {le' : α → α → Bool} (h : ∀ a ∈ xs, ∀ b ∈ xs, le a b = le' a b) :
    pick le limit xs = pick le' limit xs := by
  have hsort := List.map_mergeSort (f := id) h
  rw [List.map_id, List.map_id] at hsort
  rw [pick, hsort, pick]

/-- What is left of a list without repetitions is shorter by what is gone. -/
theorem length_add_le {before after gone : List α} (hafter : after.Nodup) (hgone : gone.Nodup)
    (hsub : after ⊆ before) (hwere : gone ⊆ before) (hnot : ∀ a ∈ gone, a ∉ after) :
    after.length + gone.length ≤ before.length := by
  have hnodup : (after ++ gone).Nodup := by
    refine List.nodup_append.mpr ⟨hafter, hgone, fun a ha b hb hab => ?_⟩
    exact hnot b hb (hab ▸ ha)
  have hle := (hnodup.subperm (List.append_subset.mpr ⟨hsub, hwere⟩)).length_le
  rwa [List.length_append] at hle

variable (htrans : ∀ a b c, le a b → le b c → le a c) (htotal : ∀ a b, le a b || le b a)

include htrans htotal

/-- The early items stand in front. -/
theorem mergeSort_eq (hsep : Separates le early xs) :
    ∃ front back, xs.mergeSort le = front ++ back ∧ front.Perm (xs.filter early) ∧
      (∀ a ∈ front, early a) ∧ ∀ a ∈ back, early a = false := by
  have hsep' : Separates le early (xs.mergeSort le) := fun a ha b hb =>
    hsep a (List.mem_mergeSort.mp ha) b (List.mem_mergeSort.mp hb)
  refine ⟨_, _, eq_filter_append (List.pairwise_mergeSort htrans htotal xs) hsep',
    (List.mergeSort_perm xs le).filter _, fun a ha => (List.mem_filter.mp ha).2, fun a ha => ?_⟩
  simpa using (List.mem_filter.mp ha).2

/-- A batch that cannot hold all early items holds nothing else, and is full. -/
theorem pick_of_le (hsep : Separates le early xs) (hmany : limit ≤ (xs.filter early).length) :
    (pick le limit xs).length = limit ∧ ∀ a ∈ pick le limit xs, early a := by
  obtain ⟨front, back, hsort, hperm, hfront, -⟩ := mergeSort_eq htrans htotal hsep
  have hlength : limit ≤ front.length := by
    rw [hperm.length_eq]
    exact hmany
  have hpick : pick le limit xs = front.take limit := by
    unfold pick
    rw [hsort, List.take_append_of_le_length hlength]
  rw [hpick]
  exact ⟨List.length_take_of_le hlength, fun a ha => hfront a (List.mem_of_mem_take ha)⟩

/-- A batch with room for all early items takes all of them. -/
theorem mem_pick_of_le (hsep : Separates le early xs) (hfew : (xs.filter early).length ≤ limit) {a : α}
    (ha : a ∈ xs) (hearly : early a) : a ∈ pick le limit xs := by
  obtain ⟨front, back, hsort, hperm, -, -⟩ := mergeSort_eq htrans htotal hsep
  have hmem : a ∈ front := hperm.mem_iff.mpr (List.mem_filter.mpr ⟨ha, hearly⟩)
  have hlength : front.length ≤ limit := by
    rw [hperm.length_eq]
    exact hfew
  unfold pick
  rw [hsort, List.take_append, List.take_of_length_le hlength]
  exact List.mem_append_left _ hmem

/-- A batch that leaves an early item out is full, of early items. -/
theorem pick_of_not_mem (hsep : Separates le early xs) {a : α} (ha : a ∈ xs) (hearly : early a)
    (hnot : a ∉ pick le limit xs) :
    (pick le limit xs).length = limit ∧ ∀ b ∈ pick le limit xs, early b := by
  refine pick_of_le htrans htotal hsep (Nat.le_of_not_lt fun hfew => hnot ?_)
  exact mem_pick_of_le htrans htotal hsep (Nat.le_of_lt hfew) ha hearly

end

/-! ## Waiting -/

section

open Transition

variable {σ : Type} {step : σ → α → σ} {I P : σ → Prop} {G : σ → α → Prop} {m : σ → Nat} {cost gain : σ → α → Nat}

/-- As long as an item waits (`P`), each step pays its cost out of `m`, up to its gain. -/
theorem cost_le_of_waiting (hI : ∀ s a, I s → G s a → I (step s a))
    (hback : ∀ s a, I s → G s a → P (step s a) → P s)
    (hpay : ∀ s a, I s → G s a → P (step s a) → m (step s a) + cost s a ≤ m s + gain s a)
    {s : σ} {as : List α} (hs : I s) (hg : Guarded step G s as) (hend : P (run step s as)) :
    m (run step s as) + sumOver step cost s as ≤ m s + sumOver step gain s as := by
  induction as using List.reverseRecOn with
  | nil => exact le_rfl
  | append_singleton as a ih =>
    obtain ⟨hpre, hlast, -⟩ := guarded_append.mp hg
    have hI' := run_invariant hI hs hpre
    rw [run_concat] at hend ⊢
    have hbefore := ih hpre (hback _ a hI' hlast hend)
    have hstep := hpay _ a hI' hlast hend
    rw [sumOver_concat, sumOver_concat]
    omega

/-- An item has been served once the steps have cost all there was to pay out of. -/
theorem served_of_cost (hI : ∀ s a, I s → G s a → I (step s a))
    (hback : ∀ s a, I s → G s a → P (step s a) → P s)
    (hpay : ∀ s a, I s → G s a → P (step s a) → m (step s a) + cost s a ≤ m s + gain s a)
    (hpos : ∀ s, I s → P s → 0 < m s) {s : σ} {as : List α} (hs : I s) (hg : Guarded step G s as)
    (hcost : m s + sumOver step gain s as ≤ sumOver step cost s as) : ¬ P (run step s as) := by
  intro hend
  have hle := cost_le_of_waiting hI hback hpay hs hg hend
  have hm := hpos _ (run_invariant hI hs hg) hend
  omega

end

end Lib.OldestFirst
