-- SUMMARY: Exclusive reservations of resources: a book of disjoint claims, and the two operations that keep it.
import Mathlib.Data.Set.Pairwise.Lattice
import Mathlib.Data.Set.Lattice
import Mathlib.Order.CompletePartialOrder

/-!
# Exclusive reservations

Holders `ι` reserve sets of resources `ρ`. The book records who holds, what each
holder claims, and which resources are taken; a value of the type carries the
proof that claims are taken and that no resource is claimed twice.
-/

namespace Lib

/-- Holders with pairwise disjoint claims, all of them taken. -/
structure Reservations (ι ρ : Type) where
  held : Set ι
  claim : ι → Set ρ
  taken : Set ρ
  covered : ∀ i ∈ held, claim i ⊆ taken
  disjoint : held.PairwiseDisjoint claim

namespace Reservations

variable {ι ρ : Type} (R : Reservations ι ρ)

/-- A resource has at most one holder. -/
theorem holder_unique {i j : ι} {x : ρ} (hi : i ∈ R.held) (hj : j ∈ R.held) (hxi : x ∈ R.claim i)
    (hxj : x ∈ R.claim j) : i = j := by
  by_contra hne
  exact Set.disjoint_left.mp (R.disjoint hi hj hne) hxi hxj

/-- Nobody holds anything. -/
def none (taken : Set ρ) : Reservations ι ρ where
  held := ∅
  claim := fun _ => ∅
  taken := taken
  covered := fun _ h => absurd h (Set.notMem_empty _)
  disjoint := Set.pairwiseDisjoint_empty

open Classical in
/-- A new holder takes resources that are free. -/
noncomputable def reserve (i : ι) (s : Set ρ) (hi : i ∉ R.held) (hfree : Disjoint s R.taken) :
    Reservations ι ρ where
  held := insert i R.held
  claim := Function.update R.claim i s
  taken := R.taken ∪ s
  covered := by
    intro j hj
    rcases Set.mem_insert_iff.mp hj with rfl | hj
    · rw [Function.update_self]
      exact Set.subset_union_right
    · have hne : j ≠ i := fun h => hi (h ▸ hj)
      rw [Function.update_of_ne hne]
      exact (R.covered j hj).trans Set.subset_union_left
  disjoint := by
    have hother : ∀ j ∈ R.held, Function.update R.claim i s j = R.claim j := by
      intro j hj
      have hne : j ≠ i := fun h => hi (h ▸ hj)
      exact Function.update_of_ne hne _ _
    refine Set.PairwiseDisjoint.insert ?_ ?_
    · intro j hj k hk hne
      show Disjoint (Function.update R.claim i s j) (Function.update R.claim i s k)
      rw [hother j hj, hother k hk]
      exact R.disjoint hj hk hne
    · intro j hj _
      rw [Function.update_self, hother j hj]
      exact hfree.mono_right (R.covered j hj)

section

variable {R} {i j : ι} {s : Set ρ} {x : ρ} {hi : i ∉ R.held} {hfree : Disjoint s R.taken}

@[simp] theorem mem_reserve_held : j ∈ (R.reserve i s hi hfree).held ↔ j = i ∨ j ∈ R.held :=
  Set.mem_insert_iff

@[simp] theorem mem_reserve_taken : x ∈ (R.reserve i s hi hfree).taken ↔ x ∈ R.taken ∨ x ∈ s := Iff.rfl

@[simp] theorem reserve_claim_self : (R.reserve i s hi hfree).claim i = s := by
  unfold reserve
  simp only [Function.update_self]

theorem reserve_claim_of_ne (h : j ≠ i) : (R.reserve i s hi hfree).claim j = R.claim j := by
  unfold reserve
  simp only [Function.update, dif_neg h]

end

/-- A holder gives back what it claimed. -/
def release (i : ι) (hi : i ∈ R.held) : Reservations ι ρ where
  held := R.held \ {i}
  claim := R.claim
  taken := R.taken \ R.claim i
  covered := by
    intro j hj x hx
    refine ⟨R.covered j hj.1 hx, fun hxi => ?_⟩
    exact hj.2 (R.holder_unique hj.1 hi hx hxi)
  disjoint := R.disjoint.subset Set.sdiff_subset

section

variable {R} {i j : ι} {x : ρ} {hi : i ∈ R.held}

@[simp] theorem mem_release_held : j ∈ (R.release i hi).held ↔ j ∈ R.held ∧ j ≠ i := Iff.rfl

@[simp] theorem mem_release_taken : x ∈ (R.release i hi).taken ↔ x ∈ R.taken ∧ x ∉ R.claim i := Iff.rfl

end

end Reservations

end Lib
