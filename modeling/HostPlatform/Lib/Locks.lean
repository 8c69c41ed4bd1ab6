-- SUMMARY: Locks that parties of a system hold by the state they are in, and their mutual exclusion.
import Mathlib.Data.Fintype.Basic
import Mathlib.Logic.Function.Basic

/-!
# Locks

Each of some parties is in a state, and the state says which lock, if any, the party
holds. A party takes a lock only when no other holds it.
-/

namespace Lib

variable {ι φ κ : Type}

/-- No other party than `i` holds the lock `k`. -/
def Free (lock : φ → Option κ) (parties : ι → φ) (i : ι) (k : κ) : Prop :=
  ∀ j, lock (parties j) = some k → j = i

/-- No two parties hold one lock. -/
def Exclusive (lock : φ → Option κ) (parties : ι → φ) : Prop :=
  ∀ i k, lock (parties i) = some k → Free lock parties i k

instance [Fintype ι] [DecidableEq ι] [DecidableEq κ] (lock : φ → Option κ) (parties : ι → φ) (i : ι) (k : κ) :
    Decidable (Free lock parties i k) :=
  inferInstanceAs (Decidable (∀ j, lock (parties j) = some k → j = i))

theorem exclusive_of_none {lock : φ → Option κ} {parties : ι → φ} (h : ∀ i, lock (parties i) = none) :
    Exclusive lock parties := by
  intro i k hi
  rw [h i] at hi
  cases hi

/-- A party that holds no lock afterwards, or the one it held, or one that was free, keeps locks exclusive. -/
theorem Exclusive.update [DecidableEq ι] {lock : φ → Option κ} {parties : ι → φ} (h : Exclusive lock parties)
    {i : ι} {p : φ} (hp : ∀ k, lock p = some k → lock (parties i) = some k ∨ Free lock parties i k) :
    Exclusive lock (Function.update parties i p) := by
  have hfree : ∀ k, lock p = some k → Free lock parties i k := fun k hk => (hp k hk).elim (h i k) id
  intro j k hj j' hj'
  simp only [Function.update_apply] at hj hj'
  split at hj
  case isTrue hji =>
    split at hj'
    case isTrue hji' => rw [hji, hji']
    case isFalse => exact (hfree k hj j' hj').trans hji.symm
  case isFalse hji =>
    split at hj'
    case isTrue hji' => exact hji'.trans (hfree k hj' j hj).symm
    case isFalse => exact h j k hj j' hj'

end Lib
