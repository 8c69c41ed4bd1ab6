-- SUMMARY: Callers that work through queues of deliveries and may stop half-way: how often a delivery can be made over a whole run.
import HostPlatform.Lib.Transition
import Mathlib.Algebra.GroupWithZero.Nat

/-!
# Outboxes

Callers deliver what is queued for them, one after the other, and may stop at any time. What
has been delivered and what is still owed together grow only when something is queued. If
queueing uses up a credit, as many deliveries are made as credits were ever given.
-/

namespace Lib.Outbox

open Lib.Transition

variable {σ α : Type} {step : σ → α → σ}

/-- A measure that each step raises by at most `g`. -/
theorem measure_run_le {I : σ → Prop} {G : σ → α → Prop} {m : σ → Nat} {g : σ → α → Nat}
    (hI : ∀ s a, I s → G s a → I (step s a)) (hstep : ∀ s a, I s → G s a → m (step s a) ≤ m s + g s a) {s : σ}
    (hs : I s) {as : List α} (hg : Guarded step G s as) : m (run step s as) ≤ m s + sumOver step g s as := by
  induction as generalizing s with
  | nil => exact le_rfl
  | cons a as ih =>
    have hrest := ih (hI s a hs hg.1) hg.2
    have hone := hstep s a hs hg.1
    rw [run_cons, sumOver]
    omega

/-- What comes in is still there or has gone out. -/
theorem balance_run (total present : σ → Nat) {gone : σ → α → Nat}
    (h : ∀ s a, total (step s a) + present s = total s + present (step s a) + gone s a) (s : σ) (as : List α) :
    total (run step s as) + present s = total s + present (run step s as) + sumOver step gone s as := by
  induction as generalizing s with
  | nil => rfl
  | cons a as ih =>
    have hone := h s a
    have hrest := ih (step s a)
    rw [run_cons, sumOver]
    omega

/-! ## Credits -/

/-- The step gives the credit back. -/
def regained (step : σ → α → σ) (credit : σ → Bool) (s : σ) (a : α) : Nat :=
  (!credit s && credit (step s a)).toNat

/-- What the step queues, it pays for: with the credit it takes, or with an allowance. -/
def Pays (step : σ → α → σ) (credit : σ → Bool) (queued allowed : σ → α → Nat) (s : σ) (a : α) : Prop :=
  queued s a ≤ allowed s a ∨ queued s a ≤ 1 + allowed s a ∧ credit s = true ∧ credit (step s a) = false

/-- As much is delivered or owed as was before, with the credits there were and the allowances. -/
theorem delivered_run_le {credit : σ → Bool} {delivered owed : σ → Nat} {queued allowed : σ → α → Nat}
    (hconserve : ∀ s a, delivered (step s a) + owed (step s a) ≤ delivered s + owed s + queued s a)
    (hpays : ∀ s a, Pays step credit queued allowed s a) (s : σ) (as : List α) :
    delivered (run step s as) + owed (run step s as) + (credit (run step s as)).toNat ≤
      delivered s + owed s + (credit s).toNat +
        sumOver step (fun s a => regained step credit s a + allowed s a) s as := by
  refine measure_run_le (I := fun _ => True) (m := fun s => delivered s + owed s + (credit s).toNat)
    (fun _ _ _ _ => trivial) (fun s a _ _ => ?_) trivial (guarded_true as)
  have hqueued := hconserve s a
  unfold regained
  rcases hpays s a with hpaid | ⟨hpaid, hbefore, hafter⟩
  · cases credit s <;> cases credit (step s a) <;> simp <;> omega
  · rw [hbefore, hafter]
    simp only [Bool.toNat_true, Bool.toNat_false]
    omega

/-! ## Queues -/

variable {κ δ : Type}

/-- What the callers still owe, of the deliveries that count. -/
def owed (outstanding : κ → List δ) (counts : δ → Bool) (callers : List κ) : Nat :=
  (callers.map fun c => (outstanding c).countP counts).sum

theorem owed_append (outstanding : κ → List δ) (counts : δ → Bool) (callers : List κ) (c : κ) :
    owed outstanding counts (callers ++ [c]) = owed outstanding counts callers + (outstanding c).countP counts := by
  simp [owed]

theorem owed_set (outstanding : κ → List δ) (counts : δ → Bool) {callers : List κ} {i : Nat} {c : κ}
    (hc : callers[i]? = some c) (c' : κ) :
    owed outstanding counts (callers.set i c') + (outstanding c).countP counts =
      owed outstanding counts callers + (outstanding c').countP counts := by
  induction callers generalizing i with
  | nil => cases hc
  | cons d callers ih =>
    cases i with
    | zero =>
      cases hc
      simp only [owed, List.set_cons_zero, List.map_cons, List.sum_cons]
      omega
    | succ i =>
      have hrest := ih hc
      simp only [owed, List.set_cons_succ, List.map_cons, List.sum_cons] at hrest ⊢
      omega

end Lib.Outbox
