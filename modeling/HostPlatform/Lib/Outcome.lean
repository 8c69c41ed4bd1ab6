-- SUMMARY: Requests that end with a value and a new state, or with an error and the old one.
import Mathlib.Data.List.Forall2

/-!
# Outcomes of a request

A request that runs in one transaction returns `Except ε (α × σ)`: its answer
and the state it commits, or the error that rolls it back.
-/

namespace Lib

variable {ε σ α β : Type}

theorem bind_eq_ok {x : Except ε α} {f : α → Except ε β} {b : β} :
    x >>= f = .ok b ↔ ∃ a, x = .ok a ∧ f a = .ok b := by
  cases x with
  | error e =>
    refine ⟨fun h => ?_, ?_⟩
    · cases h
    · rintro ⟨a, h, -⟩
      cases h
  | ok a =>
    refine ⟨fun h => ⟨a, rfl, h⟩, ?_⟩
    rintro ⟨a', h, hf⟩
    cases h
    exact hf

theorem ok_bind (a : α) (f : α → Except ε β) : Except.ok a >>= f = f a := rfl

theorem bind_eq_error {x : Except ε α} {f : α → Except ε β} {e : ε} :
    x >>= f = .error e ↔ x = .error e ∨ ∃ a, x = .ok a ∧ f a = .error e := by
  cases x with
  | error e' =>
    refine ⟨fun h => .inl (by cases h; rfl), ?_⟩
    rintro (h | ⟨a, h, -⟩)
    · cases h
      rfl
    · cases h
  | ok a =>
    refine ⟨fun h => .inr ⟨a, rfl, h⟩, ?_⟩
    rintro (h | ⟨a', h, hf⟩)
    · cases h
    · cases h
      exact hf

theorem map_eq_ok {x : Except ε α} {f : α → β} {b : β} (h : x.map f = .ok b) : ∃ a, x = .ok a ∧ b = f a := by
  cases x with
  | error e => cases h
  | ok a =>
    cases h
    exact ⟨a, rfl, rfl⟩

theorem mapError_eq_ok {ε' : Type} {x : Except ε α} {f : ε → ε'} {a : α} (h : x.mapError f = .ok a) : x = .ok a := by
  cases x with
  | error e => cases h
  | ok b =>
    cases h
    rfl

/-- Fail with `e` unless `c` holds. -/
def require (c : Prop) [Decidable c] (e : ε) : Except ε Unit := if c then .ok () else .error e

@[simp] theorem require_eq_ok {c : Prop} [Decidable c] {e : ε} {u : Unit} :
    require c e = .ok u ↔ c := by
  unfold require
  split
  · rename_i h
    exact ⟨fun _ => h, fun _ => rfl⟩
  · rename_i h
    refine ⟨fun hok => ?_, fun hc => absurd hc h⟩
    cases hok

theorem require_of {c : Prop} [Decidable c] {e : ε} (h : c) : require c e = .ok () := if_pos h

theorem require_eq_error {c : Prop} [Decidable c] {e e' : ε} (h : require c e = .error e') : e' = e ∧ ¬ c := by
  unfold require at h
  split at h
  · cases h
  · rename_i hc
    exact ⟨(Except.error.inj h).symm, hc⟩

/-! ## One request for each element -/

theorem mapM_eq_error {f : α → Except ε β} {xs : List α} {e : ε} (h : xs.mapM f = .error e) :
    ∃ x ∈ xs, f x = .error e := by
  induction xs with
  | nil => cases h
  | cons x xs ih =>
    rw [List.mapM_cons] at h
    rcases bind_eq_error.mp h with h | ⟨_, -, h⟩
    · exact ⟨x, List.mem_cons_self, h⟩
    · rcases bind_eq_error.mp h with h | ⟨_, -, h⟩
      · obtain ⟨y, hy, hfail⟩ := ih h
        exact ⟨y, List.mem_cons_of_mem _ hy, hfail⟩
      · cases h

theorem mapM_eq_ok {f : α → Except ε β} {xs : List α} {ys : List β} (h : xs.mapM f = .ok ys) :
    List.Forall₂ (fun x y => f x = .ok y) xs ys := by
  induction xs generalizing ys with
  | nil =>
    cases h
    exact .nil
  | cons x xs ih =>
    rw [List.mapM_cons] at h
    obtain ⟨y, hy, h⟩ := bind_eq_ok.mp h
    obtain ⟨rest, hrest, h⟩ := bind_eq_ok.mp h
    cases h
    exact .cons hy (ih hrest)

/-- What holds of every answer holds of all answers. -/
theorem forall_mem_of_mapM {f : α → Except ε β} {xs : List α} {ys : List β} (h : xs.mapM f = .ok ys)
    {P : β → Prop} (hf : ∀ x y, f x = .ok y → P y) : ∀ y ∈ ys, P y := by
  have hall := mapM_eq_ok h
  clear h
  induction hall with
  | nil => exact List.forall_mem_nil P
  | cons hxy _ ih => exact List.forall_mem_cons.mpr ⟨hf _ _ hxy, ih⟩

/-! ## Commits -/

/-- The state a request leaves: the committed one, or the old one after an error. -/
def commit (s : σ) : Except ε (α × σ) → σ
  | .ok (_, s') => s'
  | .error _ => s

/-- What holds before a request and of every state it can commit holds after it. -/
theorem commit_of {P : σ → Prop} {s : σ} {r : Except ε (α × σ)} (hs : P s)
    (hok : ∀ a s', r = .ok (a, s') → P s') : P (commit s r) := by
  cases r with
  | error e => exact hs
  | ok p => exact hok p.1 p.2 rfl

end Lib
