-- SUMMARY: Deterministic labelled transition systems: runs, guarded runs, invariants, and the history of a run.
import Mathlib.Data.List.Induction
import Mathlib.Algebra.GroupWithZero.Nat
import Mathlib.Algebra.Ring.Int.Defs

/-!
# Runs of a transition system

A system is a total step function `step : σ → α → σ`; all nondeterminism
(generated names, clocks, answers of other parties) is in the label. A run is a
list of labels. A label that is not enabled leaves the state as it is, so every
list of labels is a run.
-/

namespace Lib.Transition

variable {σ α : Type} (step : σ → α → σ)

/-- The state a run ends in. -/
def run (s : σ) (as : List α) : σ := as.foldl step s

@[simp] theorem run_nil (s : σ) : run step s [] = s := rfl
@[simp] theorem run_cons (s : σ) (a : α) (as : List α) :
    run step s (a :: as) = run step (step s a) as := rfl

theorem run_append (s : σ) (as bs : List α) : run step s (as ++ bs) = run step (run step s as) bs :=
  List.foldl_append

@[simp] theorem run_concat (s : σ) (as : List α) (a : α) :
    run step s (as ++ [a]) = step (run step s as) a := run_append step s as [a]

/-! ## Guarded runs -/

/-- Every label of the run satisfies `G` in the state it is taken from. -/
def Guarded (G : σ → α → Prop) : σ → List α → Prop
  | _, [] => True
  | s, a :: as => G s a ∧ Guarded G (step s a) as

variable {step}

instance Guarded.decidable {G : σ → α → Prop} [∀ s a, Decidable (G s a)] :
    ∀ (s : σ) (as : List α), Decidable (Guarded step G s as)
  | _, [] => isTrue trivial
  | s, a :: as =>
    have := Guarded.decidable (G := G) (step s a) as
    inferInstanceAs (Decidable (G s a ∧ Guarded step G (step s a) as))

theorem guarded_append {G : σ → α → Prop} {s : σ} {as bs : List α} :
    Guarded step G s (as ++ bs) ↔ Guarded step G s as ∧ Guarded step G (run step s as) bs := by
  induction as generalizing s with
  | nil => simp [Guarded]
  | cons a as ih => simp [Guarded, ih, and_assoc]

theorem guarded_true {s : σ} (as : List α) : Guarded step (fun _ _ => True) s as := by
  induction as generalizing s with
  | nil => trivial
  | cons a as ih => exact ⟨trivial, ih⟩

theorem Guarded.mono {G H : σ → α → Prop} (h : ∀ s a, G s a → H s a) {s : σ} {as : List α}
    (hg : Guarded step G s as) : Guarded step H s as := by
  induction as generalizing s with
  | nil => trivial
  | cons a as ih => exact ⟨h _ _ hg.1, ih hg.2⟩

/-- Being guarded by `G` is `G` at every point the run passes through. -/
theorem guarded_iff {G : σ → α → Prop} {s : σ} {as : List α} :
    Guarded step G s as ↔ ∀ pre a suf, as = pre ++ a :: suf → G (run step s pre) a := by
  constructor
  · rintro h pre a suf rfl
    exact (guarded_append.mp h).2.1
  · intro h
    induction as generalizing s with
    | nil => trivial
    | cons a as ih =>
      refine ⟨h [] a as rfl, ih fun pre b suf has => ?_⟩
      exact h (a :: pre) b suf (by rw [has]; rfl)

theorem guarded_and {G H : σ → α → Prop} {s : σ} {as : List α} :
    Guarded step (fun s a => G s a ∧ H s a) s as ↔ Guarded step G s as ∧ Guarded step H s as := by
  simp only [guarded_iff]
  constructor
  · intro h
    exact ⟨fun pre a suf has => (h pre a suf has).1, fun pre a suf has => (h pre a suf has).2⟩
  · rintro ⟨hG, hH⟩ pre a suf has
    exact ⟨hG pre a suf has, hH pre a suf has⟩

/-- A quantity sums up what its labels stand for, at every point of a run, exactly if each
step changes it by its own label's amount. -/
theorem accounts_iff_guarded {m : σ → Int} {δ : α → Int} {s : σ} {as : List α} :
    (∀ pre suf, as = pre ++ suf → m (run step s pre) = m s + (pre.map δ).sum) ↔
      Guarded step (fun s a => m (step s a) = m s + δ a) s as := by
  constructor
  · intro h
    refine guarded_iff.mpr fun pre a suf has => ?_
    have hpre := h pre (a :: suf) has
    have hnext := h (pre ++ [a]) suf (by rw [has]; simp)
    simp only [run_concat, List.map_append, List.map_cons, List.map_nil, List.sum_append, List.sum_cons,
      List.sum_nil] at hnext
    omega
  · rintro hg pre suf rfl
    have hpre := (guarded_append.mp hg).1
    clear hg
    induction pre generalizing s with
    | nil => simp
    | cons a pre ih =>
      have hrest := ih hpre.2
      simp only [run_cons, List.map_cons, List.sum_cons, hpre.1] at hrest ⊢
      omega

/-! ## Invariants -/

/-- A property that every guarded step keeps holds at the end of every guarded run. -/
theorem run_invariant {I : σ → Prop} {G : σ → α → Prop} (hstep : ∀ s a, I s → G s a → I (step s a))
    {s : σ} {as : List α} (hs : I s) (hg : Guarded step G s as) : I (run step s as) := by
  induction as generalizing s with
  | nil => exact hs
  | cons a as ih => exact ih (hstep s a hs hg.1) hg.2

/-- The unguarded case: what every step keeps holds after every run. -/
theorem run_invariant' {I : σ → Prop} (hstep : ∀ s a, I s → I (step s a)) {s : σ} (hs : I s)
    (as : List α) : I (run step s as) := by
  induction as generalizing s with
  | nil => exact hs
  | cons a as ih => exact ih (hstep s a hs)

/-- Guards that agree on the states of an invariant guard the same runs. -/
theorem guarded_congr {I : σ → Prop} {G H : σ → α → Prop} (hstep : ∀ s a, I s → I (step s a))
    (hiff : ∀ s a, I s → (G s a ↔ H s a)) {s : σ} {as : List α} (hs : I s) :
    Guarded step G s as ↔ Guarded step H s as := by
  induction as generalizing s with
  | nil => exact Iff.rfl
  | cons a as ih => exact and_congr (hiff s a hs) (ih (hstep s a hs))

/-- A relation that every guarded step makes holds between the ends of a guarded run. -/
theorem run_relates {I : σ → Prop} {G : σ → α → Prop} {R : σ → σ → Prop} (hI : ∀ s a, I s → I (step s a))
    (hrefl : ∀ s, R s s) (htrans : ∀ s t u, R s t → R t u → R s u)
    (hstep : ∀ s a, I s → G s a → R s (step s a)) {s : σ} {as : List α} (hs : I s)
    (hg : Guarded step G s as) : R s (run step s as) := by
  induction as generalizing s with
  | nil => exact hrefl s
  | cons a as ih => exact htrans _ _ _ (hstep s a hs hg.1) (ih (hI s a hs) hg.2)

/-- Any two points of a run are related exactly if each of its steps is guarded by what
makes it relate its ends. -/
theorem relates_iff_guarded {I : σ → Prop} {G : σ → α → Prop} {R : σ → σ → Prop}
    (hI : ∀ s a, I s → I (step s a)) (hrefl : ∀ s, R s s) (htrans : ∀ s t u, R s t → R t u → R s u)
    (hiff : ∀ s a, I s → (R s (step s a) ↔ G s a)) {s : σ} {as : List α} (hs : I s) :
    (∀ pre mid suf, as = pre ++ mid ++ suf → R (run step s pre) (run step s (pre ++ mid))) ↔
      Guarded step G s as := by
  have hpre : ∀ pre, I (run step s pre) := run_invariant' hI hs
  constructor
  · intro h
    refine guarded_iff.mpr fun pre a suf has => (hiff _ a (hpre pre)).mp ?_
    have hrel := h pre [a] suf (by rw [has]; simp)
    rw [run_concat] at hrel
    exact hrel
  · rintro hg pre mid suf rfl
    rw [run_append]
    exact run_relates hI hrefl htrans (fun s a hs => (hiff s a hs).mpr) (hpre pre)
      (guarded_append.mp (guarded_append.mp hg).1).2

/-- A property that holds at first holds in every state of a run exactly if each of its
steps is guarded by what keeps it. -/
theorem always_iff_guarded {I P : σ → Prop} {G : σ → α → Prop} (hI : ∀ s a, I s → I (step s a))
    (hiff : ∀ s a, I s → P s → (P (step s a) ↔ G s a)) {s : σ} {as : List α} (hs : I s) (h0 : P s) :
    (∀ pre suf, as = pre ++ suf → P (run step s pre)) ↔ Guarded step G s as := by
  have hpre : ∀ pre, I (run step s pre) := run_invariant' hI hs
  constructor
  · intro h
    refine guarded_iff.mpr fun pre a suf has => (hiff _ a (hpre pre) (h pre (a :: suf) has)).mp ?_
    have hnext := h (pre ++ [a]) suf (by rw [has]; simp)
    rw [run_concat] at hnext
    exact hnext
  · rintro hg pre suf rfl
    exact (run_invariant (I := fun s => I s ∧ P s)
      (fun s a h hg => ⟨hI s a h.1, (hiff s a h.1 h.2).mpr hg⟩) ⟨hs, h0⟩ (guarded_append.mp hg).1).2

/-- A property that each step loses exactly if it is not guarded, and no later step regains,
holds at the end of a run exactly if the run is guarded. `I` is known of the end, and of a state
if it is of the next one. -/
theorem end_iff_guarded {I J P : σ → Prop} {G : σ → α → Prop} (hI : ∀ s a, I (step s a) → I s)
    (hJ : ∀ s a, J s → I (step s a) → J (step s a))
    (hiff : ∀ s a, J s → I (step s a) → (P (step s a) ↔ P s ∧ G s a)) {s : σ} {as : List α} (hs : J s)
    (h0 : P s) (hend : I (run step s as)) :
    J (run step s as) ∧ (P (run step s as) ↔ Guarded step G s as) := by
  induction as using List.reverseRecOn with
  | nil => exact ⟨hs, iff_of_true h0 trivial⟩
  | append_singleton as a ih =>
    rw [run_concat] at hend ⊢
    obtain ⟨hpre, hguarded⟩ := ih (hI _ a hend)
    refine ⟨hJ _ a hpre hend, ?_⟩
    rw [hiff _ a hpre hend, hguarded, guarded_append]
    simp [Guarded]

/-- A flag that is down at first and up in the end, and that no step lowers, was
raised by exactly one step of the run. -/
theorem run_latch {I S : σ → Prop} {R : σ → α → Prop} (hI : ∀ s a, I s → I (step s a))
    (hraise : ∀ s a, I s → (R s a ↔ ¬ S s ∧ S (step s a)))
    (hstay : ∀ s a, I s → S s → S (step s a)) {s : σ} {as : List α} (hs : I s) (h0 : ¬ S s)
    (h : S (run step s as)) :
    ∃ pre a suf, as = pre ++ a :: suf ∧ R (run step s pre) a ∧
      ∀ pre' a' suf', as = pre' ++ a' :: suf' → R (run step s pre') a' → pre' = pre := by
  induction as generalizing s with
  | nil => exact absurd h h0
  | cons a as ih =>
    by_cases hup : S (step s a)
    · refine ⟨[], a, as, rfl, (hraise s a hs).mpr ⟨h0, hup⟩, fun pre' a' suf' has hR => ?_⟩
      cases pre' with
      | nil => rfl
      | cons b pre' =>
        cases has
        have hstill := run_invariant' (I := fun s' => I s' ∧ S s')
          (fun s' a h => ⟨hI s' a h.1, hstay s' a h.1 h.2⟩) ⟨hI s a hs, hup⟩ pre'
        exact absurd hstill.2 ((hraise _ a' hstill.1).mp hR).1
    · obtain ⟨pre, b, suf, has, hR, honly⟩ := ih (hI s a hs) hup h
      refine ⟨a :: pre, b, suf, by rw [has]; rfl, hR, fun pre' a' suf' has' hR' => ?_⟩
      cases pre' with
      | nil =>
        cases has'
        exact absurd ((hraise s a hs).mp hR').2 hup
      | cons c pre' =>
        cases has'
        rw [honly pre' a' suf' rfl hR']

/-! ## History -/

/-- `φ x` held in some state of the run, the last one included. -/
def Once {β : Type} (step : σ → α → σ) (φ : σ → β → Prop) (s : σ) (as : List α) (x : β) : Prop :=
  ∃ pre suf, as = pre ++ suf ∧ φ (run step s pre) x

theorem once_nil {β : Type} {φ : σ → β → Prop} {s : σ} {x : β} :
    Once step φ s [] x ↔ φ s x := by
  constructor
  · rintro ⟨pre, suf, h, hφ⟩
    obtain ⟨rfl, rfl⟩ := List.append_eq_nil_iff.mp h.symm
    exact hφ
  · intro h
    exact ⟨[], [], rfl, h⟩

theorem once_concat {β : Type} {φ : σ → β → Prop} {s : σ} {as : List α} {a : α} {x : β} :
    Once step φ s (as ++ [a]) x ↔ Once step φ s as x ∨ φ (step (run step s as) a) x := by
  constructor
  · rintro ⟨pre, suf, h, hφ⟩
    rcases List.eq_nil_or_concat suf with rfl | ⟨suf, b, rfl⟩
    · right
      rw [List.append_nil] at h
      rw [← h, run_concat] at hφ
      exact hφ
    · left
      rw [List.concat_eq_append, ← List.append_assoc] at h
      obtain ⟨has, -⟩ := List.append_inj' h rfl
      exact ⟨pre, suf, has, hφ⟩
  · rintro (⟨pre, suf, rfl, hφ⟩ | hφ)
    · exact ⟨pre, suf ++ [a], List.append_assoc _ _ _, hφ⟩
    · exact ⟨as ++ [a], [], (List.append_nil _).symm, by rwa [run_concat]⟩

/-- Some step of the run did `φ` to `x`. -/
def Did {β : Type} (step : σ → α → σ) (φ : σ → α → β → Prop) (s : σ) (as : List α) (x : β) : Prop :=
  ∃ pre a suf, as = pre ++ a :: suf ∧ φ (run step s pre) a x

theorem not_did_nil {β : Type} {φ : σ → α → β → Prop} {s : σ} {x : β} : ¬ Did step φ s [] x := by
  rintro ⟨pre, a, suf, h, -⟩
  cases pre <;> cases h

theorem did_concat {β : Type} {φ : σ → α → β → Prop} {s : σ} {as : List α} {a : α} {x : β} :
    Did step φ s (as ++ [a]) x ↔ Did step φ s as x ∨ φ (run step s as) a x := by
  constructor
  · rintro ⟨pre, b, suf, h, hφ⟩
    rcases List.eq_nil_or_concat suf with rfl | ⟨suf, c, rfl⟩
    · right
      obtain ⟨rfl, hab⟩ := List.append_inj' h rfl
      cases hab
      exact hφ
    · left
      rw [List.concat_eq_append, ← List.cons_append, ← List.append_assoc] at h
      obtain ⟨has, -⟩ := List.append_inj' h rfl
      exact ⟨pre, b, suf, has, hφ⟩
  · rintro (⟨pre, b, suf, rfl, hφ⟩ | hφ)
    · exact ⟨pre, b, suf ++ [a], by simp, hφ⟩
    · exact ⟨as, a, [], rfl, hφ⟩

theorem did_cons {β : Type} {φ : σ → α → β → Prop} {s : σ} {as : List α} {a : α} {x : β} :
    Did step φ s (a :: as) x ↔ φ s a x ∨ Did step φ (step s a) as x := by
  constructor
  · rintro ⟨pre, b, suf, h, hφ⟩
    cases pre with
    | nil =>
      cases h
      exact .inl hφ
    | cons c pre =>
      cases h
      exact .inr ⟨pre, b, suf, rfl, hφ⟩
  · rintro (hφ | ⟨pre, b, suf, rfl, hφ⟩)
    · exact ⟨[], a, as, rfl, hφ⟩
    · exact ⟨a :: pre, b, suf, rfl, hφ⟩

theorem Did.append {β : Type} {φ : σ → α → β → Prop} {s : σ} {as : List α} {x : β}
    (h : Did step φ s as x) (bs : List α) : Did step φ s (as ++ bs) x := by
  obtain ⟨pre, a, suf, rfl, hφ⟩ := h
  exact ⟨pre, a, suf ++ bs, by simp, hφ⟩

/-- What `f` sees at the steps of the run, in their order. -/
def collect {β : Type} (step : σ → α → σ) (f : σ → α → Option β) : σ → List α → List β
  | _, [] => []
  | s, a :: as => (f s a).toList ++ collect step f (step s a) as

theorem collect_append {β : Type} {f : σ → α → Option β} {s : σ} {as bs : List α} :
    collect step f s (as ++ bs) = collect step f s as ++ collect step f (run step s as) bs := by
  induction as generalizing s with
  | nil => rfl
  | cons a as ih => simp [collect, ih]

theorem collect_concat {β : Type} {f : σ → α → Option β} {s : σ} {as : List α} {a : α} :
    collect step f s (as ++ [a]) = collect step f s as ++ (f (run step s as) a).toList := by
  rw [collect_append]
  simp [collect]

theorem mem_collect {β : Type} {f : σ → α → Option β} {s : σ} {as : List α} {x : β} :
    x ∈ collect step f s as ↔ Did step (fun s a x => f s a = some x) s as x := by
  induction as generalizing s with
  | nil => exact ⟨fun h => absurd h List.not_mem_nil, fun h => absurd h not_did_nil⟩
  | cons a as ih =>
    rw [collect, List.mem_append, Option.mem_toList, ih, did_cons]

/-- Invariants that speak about the past: `J` relates the state to a history `H`,
a set that each step may extend. -/
theorem run_invariant_history {β : Type} {H : List α → β → Prop} {ψ : σ → α → β → Prop} {s : σ}
    (hconcat : ∀ as a x, H (as ++ [a]) x ↔ H as x ∨ ψ (run step s as) a x)
    {J : σ → (β → Prop) → Prop} {G : σ → (β → Prop) → α → Prop} (hs : J s (H []))
    (hstep : ∀ s' C a, J s' C → G s' C a → J (step s' a) (fun x => C x ∨ ψ s' a x)) {as : List α}
    (hg : ∀ pre a suf, as = pre ++ a :: suf → G (run step s pre) (H pre) a) :
    J (run step s as) (H as) := by
  induction as using List.reverseRecOn with
  | nil => exact hs
  | append_singleton as a ih =>
    have hih := ih fun pre b suf has => hg pre b (suf ++ [a]) (by rw [has]; simp)
    have hnext := hstep _ _ a hih (hg as a [] rfl)
    have hsame : H (as ++ [a]) = fun x => H as x ∨ ψ (run step s as) a x :=
      funext fun x => propext (hconcat as a x)
    rw [run_concat, hsame]
    exact hnext

/-- The history of what `φ` held for, the initial state included. -/
theorem run_invariant_once {β : Type} {φ : σ → β → Prop} {J : σ → (β → Prop) → Prop} {s : σ}
    {G : σ → (β → Prop) → α → Prop} (hs : J s (φ s))
    (hstep : ∀ s' C a, J s' C → G s' C a → J (step s' a) (fun x => C x ∨ φ (step s' a) x))
    {as : List α}
    (hg : ∀ pre a suf, as = pre ++ a :: suf → G (run step s pre) (Once step φ s pre) a) :
    J (run step s as) (Once step φ s as) := by
  refine run_invariant_history (fun as a x => once_concat) ?_ hstep hg
  have hnil : Once step φ s [] = φ s := funext fun x => propext once_nil
  rw [hnil]
  exact hs

/-- The history of what some step did. -/
theorem run_invariant_did {β : Type} {φ : σ → α → β → Prop} {J : σ → (β → Prop) → Prop} {s : σ}
    {G : σ → (β → Prop) → α → Prop} (hs : J s fun _ => False)
    (hstep : ∀ s' C a, J s' C → G s' C a → J (step s' a) (fun x => C x ∨ φ s' a x)) {as : List α}
    (hg : ∀ pre a suf, as = pre ++ a :: suf → G (run step s pre) (Did step φ s pre) a) :
    J (run step s as) (Did step φ s as) := by
  refine run_invariant_history (fun as a x => did_concat) ?_ hstep hg
  have hnil : Did step φ s [] = fun _ => False := funext fun x => propext ⟨not_did_nil, nofun⟩
  rw [hnil]
  exact hs

/-- The history as a list: `J` relates the state to what `f` has seen so far. -/
theorem run_invariant_collect {β : Type} {f : σ → α → Option β} {J : σ → List β → Prop} {G : σ → α → Prop}
    {s : σ} (hs : J s []) (hstep : ∀ s' l a, J s' l → G s' a → J (step s' a) (l ++ (f s' a).toList)) {as : List α}
    (hg : Guarded step G s as) : J (run step s as) (collect step f s as) := by
  induction as using List.reverseRecOn with
  | nil => exact hs
  | append_singleton as a ih =>
    obtain ⟨hpre, hlast, -⟩ := guarded_append.mp hg
    rw [run_concat, collect_concat]
    exact hstep _ _ a (ih hpre) hlast

/-! ## Sums -/

/-- What `g` adds up to over the steps of a run. -/
def sumOver (step : σ → α → σ) (g : σ → α → Nat) : σ → List α → Nat
  | _, [] => 0
  | s, a :: as => g s a + sumOver step g (step s a) as

theorem sumOver_concat (g : σ → α → Nat) (s : σ) (as : List α) (a : α) :
    sumOver step g s (as ++ [a]) = sumOver step g s as + g (run step s as) a := by
  induction as generalizing s with
  | nil => exact Nat.add_comm _ _
  | cons b as ih =>
    rw [List.cons_append, sumOver, ih, sumOver, run_cons]
    omega

theorem sumOver_eq_zero {g : σ → α → Nat} (h : ∀ s a, g s a = 0) {s : σ} {as : List α} : sumOver step g s as = 0 := by
  induction as generalizing s with
  | nil => rfl
  | cons a as ih => rw [sumOver, h, ih]

theorem sumOver_label (c : α → Nat) (s : σ) (as : List α) : sumOver step (fun _ a => c a) s as = (as.map c).sum := by
  induction as generalizing s with
  | nil => rfl
  | cons a as ih => rw [sumOver, ih, List.map_cons, List.sum_cons]

/-- A cost that only some labels have. -/
theorem sumOver_cost (p : α → Bool) (c : Nat) (s : σ) (as : List α) :
    sumOver step (fun _ a => if p a then c else 0) s as = c * as.countP p := by
  induction as generalizing s with
  | nil => rfl
  | cons a as ih =>
    rw [sumOver, ih, List.countP_cons]
    split
    · rw [Nat.mul_add, Nat.mul_one, Nat.add_comm]
    · rw [Nat.zero_add, Nat.add_zero]

/-! ## Refinement -/

/-- If every step of the concrete system is a short run of the abstract one
under `abs`, every concrete run is an abstract run. -/
theorem run_refines {σ' α' : Type} {step' : σ' → α' → σ'} (abs : σ → σ') (G : α' → Prop)
    (hsim : ∀ s a, ∃ bs, (∀ b ∈ bs, G b) ∧ abs (step s a) = run step' (abs s) bs) (s : σ)
    (as : List α) : ∃ bs, (∀ b ∈ bs, G b) ∧ abs (run step s as) = run step' (abs s) bs := by
  induction as generalizing s with
  | nil => exact ⟨[], by simp, rfl⟩
  | cons a as ih =>
    obtain ⟨bs, hG, hbs⟩ := hsim s a
    obtain ⟨cs, hG', hcs⟩ := ih (step s a)
    refine ⟨bs ++ cs, ?_, ?_⟩
    · intro b hb
      rcases List.mem_append.mp hb with hb | hb
      · exact hG b hb
      · exact hG' b hb
    · rw [run_cons, hcs, hbs, run_append]

/-- If every guarded step is at most one step of a part of the state, the part makes a run of its own. -/
theorem run_projects {σ' α' : Type} {step' : σ' → α' → σ'} (proj : σ → σ') {label? : σ → α → Option α'}
    {G : σ → α → Prop} (hstep : ∀ s a, G s a → proj (step s a) = (label? s a).elim (proj s) (step' (proj s)))
    {s : σ} {as : List α} (hg : Guarded step G s as) :
    proj (run step s as) = run step' (proj s) (collect step label? s as) := by
  induction as generalizing s with
  | nil => rfl
  | cons a as ih =>
    rw [run_cons, ih hg.2, hstep s a hg.1, collect, run_append]
    cases label? s a with
    | none => rfl
    | some b => rfl

end Lib.Transition
