-- SUMMARY: Rate limiting by a counter that starts anew when its window is over: how much it lets through in any stretch of time, and why it refuses.
import HostPlatform.Lib.Transition
import Mathlib.Algebra.GroupWithZero.Nat
import Mathlib.Tactic.Linarith
import Mathlib.Tactic.Ring

/-!
# Fixed windows

The first request opens a window. Up to a limit of requests are admitted before the window
is over, and the first request after its end opens the next one. Times are non-decreasing.
-/

namespace Lib.FixedWindow

structure Bucket where
  count : Nat
  resetAt : Nat
  deriving DecidableEq, Repr

variable (limit window : Nat)

/-- Whether a request is admitted, and the bucket after it. -/
def hit (now : Nat) : Option Bucket → Bool × Bucket
  | none => (true, ⟨1, now + window⟩)
  | some b =>
    if b.resetAt < now then (true, ⟨1, now + window⟩)
    else if limit ≤ b.count then (false, b)
    else (true, ⟨b.count + 1, b.resetAt⟩)

/-- The bucket after requests at these times. -/
def after (b : Option Bucket) (nows : List Nat) : Option Bucket :=
  nows.foldl (fun b now => some (hit limit window now b).2) b

/-- The times of the requests that are admitted. -/
def admitted : Option Bucket → List Nat → List Nat
  | _, [] => []
  | b, now :: nows =>
    (if (hit limit window now b).1 then [now] else []) ++ admitted (some (hit limit window now b).2) nows

variable {limit window}

theorem admitted_concat (b : Option Bucket) (nows : List Nat) (now : Nat) :
    admitted limit window b (nows ++ [now]) = admitted limit window b nows ++
      (if (hit limit window now (after limit window b nows)).1 then [now] else []) := by
  induction nows generalizing b with
  | nil =>
    change _ ++ [] = [] ++ _
    rw [List.append_nil]
    rfl
  | cons t nows ih =>
    rw [List.cons_append, admitted, ih, admitted, List.append_assoc]
    rfl

theorem after_concat (b : Option Bucket) (nows : List Nat) (now : Nat) :
    after limit window b (nows ++ [now]) = some (hit limit window now (after limit window b nows)).2 :=
  List.foldl_append

/-- What a request does: open a window, take a place in the open one, or find it full. -/
theorem hit_cases (limit window now : Nat) (b : Option Bucket) :
    ((∀ b' ∈ b, b'.resetAt < now) ∧ hit limit window now b = (true, ⟨1, now + window⟩)) ∨
      ∃ b', b = some b' ∧ now ≤ b'.resetAt ∧
        (b'.count < limit ∧ hit limit window now b = (true, ⟨b'.count + 1, b'.resetAt⟩) ∨
          limit ≤ b'.count ∧ hit limit window now b = (false, b')) := by
  cases b with
  | none => exact .inl ⟨fun _ hb => (by cases hb), rfl⟩
  | some b =>
    by_cases hover : b.resetAt < now
    · refine .inl ⟨fun b' hb' => ?_, by rw [hit, if_pos hover]⟩
      cases hb'
      exact hover
    · refine .inr ⟨b, rfl, by omega, ?_⟩
      by_cases hfull : limit ≤ b.count
      · exact .inr ⟨hfull, by rw [hit, if_neg hover, if_pos hfull]⟩
      · exact .inl ⟨by omega, by rw [hit, if_neg hover, if_neg hfull]⟩

/-- How full a bucket is, and how far away the end of its window is. -/
structure Live (limit window last : Nat) (b : Bucket) : Prop where
  pos : 1 ≤ b.count
  le : b.count ≤ limit
  near : b.resetAt ≤ last + window

theorem Live.hit {last now : Nat} (hlimit : 1 ≤ limit) (hnow : last ≤ now) {b : Option Bucket}
    (h : ∀ b' ∈ b, Live limit window last b') : Live limit window now (FixedWindow.hit limit window now b).2 := by
  rcases hit_cases limit window now b with ⟨-, hhit⟩ | ⟨b', rfl, -, ⟨hroom, hhit⟩ | ⟨-, hhit⟩⟩
  · rw [hhit]
    exact ⟨le_rfl, hlimit, le_rfl⟩
  · obtain ⟨-, -, hnear⟩ := h b' rfl
    rw [hhit]
    exact ⟨Nat.le_add_left 1 _, hroom, hnear.trans (Nat.add_le_add_right hnow window)⟩
  · obtain ⟨hpos, hle, hnear⟩ := h b' rfl
    rw [hhit]
    exact ⟨hpos, hle, hnear.trans (Nat.add_le_add_right hnow window)⟩

/-- The times before the last one of a sorted list, and it. -/
theorem sorted_concat {nows : List Nat} {now : Nat} (h : (nows ++ [now]).Pairwise (· ≤ ·)) :
    nows.Pairwise (· ≤ ·) ∧ ∀ t ∈ nows, t ≤ now := by
  obtain ⟨hnows, -, hle⟩ := List.pairwise_append.mp h
  exact ⟨hnows, fun t ht => hle t ht now List.mem_cons_self⟩

theorem live_after (hlimit : 1 ≤ limit) {nows : List Nat} (hsorted : nows.Pairwise (· ≤ ·)) {last : Nat}
    (hlast : ∀ t ∈ nows, t ≤ last) : ∀ b ∈ after limit window none nows, Live limit window last b := by
  induction nows using List.reverseRecOn generalizing last with
  | nil => intro b hb; cases hb
  | append_singleton nows now ih =>
    obtain ⟨hnows, hbefore⟩ := sorted_concat hsorted
    intro b hb
    rw [after_concat] at hb
    cases hb
    obtain ⟨hpos, hle, hnear⟩ := Live.hit hlimit le_rfl (ih hnows hbefore)
    have hnow : now ≤ last := hlast now (List.mem_append_right _ List.mem_cons_self)
    exact ⟨hpos, hle, hnear.trans (Nat.add_le_add_right hnow window)⟩

/-! ## Any stretch of time -/

/-- How many of the times lie in `[x, y]`. -/
def between (x y : Nat) (times : List Nat) : Nat := times.countP fun t => decide (x ≤ t ∧ t ≤ y)

theorem le_of_windows {x k n now : Nat} (h : x + n * (window + 1) ≤ now + window) (hnow : now ≤ x + k * window) :
    n ≤ k := by
  by_contra hlt
  have hmul : (k + 1) * (window + 1) ≤ n * (window + 1) := Nat.mul_le_mul_right _ (by omega)
  have hexpand : (k + 1) * (window + 1) = k * window + k + window + 1 := by ring
  omega

/-- Of what was taken in a stretch, all but what the bucket holds filled windows before it. -/
def Filled (limit window x taken : Nat) (b : Bucket) : Prop :=
  taken = 0 ∨ ∃ n, taken ≤ n * limit + b.count ∧ x + n * (window + 1) ≤ b.resetAt

/-- One request more, counted only if it is admitted in the stretch. -/
theorem Filled.hit {x taken extra last now : Nat} {b : Option Bucket}
    (hlive : ∀ b' ∈ b, Live limit window last b') (h : taken = 0 ∨ ∃ b', b = some b' ∧ Filled limit window x taken b')
    (hextra : extra = 0 ∨ extra = 1 ∧ x ≤ now ∧ (FixedWindow.hit limit window now b).1 = true) :
    Filled limit window x (taken + extra) (FixedWindow.hit limit window now b).2 := by
  rcases hit_cases limit window now b with ⟨hover, hhit⟩ | ⟨b', rfl, hopen, ⟨hroom, hhit⟩ | ⟨-, hhit⟩⟩
  · -- The window that ends has been filled at most, and the new one holds this request.
    rw [hhit] at hextra ⊢
    have hnone : taken = 0 → Filled limit window x (taken + extra) ⟨1, now + window⟩ := by
      rintro rfl
      rcases hextra with rfl | ⟨rfl, hfrom, -⟩
      · exact .inl rfl
      · exact .inr ⟨0, by simp, by simp only; omega⟩
    rcases h with h | ⟨b', rfl, h | ⟨n, htaken, hwindows⟩⟩
    · exact hnone h
    · exact hnone h
    · have hle := (hlive b' rfl).le
      have hlt := hover b' rfl
      have hexpand : (n + 1) * (window + 1) = n * (window + 1) + window + 1 := by ring
      have hfilled : (n + 1) * limit = n * limit + limit := by ring
      refine .inr ⟨n + 1, ?_, ?_⟩
      · simp only
        omega
      · simp only
        omega
  · rw [hhit] at hextra ⊢
    have hnone : taken = 0 → Filled limit window x (taken + extra) ⟨b'.count + 1, b'.resetAt⟩ := by
      rintro rfl
      rcases hextra with rfl | ⟨rfl, hfrom, -⟩
      · exact .inl rfl
      · exact .inr ⟨0, by simp, by simp only; omega⟩
    rcases h with h | ⟨_, ⟨⟩, h | ⟨n, htaken, hwindows⟩⟩
    · exact hnone h
    · exact hnone h
    · exact .inr ⟨n, by simp only; omega, hwindows⟩
  · rw [hhit] at hextra ⊢
    rcases hextra with rfl | ⟨-, -, ⟨⟩⟩
    rcases h with h | ⟨_, ⟨⟩, h⟩
    · exact .inl h
    · exact h

theorem between_concat (x y : Nat) (times : List Nat) (t : Nat) :
    between x y (times ++ [t]) = between x y times + if x ≤ t ∧ t ≤ y then 1 else 0 := by
  unfold between
  rw [List.countP_append, List.countP_singleton]
  simp only [decide_eq_true_eq]

/-- In any `k` windows' time, at most `k + 1` windows' worth of requests are admitted. -/
theorem between_admitted_le (hlimit : 1 ≤ limit) {nows : List Nat} (hsorted : nows.Pairwise (· ≤ ·)) (x k : Nat) :
    between x (x + k * window) (admitted limit window none nows) ≤ (k + 1) * limit := by
  suffices h : between x (x + k * window) (admitted limit window none nows) ≤ (k + 1) * limit ∧
      (between x (x + k * window) (admitted limit window none nows) = 0 ∨ ∃ b, after limit window none nows = some b ∧
        Filled limit window x (between x (x + k * window) (admitted limit window none nows)) b) from h.1
  induction nows using List.reverseRecOn with
  | nil => exact ⟨Nat.zero_le _, .inl rfl⟩
  | append_singleton nows now ih =>
    obtain ⟨hnows, hbefore⟩ := sorted_concat hsorted
    obtain ⟨hle, hfilled⟩ := ih hnows
    have hlive : ∀ b ∈ after limit window none nows, Live limit window now b :=
      live_after hlimit hnows hbefore
    have hnext := Live.hit hlimit le_rfl hlive
    rw [admitted_concat, after_concat]
    by_cases hcounted : (hit limit window now (after limit window none nows)).1 = true ∧
        x ≤ now ∧ now ≤ x + k * window
    · obtain ⟨hhit, hfrom, hto⟩ := hcounted
      rw [if_pos hhit, between_concat, if_pos ⟨hfrom, hto⟩]
      have hgrown := Filled.hit hlive hfilled (.inr ⟨rfl, hfrom, hhit⟩)
      refine ⟨?_, .inr ⟨_, rfl, hgrown⟩⟩
      rcases hgrown with hzero | ⟨n, htaken, hwindows⟩
      · omega
      · have hn : n ≤ k := le_of_windows (hwindows.trans hnext.near) hto
        have hfull := hnext.le
        have hmul : n * limit ≤ k * limit := Nat.mul_le_mul_right _ hn
        have hexpand : (k + 1) * limit = k * limit + limit := by ring
        omega
    · have hsame : between x (x + k * window) (admitted limit window none nows ++
          if (hit limit window now (after limit window none nows)).1 = true then [now] else []) =
          between x (x + k * window) (admitted limit window none nows) := by
        split
        case isTrue hhit => rw [between_concat, if_neg fun h => hcounted ⟨hhit, h⟩, Nat.add_zero]
        case isFalse => rw [List.append_nil]
      rw [hsame]
      exact ⟨hle, .inr ⟨_, rfl, Filled.hit hlive hfilled (.inl rfl)⟩⟩

/-! ## Refusals -/

/-- What a bucket counts was admitted in its window. -/
theorem count_le_admitted (hlimit : 1 ≤ limit) {nows : List Nat} (hsorted : nows.Pairwise (· ≤ ·)) :
    ∀ b ∈ after limit window none nows,
      b.count ≤ (admitted limit window none nows).countP fun t => decide (b.resetAt ≤ t + window) := by
  induction nows using List.reverseRecOn with
  | nil => intro b hb; cases hb
  | append_singleton nows now ih =>
    obtain ⟨hnows, hbefore⟩ := sorted_concat hsorted
    intro b hb
    rw [after_concat] at hb
    cases hb
    have hlive : ∀ b ∈ after limit window none nows, Live limit window now b :=
      live_after hlimit hnows hbefore
    have hih := ih hnows
    rw [admitted_concat, List.countP_append]
    generalize after limit window none nows = bucket at hlive hih
    rcases hit_cases limit window now bucket with ⟨-, hhit⟩ | ⟨b', rfl, -, ⟨-, hhit⟩ | ⟨-, hhit⟩⟩
    · rw [hhit]
      simp
    · have hcount := hih b' rfl
      have hnear := (hlive b' rfl).near
      rw [hhit, if_pos rfl, List.countP_singleton, if_pos (by simpa using hnear)]
      exact Nat.add_le_add_right hcount 1
    · rw [hhit]
      exact (hih b' rfl).trans (Nat.le_add_right _ _)

/-- A request is refused only when a whole limit was admitted in the last window's time. -/
theorem limit_le_of_refused (hlimit : 1 ≤ limit) {nows : List Nat} {now : Nat}
    (hsorted : nows.Pairwise (· ≤ ·)) (hrefused : (hit limit window now (after limit window none nows)).1 = false) :
    limit ≤ (admitted limit window none nows).countP fun t => decide (now ≤ t + window) := by
  have hcount : ∀ b ∈ after limit window none nows,
      b.count ≤ (admitted limit window none nows).countP fun t => decide (b.resetAt ≤ t + window) :=
    count_le_admitted hlimit hsorted
  generalize after limit window none nows = bucket at hrefused hcount
  rcases hit_cases limit window now bucket with ⟨-, hhit⟩ | ⟨b', rfl, hopen, ⟨-, hhit⟩ | ⟨hfull, -⟩⟩
  · rw [hhit] at hrefused
    cases hrefused
  · rw [hhit] at hrefused
    cases hrefused
  · refine (hfull.trans (hcount b' rfl)).trans (List.countP_mono_left fun t _ ht => ?_)
    simp only [decide_eq_true_eq] at ht ⊢
    omega

end Lib.FixedWindow
