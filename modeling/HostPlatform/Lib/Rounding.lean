-- SUMMARY: Half-up rounding of an exact quotient of integers, and its order properties.
import Mathlib.Algebra.Order.Round
import Mathlib.Data.Rat.Floor
import Mathlib.Tactic.Linarith
import Mathlib.Tactic.Ring
import Mathlib.Tactic.FieldSimp

/-!
# Half-up rounding

`roundDiv a b` is the integer nearest to `a / b`, with halves rounded up: the
value `⌊a / b + 1 / 2⌋`, computed on integers only.
-/

namespace Lib

/-- `a / b` rounded to the nearest integer, halves up. -/
def roundDiv (a b : Int) : Int := (2 * a + b) / (2 * b)

theorem le_roundDiv_iff {a b n : Int} (hb : 0 < b) : n ≤ roundDiv a b ↔ n * (2 * b) ≤ 2 * a + b :=
  Int.le_ediv_iff_mul_le (by linarith)

theorem roundDiv_mul_le {a b : Int} (hb : 0 < b) : roundDiv a b * (2 * b) ≤ 2 * a + b :=
  (le_roundDiv_iff hb).mp (le_refl (roundDiv a b))

theorem roundDiv_lt_iff {a b n : Int} (hb : 0 < b) : roundDiv a b < n ↔ 2 * a + b < n * (2 * b) := by
  rw [← not_le, le_roundDiv_iff hb, not_le]

theorem lt_roundDiv_mul {a b : Int} (hb : 0 < b) : 2 * a - b < roundDiv a b * (2 * b) := by
  have h := (roundDiv_lt_iff hb).mp (Int.lt_succ (roundDiv a b))
  have hexpand : (roundDiv a b + 1) * (2 * b) = roundDiv a b * (2 * b) + 2 * b := by ring
  linarith

/-- The integer formula is Mathlib's `round` on the rationals. -/
theorem roundDiv_eq_round {a b : Int} (hb : 0 < b) : roundDiv a b = round ((a : ℚ) / b) := by
  have hb' : (0 : ℚ) < b := by exact_mod_cast hb
  rw [round_eq]
  refine (Int.floor_eq_iff.mpr ⟨?_, ?_⟩).symm
  · have h := roundDiv_mul_le (a := a) hb
    have h' : (roundDiv a b : ℚ) * (2 * b) ≤ 2 * a + b := by exact_mod_cast h
    have hdiv : (a : ℚ) / b + 1 / 2 = (2 * a + b) / (2 * b) := by field_simp
    rw [hdiv, le_div_iff₀ (by linarith)]
    exact h'
  · have h := (roundDiv_lt_iff hb).mp (Int.lt_succ (roundDiv a b))
    have h' : (2 * a + b : ℚ) < (roundDiv a b + 1) * (2 * b) := by exact_mod_cast h
    have hdiv : (a : ℚ) / b + 1 / 2 = (2 * a + b) / (2 * b) := by field_simp
    rw [hdiv, div_lt_iff₀ (by linarith)]
    exact h'

theorem roundDiv_mono {a a' b : Int} (hb : 0 < b) (h : a ≤ a') : roundDiv a b ≤ roundDiv a' b := by
  rw [le_roundDiv_iff hb]
  have := roundDiv_mul_le (a := a) hb
  linarith

@[simp] theorem roundDiv_zero {b : Int} (hb : 0 < b) : roundDiv 0 b = 0 := by
  refine le_antisymm ?_ ?_
  · exact Int.lt_add_one_iff.mp ((roundDiv_lt_iff hb).mpr (by linarith))
  · exact (le_roundDiv_iff hb).mpr (by linarith)

/-- A whole quotient is not rounded. -/
theorem roundDiv_mul_cancel {b : Int} (hb : 0 < b) (n : Int) : roundDiv (n * b) b = n := by
  refine le_antisymm ?_ ?_
  · refine Int.lt_add_one_iff.mp ((roundDiv_lt_iff hb).mpr ?_)
    have : (n + 1) * (2 * b) = 2 * (n * b) + 2 * b := by ring
    linarith
  · refine (le_roundDiv_iff hb).mpr ?_
    have : n * (2 * b) = 2 * (n * b) := by ring
    linarith

/-- The share `x * c / b` of `x` never exceeds `x` while `c ≤ b`. -/
theorem roundDiv_share_le {x c b : Int} (hb : 0 < b) (hx : 0 ≤ x) (hc : c ≤ b) :
    roundDiv (x * c) b ≤ x := by
  calc roundDiv (x * c) b ≤ roundDiv (x * b) b :=
        roundDiv_mono hb (mul_le_mul_of_nonneg_left hc hx)
    _ = x := roundDiv_mul_cancel hb x

theorem roundDiv_share_mono {x c c' b : Int} (hb : 0 < b) (hx : 0 ≤ x) (hc : c ≤ c') :
    roundDiv (x * c) b ≤ roundDiv (x * c') b :=
  roundDiv_mono hb (mul_le_mul_of_nonneg_left hc hx)

/-- A share is rounded up to the whole exactly when what is missing is at most
half a unit. -/
theorem roundDiv_share_eq_iff {x c b : Int} (hb : 0 < b) (hx : 0 ≤ x) (hc : c ≤ b) :
    roundDiv (x * c) b = x ↔ 2 * (x * (b - c)) ≤ b := by
  constructor
  · intro h
    have := (le_roundDiv_iff hb).mp h.ge
    have h1 : x * (b - c) = x * b - x * c := by ring
    have h2 : x * (2 * b) = 2 * (x * b) := by ring
    linarith
  · intro h
    refine le_antisymm (roundDiv_share_le hb hx hc) ((le_roundDiv_iff hb).mpr ?_)
    have h1 : x * (b - c) = x * b - x * c := by ring
    have h2 : x * (2 * b) = 2 * (x * b) := by ring
    linarith

/-! ## Rounding every summand

Each summand is off by less than half a unit below and by at most half a unit above. -/

theorem sum_roundDiv_mul_le {b : Int} (hb : 0 < b) (as : List Int) :
    (as.map fun a => roundDiv a b).sum * (2 * b) ≤ 2 * as.sum + as.length * b := by
  induction as with
  | nil => simp
  | cons a as ih =>
    have ha := roundDiv_mul_le (a := a) hb
    simp only [List.map_cons, List.sum_cons, List.length_cons, Nat.cast_succ, add_mul, one_mul]
    linarith

theorem lt_sum_roundDiv_mul {b : Int} (hb : 0 < b) {as : List Int} (has : as ≠ []) :
    2 * as.sum - as.length * b < (as.map fun a => roundDiv a b).sum * (2 * b) := by
  induction as with
  | nil => exact absurd rfl has
  | cons a as ih =>
    have ha := lt_roundDiv_mul (a := a) hb
    simp only [List.map_cons, List.sum_cons, List.length_cons, Nat.cast_succ, add_mul, one_mul]
    cases as with
    | nil => simpa using ha
    | cons a' as =>
      have htail := ih (List.cons_ne_nil a' as)
      linarith

/-- Shares of a whole that add up to `n` do so after rounding up to half their number. -/
theorem sum_roundDiv_bounds {b n : Int} (hb : 0 < b) {as : List Int} (has : as ≠ [])
    (hsum : as.sum = n * b) :
    2 * n - as.length < 2 * (as.map fun a => roundDiv a b).sum ∧
      2 * (as.map fun a => roundDiv a b).sum ≤ 2 * n + as.length := by
  have hlt := lt_sum_roundDiv_mul hb has
  have hle := sum_roundDiv_mul_le hb as
  rw [hsum] at hlt hle
  constructor
  · refine lt_of_mul_lt_mul_right ?_ hb.le
    linarith
  · refine le_of_mul_le_mul_right ?_ hb
    linarith

end Lib
