-- SUMMARY: Binary doubles as rationals, and when rounding a quotient of doubles is rounding the quotient.
import HostPlatform.Lib.Rounding
import Mathlib.Data.Int.Log

/-!
# Doubles

A double has 53 binary digits. A nonnegative rational is rounded to the nearest of them, a
tie to the even one; the bounds of the exponent are left out, so nothing overflows.
`Math.round((x * c) / b)` rounds the product and the quotient to doubles before it rounds to
an integer, and still is the rounded exact quotient while the product is below `2 ^ 52`.
-/

namespace Lib.Double

open Lib (roundDiv)

/-- The nearest integer, a tie to the even one. -/
def roundEven (x : ℚ) : ℤ :=
  if Int.fract x < 1 / 2 then ⌊x⌋
  else if 1 / 2 < Int.fract x then ⌊x⌋ + 1
  else if Even ⌊x⌋ then ⌊x⌋
  else ⌊x⌋ + 1

/-- The distance of the doubles around a number. -/
def ulp (q : ℚ) : ℚ := 2 ^ (Int.log 2 q - 52)

/-- The double nearest to a nonnegative number. -/
def ofRat (q : ℚ) : ℚ := roundEven (q / ulp q) * ulp q

/-- `Math.round` of a double. -/
def mathRound (x : ℚ) : ℤ := ⌊x + 1 / 2⌋

/-- `Math.round((x * c) / b)` of integers that are doubles themselves. -/
def roundShare (x c b : ℤ) : ℤ := mathRound (ofRat (ofRat (x * c) / b))

/-! ## The rounding of one operation -/

theorem abs_roundEven_sub_le (x : ℚ) : |(roundEven x : ℚ) - x| ≤ 1 / 2 := by
  have hparts := Int.floor_add_fract x
  have hnonneg := Int.fract_nonneg x
  have hlt := Int.fract_lt_one x
  rw [abs_le]
  unfold roundEven
  split_ifs <;> push_cast <;> constructor <;> linarith

@[simp] theorem roundEven_intCast (n : ℤ) : roundEven (n : ℚ) = n := by
  simp [roundEven]

theorem ulp_pos (q : ℚ) : 0 < ulp q := zpow_pos (by norm_num) _

theorem ulp_mul_le {q : ℚ} (hq : 0 < q) : ulp q * 2 ^ 52 ≤ q := by
  have hscale : ulp q * 2 ^ 52 = (2 : ℚ) ^ Int.log 2 q := by
    rw [ulp, ← zpow_natCast (2 : ℚ) 52, ← zpow_add₀ (by norm_num)]
    congr 1
    push_cast
    ring
  rw [hscale]
  exact_mod_cast Int.zpow_log_le_self (b := 2) (by norm_num) hq

/-- A double is off by at most half a unit in the last place. -/
theorem abs_ofRat_sub_le {q : ℚ} (hq : 0 < q) : |ofRat q - q| * 2 ^ 53 ≤ q := by
  have hpos := ulp_pos q
  have hsplit : ofRat q - q = (roundEven (q / ulp q) - q / ulp q) * ulp q := by
    rw [ofRat, sub_mul, div_mul_cancel₀ q hpos.ne']
  have hhalf := abs_roundEven_sub_le (q / ulp q)
  calc |ofRat q - q| * 2 ^ 53
      = |(roundEven (q / ulp q) : ℚ) - q / ulp q| * ulp q * 2 ^ 53 := by
        rw [hsplit, abs_mul, abs_of_pos hpos]
    _ ≤ 1 / 2 * ulp q * 2 ^ 53 := by gcongr
    _ = ulp q * 2 ^ 52 := by ring
    _ ≤ q := ulp_mul_le hq

/-- A number of at most 53 binary digits is a double. -/
theorem ofRat_mul_zpow {m : ℤ} (hm : 0 ≤ m) (hlt : m < 2 ^ 53) (k : ℤ) :
    ofRat (m * 2 ^ k) = m * 2 ^ k := by
  rcases hm.eq_or_lt with rfl | hm
  · have hzero : roundEven 0 = 0 := by exact_mod_cast roundEven_intCast 0
    simp [ofRat, hzero]
  have hq : (0 : ℚ) < m * 2 ^ k := mul_pos (by exact_mod_cast hm) (zpow_pos (by norm_num) k)
  have hlog : Int.log 2 ((m : ℚ) * 2 ^ k) < 53 + k := by
    rw [← Int.lt_zpow_iff_log_lt (by norm_num) hq]
    push_cast
    rw [zpow_add₀ (by norm_num : (2 : ℚ) ≠ 0)]
    refine mul_lt_mul_of_pos_right ?_ (zpow_pos (by norm_num) k)
    exact_mod_cast hlt
  obtain ⟨d, hd⟩ := Int.eq_ofNat_of_zero_le (show 0 ≤ k - (Int.log 2 ((m : ℚ) * 2 ^ k) - 52) by omega)
  -- the number of units in the last place is an integer
  have hunits : (m : ℚ) * 2 ^ k / ulp (m * 2 ^ k) = ((m * 2 ^ d : ℤ) : ℚ) := by
    rw [ulp, mul_div_assoc, ← zpow_sub₀ (by norm_num), hd]
    push_cast
    rfl
  rw [ofRat, hunits, roundEven_intCast, ← hunits, div_mul_cancel₀ _ (ulp_pos _).ne']

theorem ofRat_intCast {n : ℤ} (hn : 0 ≤ n) (hlt : n < 2 ^ 53) : ofRat n = n := by
  simpa using ofRat_mul_zpow hn hlt 0

/-! ## The rounding of a quotient -/

/-- Below `2 ^ 52` the error is less than a quotient's distance from the halves around it. -/
theorem abs_ofRat_div_sub_lt {a c : ℤ} (ha : 0 < a) (hlt : a < 2 ^ 52) (hc : 0 < c) :
    |(ofRat (a / c) - a / c) * (2 * c)| < 1 := by
  have hc' : (0 : ℚ) < c := by exact_mod_cast hc
  have hmul : (a : ℚ) / c * c = a := div_mul_cancel₀ _ hc'.ne'
  have hoff := abs_ofRat_sub_le (div_pos (by exact_mod_cast ha) hc' : (0 : ℚ) < a / c)
  have hbound : (a : ℚ) < 2 ^ 52 := by exact_mod_cast hlt
  have hscaled := mul_le_mul_of_nonneg_right hoff hc'.le
  rw [hmul] at hscaled
  rw [abs_mul, abs_of_pos (by linarith : (0 : ℚ) < 2 * c)]
  linarith

/-- A quotient that is a half is a double, and is not rounded. -/
theorem ofRat_div_of_half {a c n : ℤ} (ha : 0 < a) (hlt : a < 2 ^ 52) (hc : 0 < c)
    (hhalf : n * (2 * c) = 2 * a + c) : ofRat (a / c) = a / c := by
  have hc' : (0 : ℚ) < c := by exact_mod_cast hc
  have hquotient : (a : ℚ) / c = ((2 * n - 1 : ℤ) : ℚ) * 2 ^ (-1 : ℤ) := by
    have hexact : (n : ℚ) * (2 * c) = 2 * a + c := by exact_mod_cast hhalf
    rw [div_eq_iff hc'.ne', zpow_neg_one]
    push_cast
    linarith
  have hodd : (2 * n - 1) * c = 2 * a := by linarith
  have hpos : 0 < 2 * n - 1 := pos_of_mul_pos_left (by linarith) hc.le
  have hsize : 2 * n - 1 ≤ 2 * a := by
    calc 2 * n - 1 = (2 * n - 1) * 1 := (mul_one _).symm
      _ ≤ (2 * n - 1) * c := mul_le_mul_of_nonneg_left hc hpos.le
      _ = 2 * a := hodd
  rw [hquotient, ofRat_mul_zpow hpos.le (by linarith)]

/-- Below `2 ^ 52` no quotient is rounded across, or onto, a half. -/
theorem mathRound_ofRat_div {a c : ℤ} (ha : 0 ≤ a) (hlt : a < 2 ^ 52) (hc : 0 < c) :
    mathRound (ofRat (a / c)) = roundDiv a c := by
  have hc' : (0 : ℚ) < c := by exact_mod_cast hc
  have hlow := roundDiv_mul_le (a := a) hc
  have hhigh := (roundDiv_lt_iff hc).mp (Int.lt_succ (roundDiv a c))
  generalize roundDiv a c = n at hlow hhigh
  rw [mathRound, Int.floor_eq_iff]
  rcases ha.eq_or_lt with rfl | ha
  · have hzero : ofRat ((0 : ℤ) / (c : ℚ)) = 0 := by simpa using ofRat_intCast (n := 0) le_rfl (by norm_num)
    have hn : n = 0 := by
      nlinarith
    rw [hzero, hn]
    norm_num
  have hmul : (a : ℚ) / c * c = a := div_mul_cancel₀ _ hc'.ne'
  have herr := abs_lt.mp (abs_ofRat_div_sub_lt ha hlt hc)
  constructor
  · rcases hlow.lt_or_eq with hlow | hhalf
    · have hgap : (n : ℚ) * (2 * c) + 1 ≤ 2 * a + c := by exact_mod_cast hlow
      refine le_of_mul_le_mul_right ?_ (by linarith : (0 : ℚ) < 2 * c)
      linarith [herr.1]
    · have hexact : (n : ℚ) * (2 * c) = 2 * a + c := by exact_mod_cast hhalf
      rw [ofRat_div_of_half ha hlt hc hhalf]
      refine le_of_mul_le_mul_right ?_ (by linarith : (0 : ℚ) < 2 * c)
      linarith
  · have hgap : 2 * (a : ℚ) + c + 1 ≤ (n + 1) * (2 * c) := by exact_mod_cast hhigh
    refine lt_of_mul_lt_mul_right ?_ (by linarith : (0 : ℚ) ≤ 2 * c)
    linarith [herr.2]

/-- A share whose product stays below `2 ^ 52` is the exact one. -/
theorem roundShare_eq {x c b : ℤ} (hx : 0 ≤ x) (hc : 0 ≤ c) (hb : 0 < b) (hlt : x * c < 2 ^ 52) :
    roundShare x c b = roundDiv (x * c) b := by
  have hproduct : ofRat (x * c) = ((x * c : ℤ) : ℚ) := by
    rw [← Int.cast_mul]
    exact ofRat_intCast (mul_nonneg hx hc) (by linarith)
  rw [roundShare, hproduct]
  exact mathRound_ofRat_div (mul_nonneg hx hc) hlt hb

/-- Above the bound a quotient just under a half can be rounded up to it. -/
example : roundShare 99999995 74999998 99999997 = 74999997 ∧
    roundDiv (99999995 * 74999998) 99999997 = 74999996 := by decide +kernel

end Lib.Double
