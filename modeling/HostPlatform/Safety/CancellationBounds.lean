-- SUMMARY: The refund and the share the host keeps stay within the amounts paid, add up to no more than the guest paid, and move one way in time.
import HostPlatform.Booking.PriceEngine

/-!
# Cancellation arithmetic

The refund and the share of the host are complementary shares of different amounts, each
rounded half up. Both may be rounded up, by half a unit at most.
-/

namespace HostPlatform

open Lib (roundDiv)

/-- Later tiers have earlier deadlines and refund no more. -/
structure OrderedTiers (tiers : List CancellationTier) : Prop where
  decreasing : tiers.Pairwise fun a b => b.cutoffHours < a.cutoffHours ∧ b.refundPercent ≤ a.refundPercent
  percentage : ∀ t ∈ tiers, 0 ≤ t.refundPercent ∧ t.refundPercent ≤ 100

theorem OrderedTiers.tail {tier : CancellationTier} {tiers : List CancellationTier}
    (h : OrderedTiers (tier :: tiers)) : OrderedTiers tiers :=
  ⟨h.decreasing.tail, fun t ht => h.percentage t (List.mem_cons_of_mem _ ht)⟩

/-! ## The percentage -/

/-- What is bounded on every tier is bounded for the percentage, if it is for 0. -/
theorem refundPercentFor_le {tiers : List CancellationTier} {n : Int} (hn : 0 ≤ n)
    (h : ∀ t ∈ tiers, t.refundPercent ≤ n) (ms : Int) : refundPercentFor tiers ms ≤ n := by
  induction tiers with
  | nil => exact hn
  | cons tier tiers ih =>
    simp only [List.forall_mem_cons] at h
    simp only [refundPercentFor]
    split
    · exact h.1
    · exact ih h.2

theorem refundPercentFor_nonneg {tiers : List CancellationTier} (h : ∀ t ∈ tiers, 0 ≤ t.refundPercent) (ms : Int) :
    0 ≤ refundPercentFor tiers ms := by
  induction tiers with
  | nil => simp [refundPercentFor]
  | cons tier tiers ih =>
    simp only [List.forall_mem_cons] at h
    simp only [refundPercentFor]
    split
    · exact h.1
    · exact ih h.2

/-- The more time is left, the more is refunded. -/
theorem refundPercentFor_mono {tiers : List CancellationTier} (h : OrderedTiers tiers) {ms ms' : Int}
    (hms : ms ≤ ms') : refundPercentFor tiers ms ≤ refundPercentFor tiers ms' := by
  induction tiers with
  | nil => simp [refundPercentFor]
  | cons tier tiers ih =>
    simp only [refundPercentFor]
    split
    case isTrue hmet => simp [hmet.trans hms]
    case isFalse =>
      split
      case isTrue =>
        have hlater := (List.pairwise_cons.mp h.decreasing).1
        exact refundPercentFor_le (h.percentage tier (by simp)).1 (fun t ht => (hlater t ht).2) ms
      case isFalse => exact ih h.tail

theorem msUntil_antitone (checkIn : Int) {now now' : Int} (h : now ≤ now') :
    msUntil checkIn now' ≤ msUntil checkIn now := by
  simp only [msUntil]
  omega

theorem OrderedTiers.percent {tiers : List CancellationTier} (h : OrderedTiers tiers) (ms : Int) :
    0 ≤ refundPercentFor tiers ms ∧ refundPercentFor tiers ms ≤ 100 :=
  ⟨refundPercentFor_nonneg (fun t ht => (h.percentage t ht).1) ms,
    refundPercentFor_le (by decide) (fun t ht => (h.percentage t ht).2) ms⟩

/-! ## The shares -/

theorem share_nonneg_of_percent {x p : Int} (hx : 0 ≤ x) (hp : 0 ≤ p) : 0 ≤ roundDiv (x * p) 100 := by
  have hxp := mul_nonneg hx hp
  exact (Lib.le_roundDiv_iff (by decide)).mpr (by omega)

/-- Complementary shares of two amounts, the second one smaller, add up to no more than the first. -/
theorem complementary_shares_le {x y p : Int} (hyx : y < x) (hp : 0 ≤ p) (hp' : p ≤ 100) :
    roundDiv (x * p) 100 + roundDiv (y * (100 - p)) 100 ≤ x := by
  rcases eq_or_lt_of_le hp' with rfl | hlt
  · simp [Lib.roundDiv_mul_cancel]
  · have hx := Lib.roundDiv_mul_le (a := x * p) (b := 100) (by decide)
    have hy := Lib.roundDiv_mul_le (a := y * (100 - p)) (b := 100) (by decide)
    have hsum : y * (100 - p) ≤ (x - 1) * (100 - p) :=
      mul_le_mul_of_nonneg_right (by omega) (by omega)
    have hexpand : (x - 1) * (100 - p) = 100 * x - x * p - 100 + p := by ring
    omega

/-- Refund and retained share are within the amounts, add up to no more than the guest paid,
and as time passes the refund does not grow and the retained share does not shrink. -/
theorem cancellation_bounded {tiers : List CancellationTier} (htiers : OrderedTiers tiers) (checkIn : Int)
    {guestTotal hostPayout : Int} (hpayout : 0 ≤ hostPayout) (htotal : hostPayout ≤ guestTotal) :
    (∀ now, let outcome := calculateCancellation tiers checkIn guestTotal hostPayout now
      (0 ≤ outcome.refundableMinor ∧ outcome.refundableMinor ≤ guestTotal) ∧
      (0 ≤ outcome.hostRetainedMinor ∧ outcome.hostRetainedMinor ≤ hostPayout) ∧
      (hostPayout < guestTotal → outcome.refundableMinor + outcome.hostRetainedMinor ≤ guestTotal)) ∧
    ∀ t1 t2, t1 ≤ t2 →
      (calculateCancellation tiers checkIn guestTotal hostPayout t2).refundableMinor ≤
        (calculateCancellation tiers checkIn guestTotal hostPayout t1).refundableMinor ∧
      (calculateCancellation tiers checkIn guestTotal hostPayout t1).hostRetainedMinor ≤
        (calculateCancellation tiers checkIn guestTotal hostPayout t2).hostRetainedMinor := by
  have hguest : 0 ≤ guestTotal := hpayout.trans htotal
  constructor
  · intro now
    obtain ⟨hp, hp'⟩ := htiers.percent (msUntil checkIn now)
    have hretained := share_nonneg_of_percent hpayout (sub_nonneg.mpr hp')
    simp only [calculateCancellation, max_eq_right hretained]
    refine ⟨⟨share_nonneg_of_percent hguest hp, Lib.roundDiv_share_le (by decide) hguest hp'⟩, ?_, ?_⟩
    · exact ⟨hretained, Lib.roundDiv_share_le (by decide) hpayout (by omega)⟩
    · exact fun hlt => complementary_shares_le hlt hp hp'
  · intro t1 t2 h
    have hpercent := refundPercentFor_mono htiers (msUntil_antitone checkIn h)
    refine ⟨Lib.roundDiv_share_mono (by decide) hguest hpercent, ?_⟩
    exact max_le_max_left 0 (Lib.roundDiv_share_mono (by decide) hpayout (by omega))

/-- An odd total and an odd payout at 50 percent: both shares are rounded up. Two days later
nothing is refunded and the payout is retained. -/
theorem moderatePolicy_bounded :
    let outcome := calculateCancellation [⟨120, 100⟩, ⟨24, 50⟩, ⟨0, 0⟩] 3 101 91
    outcome 0 = ⟨50, 51, 46⟩ ∧ (outcome 0).refundableMinor + (outcome 0).hostRetainedMinor ≤ 101 ∧
      outcome (2 * msPerDay + 1) = ⟨0, 0, 91⟩ ∧
      (outcome (2 * msPerDay + 1)).refundableMinor ≤ (outcome 0).refundableMinor ∧
      (outcome 0).hostRetainedMinor ≤ (outcome (2 * msPerDay + 1)).hostRetainedMinor := by
  have htiers : OrderedTiers [⟨120, 100⟩, ⟨24, 50⟩, ⟨0, 0⟩] := by constructor <;> decide
  obtain ⟨hbounds, hmono⟩ :=
    cancellation_bounded htiers 3 (by decide : (0 : Int) ≤ 91) (by decide : (91 : Int) ≤ 101)
  exact ⟨by decide, (hbounds 0).2.2 (by decide), by decide, hmono 0 (2 * msPerDay + 1) (by decide)⟩

end HostPlatform
