-- SUMMARY: The rounding residual of a booking's ledger after any sequence of refund events.
import HostPlatform.Safety.CumulativeReversal

/-!
# Ledger balance

What the guest paid is split over four categories, and each refund takes its rounded
share from every one of them. Between two refunds the categories and the money differ
by what the rounding added or lost; at 100% by nothing. As for the reversals, exact
shares stand for doubles, which agree while the products stay below `2 ^ 52`.
-/

namespace HostPlatform

open Lib (Table roundDiv)
open Lib.Transition

/-- The categories a guest's charge is split over. -/
def Category.charged : List Category := [.accommodation, .cleaning, .guestServiceFee, .taxes]

/-- What the guest paid and did not get back, less what the categories still hold. -/
def Db.ledgerResidual (db : Db) (b : BookingId) : Int :=
  db.ledgerNet b .guestCharge - db.ledgerNet b .refund
    - (Category.charged.map fun c => db.ledgerNet b c.ledgerType).sum

/-- The rounded shares of `cumulative` in the charged categories. -/
def chargedShares (pc : PriceComponents) (cumulative : Int) : Int :=
  (Category.charged.map fun c => reversalTarget (pc.amountOf c) cumulative pc.guestTotalMinor).sum

/-! ## The charge -/

/-- The booking's ledger and payout as `onPaymentSucceeded` writes them, and no refund
of it succeeded yet. -/
structure ChargeBooked (db : Db) (booking : Booking) (pc : PriceComponents)
    (intentId : PaymentIntentId) : Prop where
  ledger : (db.ledgerEntries.filter fun e => decide (e.bookingId = booking.id)) =
    paymentLedgerRows booking pc intentId
  payouts : ∀ p ∈ db.payouts.rows, p.bookingId = booking.id → p.amountMinor = pc.hostPayoutMinor
  refunds : ∀ r ∈ db.refunds.rows, r.bookingId = booking.id → r.status ≠ .succeeded

theorem paymentLedgerRows_of_booking (booking : Booking) (pc : PriceComponents)
    (intentId : PaymentIntentId) :
    ((paymentLedgerRows booking pc intentId).filter fun e => decide (e.bookingId = booking.id)) =
      paymentLedgerRows booking pc intentId := by
  refine List.filter_eq_self.mpr fun e he => decide_eq_true ?_
  unfold paymentLedgerRows ledgerEntry at he
  simp only [List.mem_cons, List.not_mem_nil, or_false] at he
  rcases he with rfl | rfl | rfl | rfl | rfl | rfl | rfl | rfl <;> rfl

/-- The legacy handler books the charge of a pending booking. -/
theorem onLegacyPaymentSucceeded_chargeBooked {now : Int} {booking : Booking} {pc : PriceComponents}
    {intentId : PaymentIntentId} {db db' : Db} {u : Unit}
    (hpaid : ∀ p, db.paymentByIntent intentId = some p → p.status ≠ .paid)
    (hbooking : db.bookings.find? booking.id = some booking) (hpending : booking.status = .pendingPayment)
    (hpc : db.priceComponents.find? booking.id = some pc)
    (hledger : ∀ e ∈ db.ledgerEntries, e.bookingId ≠ booking.id)
    (hpayouts : ∀ p ∈ db.payouts.rows, p.bookingId ≠ booking.id)
    (hrefunds : ∀ r ∈ db.refunds.rows, r.bookingId ≠ booking.id)
    (h : onLegacyPaymentSucceeded now booking.id intentId db = .ok (u, db')) :
    ChargeBooked db' booking pc intentId := by
  rw [onLegacyPaymentSucceeded_pending hpaid hbooking hpending hpc] at h
  cases h
  refine ⟨?_, fun p hp hb => ?_, fun r hr hb => absurd hb (hrefunds r hr)⟩
  · have hnone : (db.ledgerEntries.filter fun e => decide (e.bookingId = booking.id)) = [] :=
      List.filter_eq_nil_iff.mpr fun e he hb => hledger e he (of_decide_eq_true hb)
    show (db.ledgerEntries ++ _).filter _ = _
    rw [List.filter_append, hnone, List.nil_append, paymentLedgerRows_of_booking]
  · rcases List.mem_append.mp hp with hp | hp
    · exact absurd hb (hpayouts p hp)
    · rw [List.mem_singleton.mp hp]
      rfl

section

variable {db : Db} {booking : Booking} {pc : PriceComponents} {intentId : PaymentIntentId}

theorem ChargeBooked.unrefunded (h : ChargeBooked db booking pc intentId) :
    Unrefunded db booking.id pc := by
  refine ⟨h.refunds, fun e he hb hst => ?_, fun p hp hb _ => h.payouts p hp hb⟩
  have hmem : e ∈ db.ledgerEntries.filter fun e => decide (e.bookingId = booking.id) :=
    List.mem_filter.mpr ⟨he, decide_eq_true hb⟩
  rw [h.ledger] at hmem
  unfold paymentLedgerRows ledgerEntry at hmem
  simp only [List.mem_cons, List.not_mem_nil, or_false] at hmem
  rcases hmem with rfl | rfl | rfl | rfl | rfl | rfl | rfl | rfl <;> cases hst

/-- Only the booking's own entries count for it. -/
theorem ChargeBooked.ledgerNet (h : ChargeBooked db booking pc intentId) (type : LedgerType) :
    db.ledgerNet booking.id type = (((paymentLedgerRows booking pc intentId).filter fun e =>
      decide (e.bookingId = booking.id ∧ e.type = type ∧ (e.status = .paid ∨ e.status = .reversed))).map
        LedgerEntry.amountMinor).sum := by
  unfold Db.ledgerNet
  rw [← h.ledger, List.filter_filter]
  congr 2
  refine List.filter_congr fun e _ => ?_
  by_cases hb : e.bookingId = booking.id
  · simp only [hb, true_and, decide_true, Bool.and_true]
  · simp only [hb, false_and, decide_false, Bool.and_false]

theorem ChargeBooked.net_guestCharge (h : ChargeBooked db booking pc intentId) :
    db.ledgerNet booking.id .guestCharge = pc.guestTotalMinor := by
  rw [h.ledgerNet]
  simp [paymentLedgerRows, ledgerEntry]

theorem ChargeBooked.net_refund (h : ChargeBooked db booking pc intentId) :
    db.ledgerNet booking.id .refund = 0 := by
  rw [h.ledgerNet]
  simp [paymentLedgerRows, ledgerEntry]

theorem ChargeBooked.net_category (h : ChargeBooked db booking pc intentId) {c : Category}
    (hc : c ∈ Category.charged) : db.ledgerNet booking.id c.ledgerType = pc.amountOf c := by
  rw [h.ledgerNet]
  unfold Category.charged at hc
  simp only [List.mem_cons, List.not_mem_nil, or_false] at hc
  rcases hc with rfl | rfl | rfl | rfl <;>
    simp [paymentLedgerRows, ledgerEntry, Category.ledgerType, PriceComponents.amountOf]

end

/-! ## The price -/

/-- `calculatePrice` splits the guest's total over the charged categories. -/
theorem calculatePrice_charged {property : PropertyForPricing} {nights : Int} {feeConfig : FeeConfig}
    {breakdown : PriceBreakdown} (h : calculatePrice property nights feeConfig = .ok breakdown)
    (b : BookingId) :
    (Category.charged.map (priceComponentsRow breakdown b).amountOf).sum = breakdown.guestTotalMinor := by
  simp only [calculatePrice] at h
  split at h
  · cases h
  · split at h
    · cases h
    · cases h
      simp only [Category.charged, priceComponentsRow, PriceComponents.amountOf, List.map_cons,
        List.map_nil, List.sum_cons, List.sum_nil]
      ring

/-- The rounded shares of a whole charge differ from the refund by at most two units,
and by nothing at 100%. -/
theorem chargedShares_bounds {pc : PriceComponents} (hcharge : 0 < pc.guestTotalMinor)
    (hsplit : (Category.charged.map pc.amountOf).sum = pc.guestTotalMinor) (cumulative : Int) :
    -1 ≤ chargedShares pc cumulative - cumulative ∧ chargedShares pc cumulative - cumulative ≤ 2 := by
  have hsum : (Category.charged.map fun c => pc.amountOf c * cumulative).sum =
      cumulative * pc.guestTotalMinor := by
    rw [← hsplit]
    simp only [Category.charged, List.map_cons, List.map_nil, List.sum_cons, List.sum_nil]
    ring
  have hne : (Category.charged.map fun c => pc.amountOf c * cumulative) ≠ [] := List.cons_ne_nil _ _
  have hlength : ((Category.charged.map fun c => pc.amountOf c * cumulative).length : Int) = 4 := rfl
  have hshares : ((Category.charged.map fun c => pc.amountOf c * cumulative).map fun a =>
      roundDiv a pc.guestTotalMinor).sum = chargedShares pc cumulative := rfl
  obtain ⟨hlt, hle⟩ := Lib.sum_roundDiv_bounds hcharge hne hsum
  rw [hlength, hshares] at hlt hle
  constructor
  · linarith
  · linarith

theorem chargedShares_full {pc : PriceComponents} (hcharge : 0 < pc.guestTotalMinor)
    (hsplit : (Category.charged.map pc.amountOf).sum = pc.guestTotalMinor) :
    chargedShares pc pc.guestTotalMinor = pc.guestTotalMinor := by
  have htarget : (fun c => reversalTarget (pc.amountOf c) pc.guestTotalMinor pc.guestTotalMinor) =
      pc.amountOf := funext fun c => Lib.roundDiv_mul_cancel hcharge (pc.amountOf c)
  unfold chargedShares
  rw [htarget, hsplit]

/-! ## After each event -/

/-- The ledger of a booking balances up to the rounding of its four categories. -/
structure LedgerBalanced (db : Db) (b : BookingId) (pc : PriceComponents) (refunded : Int) : Prop where
  refunds : db.ledgerNet b .refund = refunded
  residual : db.ledgerResidual b = chargedShares pc refunded - refunded
  lower : -1 ≤ db.ledgerResidual b
  upper : db.ledgerResidual b ≤ 2
  full : refunded = pc.guestTotalMinor → db.ledgerResidual b = 0

section

variable {db : Db} {booking : Booking} {pc : PriceComponents} {intentId : PaymentIntentId}

theorem ChargeBooked.net_refund_after (h : ChargeBooked db booking pc intentId)
    {es : List RefundObject} {db' : Db}
    (hprogress : RefundProgress db booking.id intentId pc.guestTotalMinor pc es db') :
    db'.ledgerNet booking.id .refund = totalRefunded db booking.id es := by
  rw [hprogress.netRefund, h.net_refund, zero_add]

theorem ChargeBooked.residual_after (h : ChargeBooked db booking pc intentId)
    (hsplit : (Category.charged.map pc.amountOf).sum = pc.guestTotalMinor) {es : List RefundObject}
    {db' : Db} (hprogress : RefundProgress db booking.id intentId pc.guestTotalMinor pc es db') :
    db'.ledgerResidual booking.id =
      chargedShares pc (totalRefunded db booking.id es) - totalRefunded db booking.id es := by
  have hnet : ∀ c ∈ Category.charged, db'.ledgerNet booking.id c.ledgerType = pc.amountOf c -
      reversalTarget (pc.amountOf c) (totalRefunded db booking.id es) pc.guestTotalMinor := by
    intro c hc
    rw [hprogress.netCategory c, h.net_category hc]
  have hnets : (Category.charged.map fun c => db'.ledgerNet booking.id c.ledgerType).sum =
      pc.guestTotalMinor - chargedShares pc (totalRefunded db booking.id es) := by
    rw [List.map_congr_left hnet]
    refine Eq.trans ?_ (congrArg (· - chargedShares pc (totalRefunded db booking.id es)) hsplit)
    simp only [chargedShares, Category.charged, List.map_cons, List.map_nil, List.sum_cons, List.sum_nil]
    ring
  unfold Db.ledgerResidual
  rw [h.net_refund_after hprogress, hprogress.netGuestCharge, h.net_guestCharge, hnets]
  ring

end

def evenSplitBreakdown : PriceBreakdown :=
  { currency := "GBP"
    nights := 2
    accommodationMinor := 20000
    cleaningMinor := 0
    guestServiceFeeMinor := 10000
    taxesMinor := 10000
    guestTotalMinor := 40000
    hostCommissionMinor := 10000
    hostPayoutMinor := 10000
    hostRevenueMinor := 20000
    feeConfigVersion := "v1" }

def evenSplitBooking : Booking := ((refundLinked 12000).bookings.find? 1).get (by decide)

theorem refundLinked_chargeBooked : ChargeBooked (refundLinked 12000) evenSplitBooking
    (priceComponentsRow evenSplitBreakdown evenSplitBooking.id) 1 where
  ledger := by decide
  payouts := by decide
  refunds := by decide

end HostPlatform
