-- SUMMARY: The price's components, and what the destination charge leaves with the host against the payout that is scheduled.
import HostPlatform.Booking.ExactPrice
import HostPlatform.Safety.LegacyCheckout

/-!
# Settlement of the legacy charge

A price is split without loss at any rates between 0 and 1. The destination charge keeps
the host revenue as application fee, so it leaves the taxes with the host; the payout and
the ledger count them to the host under the launch fee version only.
-/

namespace HostPlatform

open Lib (Table)
open Lib.Transition

/-! ## The split of a price -/

/-- The code's own inputs: prices in minor units, and rates that are shares. -/
structure Exact.Priceable (property : Exact.PropertyForPricing) (nights : Int)
    (feeConfig : Exact.FeeConfig) : Prop where
  nightlyPrice : 0 ≤ property.nightlyPriceMinor
  cleaningFee : 0 ≤ property.cleaningFeeMinor
  nights : 1 ≤ nights
  guestServiceFee : 0 ≤ feeConfig.guestServiceFeeRate ∧ feeConfig.guestServiceFeeRate ≤ 1
  hostCommission : 0 ≤ feeConfig.hostCommissionRate ∧ feeConfig.hostCommissionRate ≤ 1
  tax : 0 ≤ feeConfig.taxRate ∧ feeConfig.taxRate ≤ 1
  accommodationVat : ∀ r, property.accommodationVatRate = some r → 0 ≤ r ∧ r ≤ 1
  cleaningVat : ∀ r, property.cleaningVatRate = some r → 0 ≤ r ∧ r ≤ 1
  vatConfigured : feeConfig.version = launchFeeVersion →
    property.accommodationVatRate.isSome ∧ property.cleaningVatRate.isSome

/-- No component is negative, and together they are what the guest pays. -/
structure PriceBreakdown.Conserved (breakdown : PriceBreakdown) : Prop where
  accommodation : 0 ≤ breakdown.accommodationMinor
  cleaning : 0 ≤ breakdown.cleaningMinor
  guestServiceFee : 0 ≤ breakdown.guestServiceFeeMinor
  taxes : 0 ≤ breakdown.taxesMinor
  guestTotal : 0 ≤ breakdown.guestTotalMinor
  hostCommission : 0 ≤ breakdown.hostCommissionMinor
  hostPayout : 0 ≤ breakdown.hostPayoutMinor
  hostRevenue : 0 ≤ breakdown.hostRevenueMinor
  total : breakdown.guestTotalMinor = breakdown.hostPayoutMinor + breakdown.hostRevenueMinor
    + (if breakdown.feeConfigVersion = launchFeeVersion then 0 else breakdown.taxesMinor)

namespace Exact

section

variable {property : PropertyForPricing} {nights : Int} {feeConfig : FeeConfig}

/-- The taxes are set, and under another fee version they are the rounded share of the
whole price. -/
theorem Priceable.taxes (h : Priceable property nights feeConfig) :
    ∃ taxes, taxesMinor property (property.nightlyPriceMinor * nights) feeConfig = some taxes ∧
      0 ≤ taxes ∧
      (feeConfig.version ≠ launchFeeVersion →
        taxes = share (property.nightlyPriceMinor * nights + property.cleaningFeeMinor)
          feeConfig.taxRate) := by
  have haccommodation : 0 ≤ property.nightlyPriceMinor * nights :=
    mul_nonneg h.nightlyPrice (by linarith [h.nights])
  simp only [taxesMinor]
  split
  case isTrue hlaunch =>
    obtain ⟨haccommodationVat, hcleaningVat⟩ := h.vatConfigured hlaunch
    obtain ⟨r, hr⟩ := Option.isSome_iff_exists.mp haccommodationVat
    obtain ⟨s, hs⟩ := Option.isSome_iff_exists.mp hcleaningVat
    simp only [hr, hs]
    refine ⟨_, rfl, add_nonneg ?_ ?_, fun hother => absurd hlaunch hother⟩
    · exact share_nonneg haccommodation (h.accommodationVat r hr).1
    · exact share_nonneg h.cleaningFee (h.cleaningVat s hs).1
  case isFalse =>
    refine ⟨_, rfl, ?_, fun _ => rfl⟩
    exact share_nonneg (add_nonneg haccommodation h.cleaningFee) h.tax.1

/-- `calculatePrice` returns, conserves the price, and a breakdown's taxes vanish exactly
below half a minor unit. -/
theorem Priceable.price (h : Priceable property nights feeConfig) :
    ∃ breakdown, calculatePrice property nights feeConfig = .ok breakdown ∧ breakdown.Conserved ∧
      breakdown.feeConfigVersion = feeConfig.version ∧
      (feeConfig.version ≠ launchFeeVersion → (breakdown.taxesMinor = 0 ↔
        ((property.nightlyPriceMinor * nights + property.cleaningFeeMinor : Int) : ℚ)
          * feeConfig.taxRate < 1 / 2)) := by
  have haccommodation : 0 ≤ property.nightlyPriceMinor * nights :=
    mul_nonneg h.nightlyPrice (by linarith [h.nights])
  have hfee := share_nonneg haccommodation h.guestServiceFee.1
  have hcommission := share_nonneg haccommodation h.hostCommission.1
  have hcommission_le := share_le haccommodation h.hostCommission.2
  have hcleaning := h.cleaningFee
  obtain ⟨taxes, htaxes, htaxes_nonneg, htaxes_share⟩ := h.taxes
  simp only [calculatePrice, htaxes, if_neg (by linarith [h.nights] : ¬ nights ≤ 0)]
  refine ⟨_, rfl, ?_, rfl, fun hother => ?_⟩
  · constructor <;> dsimp only
    case total => split <;> ring
    case hostPayout => split <;> linarith
    all_goals linarith
  · rw [htaxes_share hother]
    exact share_eq_zero_iff (add_nonneg haccommodation h.cleaningFee) h.tax.1

end

end Exact

/-! ## The charge and the payout -/

/-- What the connected account keeps of a charge. -/
def IntentParams.hostLeft : IntentParams → Int
  | .destinationCharge _ amount _ applicationFeeAmount _ => amount - applicationFeeAmount
  | .offSession .. => 0

/-- A legacy booking at the stored price: its checkout, and the webhook transaction that
confirms it. -/
structure LegacyPayment (breakdown : PriceBreakdown) where
  bookingId : BookingId
  checkoutDb : Db
  checkoutPriced : checkoutDb.priceComponents.find? bookingId =
    some (priceComponentsRow breakdown bookingId)
  checkout : CheckoutBooking
  read : checkoutBooking bookingId checkoutDb = .ok checkout
  now : Int
  intentId : PaymentIntentId
  db : Db
  priced : db.priceComponents.find? bookingId = some (priceComponentsRow breakdown bookingId)
  unpaid : ∀ p, db.paymentByIntent intentId = some p → p.status ≠ .paid
  pending : (db.bookings.find? bookingId).map Booking.status = some .pendingPayment
  db' : Db
  handled : onLegacyPaymentSucceeded now bookingId intentId db = .ok ((), db')

namespace LegacyPayment

variable {breakdown : PriceBreakdown}

/-- What the charge leaves with the host is what the handler schedules and posts. -/
structure Settled (payment : LegacyPayment breakdown) : Prop where
  payout : ∃ p, payment.db'.payouts.rows = payment.db.payouts.rows ++ [p] ∧
    p.bookingId = payment.bookingId ∧ p.status = .scheduled ∧
    p.amountMinor = (World.destinationChargeParams payment.checkout).hostLeft
  ledger : ∃ rows, payment.db'.ledgerEntries = payment.db.ledgerEntries ++ rows ∧
    (rows.filter fun e => e.type = .hostPayout).map LedgerEntry.amountMinor =
      [(World.destinationChargeParams payment.checkout).hostLeft]

theorem hostLeft_eq (payment : LegacyPayment breakdown) :
    (World.destinationChargeParams payment.checkout).hostLeft =
      breakdown.guestTotalMinor - breakdown.hostRevenueMinor := by
  have hread := payment.read
  simp only [checkoutBooking, payment.checkoutPriced] at hread
  split at hread
  case h_2 => cases hread
  case h_1 bpc _ _ hbpc _ =>
    cases hbpc
    split at hread
    · cases hread
    · rw [← Except.ok.inj hread]
      rfl

/-- The handler schedules and posts the stored host payout, once. -/
theorem booked (payment : LegacyPayment breakdown) :
    ∃ booking, booking.id = payment.bookingId ∧
      payment.db'.payouts.rows = payment.db.payouts.rows ++
        [payoutRow payment.now booking (priceComponentsRow breakdown payment.bookingId)
          payment.db.payouts.freshKey] ∧
      payment.db'.ledgerEntries = payment.db.ledgerEntries ++
        paymentLedgerRows booking (priceComponentsRow breakdown payment.bookingId)
          payment.intentId := by
  obtain ⟨booking, hbooking, hpending⟩ := Option.map_eq_some_iff.mp payment.pending
  have hhandled := payment.handled
  rw [onLegacyPaymentSucceeded_pending payment.unpaid hbooking hpending payment.priced] at hhandled
  have hdb' := (congrArg Prod.snd (Except.ok.inj hhandled)).symm
  simp only at hdb'
  rw [hdb']
  exact ⟨booking, Table.key_of_find? hbooking, rfl, rfl⟩

theorem settled_iff (payment : LegacyPayment breakdown) :
    payment.Settled ↔
      breakdown.hostPayoutMinor = breakdown.guestTotalMinor - breakdown.hostRevenueMinor := by
  obtain ⟨booking, hid, hpayouts, hledger⟩ := payment.booked
  constructor
  · rintro ⟨⟨p, hp, -, -, hamount⟩, -⟩
    have hrow := List.append_cancel_left (hpayouts.symm.trans hp)
    rw [← payment.hostLeft_eq, ← hamount, ← List.head_eq_of_cons_eq hrow]
    rfl
  · intro h
    refine ⟨⟨_, hpayouts, hid, rfl, ?_⟩, _, hledger, ?_⟩
    · exact h.trans payment.hostLeft_eq.symm
    · rw [payment.hostLeft_eq, ← h]
      rfl

end LegacyPayment

/-- A price is conserved at any rates, and it is settled as charged exactly when the launch
version counts the taxes to the host or there are none to the penny. -/
theorem calculatePrice_settles_iff {property : Exact.PropertyForPricing} {nights : Int}
    {feeConfig : Exact.FeeConfig} (h : Exact.Priceable property nights feeConfig) :
    ∃ breakdown, Exact.calculatePrice property nights feeConfig = .ok breakdown ∧
      ∀ payment : LegacyPayment breakdown, (breakdown.Conserved ∧ payment.Settled) ↔
        (feeConfig.version = launchFeeVersion ∨
          ((property.nightlyPriceMinor * nights + property.cleaningFeeMinor : Int) : ℚ)
            * feeConfig.taxRate < 1 / 2) := by
  obtain ⟨breakdown, hprice, hconserved, hversion, htaxes⟩ := h.price
  refine ⟨breakdown, hprice, fun payment => ?_⟩
  have htotal := hconserved.total
  rw [payment.settled_iff]
  by_cases hlaunch : feeConfig.version = launchFeeVersion
  · simp only [hlaunch, true_or, iff_true]
    rw [hversion, if_pos hlaunch] at htotal
    exact ⟨hconserved, by linarith⟩
  · rw [hversion, if_neg hlaunch] at htotal
    rw [or_iff_right hlaunch, ← htaxes hlaunch, and_iff_right hconserved]
    constructor <;> intro <;> linarith

/-! ## A stay under the first fee version -/

/-- The first seeded fees: 12% of the guest, 3% of the host, 5% taxes. -/
def v1FeeConfig : FeeConfig := ⟨"v1", 1200, 300, 500, 0, true⟩

def v1Db : Db := { sampleDb with feeConfigs := [v1FeeConfig] }

def v1Breakdown : PriceBreakdown :=
  { currency := "GBP"
    nights := 2
    accommodationMinor := 20000
    cleaningMinor := 0
    guestServiceFeeMinor := 2400
    taxesMinor := 1000
    guestTotalMinor := 23400
    hostCommissionMinor := 600
    hostPayoutMinor := 19400
    hostRevenueMinor := 3000
    feeConfigVersion := "v1" }

def v1Payment : LegacyPayment v1Breakdown where
  bookingId := 1
  checkoutDb := (run World.step (World.start v1Db) (checkedOutOnce.take 1)).db
  checkoutPriced := by decide
  checkout := ⟨1, 23400, 3000, "GBP", 1⟩
  read := by decide
  now := 0
  intentId := 1
  db := (run World.step (World.start v1Db) checkedOutOnce.dropLast).db
  priced := by decide
  unpaid := by decide
  pending := by decide
  db' := (run World.step (World.start v1Db) checkedOutOnce).db
  handled := rfl

/-- The charge leaves 204.00 with the host, the payout and the ledger say 194.00. -/
theorem v1Payment_unsettled : v1Breakdown.Conserved ∧ ¬ v1Payment.Settled := by
  rw [v1Payment.settled_iff]
  refine ⟨?_, by decide⟩
  constructor <;> decide

/-- Untaxed, the same stay is settled. -/
theorem untaxed_settles :
    ∃ breakdown, Exact.calculatePrice ⟨10000, 2000, "GBP", none, none⟩ 2
        ⟨"v1", 12 / 100, 3 / 100, 0⟩ = .ok breakdown ∧
      ∀ payment : LegacyPayment breakdown, (breakdown.Conserved ∧ payment.Settled) ↔
        ("v1" = launchFeeVersion ∨ (((10000 * 2 + 2000 : Int) : ℚ) * 0 < 1 / 2)) := by
  refine @calculatePrice_settles_iff ⟨10000, 2000, "GBP", none, none⟩ 2 ⟨"v1", 12 / 100, 3 / 100, 0⟩ ?_
  constructor
  case accommodationVat => exact fun _ h => by cases h
  case cleaningVat => exact fun _ h => by cases h
  case vatConfigured => exact fun h => absurd h (by decide)
  all_goals norm_num

end HostPlatform
