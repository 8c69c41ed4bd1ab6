-- SUMMARY: When the payout that a settled cancellation leaves is the amount the cancellation said the host keeps.
import HostPlatform.Safety.CancellationBounds
import HostPlatform.Safety.CancellationRefund
import HostPlatform.Safety.CumulativeReversal
import Mathlib.Tactic.LinearCombination

/-!
# Quoted retention

The quote rounds the share of the payout that the policy leaves. The settlement rounds
the share that the refund is of the charge, after the refund itself was rounded. The two
agree unless the roundings add up to half a unit. Both are quotients of doubles in the
source, which round like the exact ones as long as the products stay below `2 ^ 52`.
-/

namespace HostPlatform

open Lib (Table roundDiv)
open Lib.Double (roundShare)
open Lib.Transition

/-! ## The arithmetic -/

/-- What rounding to whole units adds to so many hundredths. -/
def roundingGain (hundredths : Int) : Int := 50 - (hundredths + 50) % 100

/-- The gain of the refund, weighed by the payout, and that of the quote, weighed by the
charge, are together within half a unit of the charge. -/
def RoundingsAgree (guestTotalMinor hostPayoutMinor refundPercent : Int) : Prop :=
  -(50 * guestTotalMinor) ≤ hostPayoutMinor * roundingGain (guestTotalMinor * refundPercent)
      + guestTotalMinor * roundingGain (hostPayoutMinor * (100 - refundPercent)) ∧
    hostPayoutMinor * roundingGain (guestTotalMinor * refundPercent)
      + guestTotalMinor * roundingGain (hostPayoutMinor * (100 - refundPercent)) < 50 * guestTotalMinor

instance (guestTotalMinor hostPayoutMinor refundPercent : Int) :
    Decidable (RoundingsAgree guestTotalMinor hostPayoutMinor refundPercent) :=
  inferInstanceAs (Decidable (_ ∧ _))

theorem roundDiv_hundred (n : Int) : 100 * roundDiv n 100 = n + roundingGain n := by
  unfold roundDiv roundingGain
  omega

/-- A payout less its share of the refund is the share that is kept. -/
theorem settled_eq_quoted_iff {guestTotalMinor hostPayoutMinor refundPercent : Int} (hcharge : 0 < guestTotalMinor) :
    hostPayoutMinor - roundDiv (hostPayoutMinor * roundDiv (guestTotalMinor * refundPercent) 100) guestTotalMinor =
        roundDiv (hostPayoutMinor * (100 - refundPercent)) 100 ↔
      RoundingsAgree guestTotalMinor hostPayoutMinor refundPercent := by
  have hrefund := roundDiv_hundred (guestTotalMinor * refundPercent)
  have hkept := roundDiv_hundred (hostPayoutMinor * (100 - refundPercent))
  unfold RoundingsAgree
  generalize roundDiv (guestTotalMinor * refundPercent) 100 = refund at *
  generalize roundDiv (hostPayoutMinor * (100 - refundPercent)) 100 = kept at *
  -- a hundred times what the share of the refund is off
  have hoff : hostPayoutMinor * roundingGain (guestTotalMinor * refundPercent)
      + guestTotalMinor * roundingGain (hostPayoutMinor * (100 - refundPercent)) =
        100 * (hostPayoutMinor * refund - guestTotalMinor * (hostPayoutMinor - kept)) := by
    linear_combination (-hostPayoutMinor) * hrefund + (-guestTotalMinor) * hkept
  have hle := Lib.le_roundDiv_iff (a := hostPayoutMinor * refund) (n := hostPayoutMinor - kept) hcharge
  have hlt := Lib.roundDiv_lt_iff (a := hostPayoutMinor * refund) (n := hostPayoutMinor - kept + 1) hcharge
  rw [hoff]
  constructor
  · intro heq
    constructor
    · linarith [hle.mp (by linarith)]
    · linarith [hlt.mp (by linarith)]
  · rintro ⟨hlow, hhigh⟩
    have h₁ := hle.mpr (by linarith)
    have h₂ := hlt.mpr (by linarith)
    omega

/-! ## The arithmetic of the source -/

/-- Amounts whose products stay below `2 ^ 52`. -/
def ExactInDoubles (guestTotalMinor hostPayoutMinor : Int) : Prop :=
  100 * guestTotalMinor < 2 ^ 52 ∧ hostPayoutMinor * guestTotalMinor < 2 ^ 52

instance (guestTotalMinor hostPayoutMinor : Int) : Decidable (ExactInDoubles guestTotalMinor hostPayoutMinor) :=
  inferInstanceAs (Decidable (_ ∧ _))

/-- What a cancellation answers and what its refund leaves are what doubles give. -/
structure AsInDoubles (pc : PriceComponents) (outcome : CancellationOutcome) (refunded left : Int) : Prop where
  refundable : outcome.refundableMinor = roundShare pc.guestTotalMinor outcome.refundPercent 100
  retained : outcome.hostRetainedMinor = max 0 (roundShare pc.hostPayoutMinor (100 - outcome.refundPercent) 100)
  left : left = pc.hostPayoutMinor - roundShare pc.hostPayoutMinor refunded pc.guestTotalMinor

/-- A percentage of an amount of at most the charge. -/
theorem ExactInDoubles.roundShare_percent {guestTotalMinor hostPayoutMinor amount percent : Int}
    (hexact : ExactInDoubles guestTotalMinor hostPayoutMinor) (hamount : 0 ≤ amount) (hle : amount ≤ guestTotalMinor)
    (hpercent : 0 ≤ percent) (hhundred : percent ≤ 100) :
    roundShare amount percent 100 = roundDiv (amount * percent) 100 := by
  refine Lib.Double.roundShare_eq hamount hpercent (by decide) ?_
  calc amount * percent ≤ amount * 100 := mul_le_mul_of_nonneg_left hhundred hamount
    _ ≤ 100 * guestTotalMinor := by linarith
    _ < 2 ^ 52 := hexact.1

/-- The payout's share of a refund of at most the charge. -/
theorem ExactInDoubles.roundShare_payout {guestTotalMinor hostPayoutMinor refunded : Int}
    (hexact : ExactInDoubles guestTotalMinor hostPayoutMinor) (hpayout : 0 ≤ hostPayoutMinor)
    (hcharge : 0 < guestTotalMinor) (hrefunded : 0 ≤ refunded) (hle : refunded ≤ guestTotalMinor) :
    roundShare hostPayoutMinor refunded guestTotalMinor = roundDiv (hostPayoutMinor * refunded) guestTotalMinor := by
  refine Lib.Double.roundShare_eq hpayout hrefunded hcharge ?_
  calc hostPayoutMinor * refunded ≤ hostPayoutMinor * guestTotalMinor := mul_le_mul_of_nonneg_left hle hpayout
    _ < 2 ^ 52 := hexact.2

/-! ## Cancelling and settling -/

/-- What is left of a payout to release. -/
def Db.payoutLeft (db : Db) (id : Nat) : Int :=
  match db.payouts.find? id with
  | some p => if p.status = .scheduled then p.amountMinor else 0
  | none => 0

/-- A confirmed booking of the legacy flow that was charged its price, nothing of it refunded. -/
structure ConfirmedLegacy (db : Db) (booking : Booking) (i : PaymentIntentId) (pc : PriceComponents) : Prop where
  booked : db.bookings.find? booking.id = some booking
  flow : booking.paymentFlowVersion = .destinationChargeLegacy
  confirmed : booking.status = .confirmed
  basis : RefundBasis db booking.id i pc.guestTotalMinor pc
  unrefunded : Unrefunded db booking.id pc
  payout_nonneg : 0 ≤ pc.hostPayoutMinor
  payout_le : pc.hostPayoutMinor ≤ pc.guestTotalMinor
  percents : ∀ tier ∈ booking.cancellationPolicySnapshot, 0 ≤ tier.refundPercent ∧ tier.refundPercent ≤ 100

/-- The state in which the event of the refund arrives: Stripe's refund is on its row,
and still nothing of the booking is refunded. -/
structure AwaitsRefund (db : Db) (b : BookingId) (i : PaymentIntentId) (pc : PriceComponents)
    (refund : InitiateRefundInput) (e : RefundObject) : Prop where
  basis : RefundBasis db b i pc.guestTotalMinor pc
  unrefunded : Unrefunded db b pc
  event : RefundOf db b i e
  amount : e.amount = refund.amountMinor

/-- The database once `initiateRefund` has Stripe's answer. -/
def initiated (refund : InitiateRefundInput) (s : StripeRefundId) (db : Db) : Db :=
  linkRefund (insertRefund refund db).1 s (insertRefund refund db).2

theorem mem_initiated {refund : InitiateRefundInput} {s : StripeRefundId} {db : Db} {row : Refund} :
    row ∈ (initiated refund s db).refunds.rows ↔ row ∈ db.refunds.rows ∨
      row = { id := db.refunds.freshKey
              bookingId := refund.bookingId
              paymentId := refund.paymentId
              providerRefundId := some s
              amountMinor := refund.amountMinor
              currency := refund.currency
              reason := refund.reason
              initiatedBy := refund.initiatedBy
              status := .pending } := by
  unfold initiated linkRefund insertRefund
  rw [Table.mem_modify (by intro r; rfl)]
  simp only [Table.rows_insertNew, List.mem_append, List.mem_singleton]
  constructor
  · rintro (⟨old, hold | rfl, hkey, rfl⟩ | ⟨hold | rfl, hkey⟩)
    · exact absurd hkey (Table.ne_freshKey hold)
    · exact .inr rfl
    · exact .inl hold
    · exact absurd rfl hkey
  · rintro (hold | rfl)
    · exact .inr ⟨.inl hold, Table.ne_freshKey hold⟩
    · exact .inl ⟨_, .inr rfl, rfl, rfl⟩

/-- A first event takes from a scheduled payout its share of the refund. -/
theorem payoutLeft_deliverRefund {db : Db} {b : BookingId} {i : PaymentIntentId} {charge : Int} {pc : PriceComponents}
    (hbasis : RefundBasis db b i charge pc) (hnew : Unrefunded db b pc) (hnonneg : 0 ≤ pc.hostPayoutMinor)
    {e : RefundObject} (he : RefundOf db b i e) (hcap : e.amount ≤ charge) {payout : Payout}
    (hp : payout ∈ db.payouts.rows) (hb : payout.bookingId = b) (hst : payout.status = .scheduled) :
    (deliverRefund db e).payoutLeft payout.id =
      pc.hostPayoutMinor - roundDiv (pc.hostPayoutMinor * e.amount) charge := by
  have hes : ∀ e' ∈ [] ++ [e], RefundOf db b i e' := by simpa using he
  have hprogress := RefundProgress.nil hbasis hnew
  obtain ⟨row, hrow, hid, hrowb, hamount, hpos⟩ := he.row
  have hzero : totalRefunded db b [] = 0 :=
    Table.sumWhere_eq_zero fun r _ h => Bool.false_ne_true (Bool.and_eq_true_iff.mp h).2
  have htotal : totalRefunded db b ([] ++ [e]) = e.amount := by
    rw [totalRefunded_concat_first hbasis hrow hid hrowb (by simp [confirmedBy]), hzero, hamount, zero_add]
  have hfind : db.payouts.find? payout.id = some payout := Table.find?_of_mem hp
  have hscheduled : payout.amountMinor = pc.hostPayoutMinor := hnew.payouts payout hp hb hst
  rcases (hprogress.deliver_cases hbasis hnew hes (htotal ▸ hcap)).2 with
    ⟨-, hsame⟩ | ⟨-, marked, payment, booking, reversal, hpb, hpa, -, hcum, hrec⟩
  · rw [htotal, hzero] at hsame
    omega
  obtain ⟨-, -, hreversal⟩ := computeRefundReversalEntries_eq_ok.mp hrec.computed
  have hincrement : reversal.hostPayoutReversalMinor = roundDiv (pc.hostPayoutMinor * e.amount) charge := by
    have hreversed := hprogress.reversed .hostPayout
    rw [hzero, reversalTarget, mul_zero, Lib.roundDiv_zero hbasis.charge] at hreversed
    rw [hreversal, hpb, hpa, hcum, htotal, hreversed]
    exact sub_zero _
  unfold Db.payoutLeft
  rw [hrec.payouts, hpb, hpa, hcum, htotal, hincrement]
  unfold settlePayouts
  by_cases hfull : charge ≤ e.amount
  · -- the whole charge is refunded
    obtain rfl : e.amount = charge := le_antisymm hcap hfull
    rw [if_pos (decide_eq_true hfull), Lib.roundDiv_mul_cancel hbasis.charge]
    simp [cancelScheduledPayouts, hfind, hb, hst]
  rw [if_neg (by simpa using hfull)]
  by_cases hshare : 0 < roundDiv (pc.hostPayoutMinor * e.amount) charge
  · rw [if_pos hshare]
    simp [reduceScheduledPayouts, hfind, hb, hst, hscheduled]
  · have hnone : 0 ≤ roundDiv (pc.hostPayoutMinor * e.amount) charge := by
      rw [← Lib.roundDiv_zero hbasis.charge]
      exact Lib.roundDiv_mono hbasis.charge (mul_nonneg hnonneg hpos.le)
    rw [if_neg hshare]
    simp only [hfind, hst, if_true, hscheduled]
    omega

/-- What a cancellation that commits reports, and the amount it asks back. -/
theorem ConfirmedLegacy.outcome {db db₁ : Db} {booking : Booking} {i : PaymentIntentId} {pc : PriceComponents}
    (hdb : ConfirmedLegacy db booking i pc) {now : Int} {input : CancelBookingInput}
    (hinput : input.bookingId = booking.id) {r : CancelledBooking}
    (hcancel : cancelBooking now input db = .ok (r, db₁)) {refund : InitiateRefundInput}
    (hrefund : r.refundInitiated = some refund) :
    r.outcome = booking.policyOutcome pc now ∧ refund.amountMinor = r.outcome.refundableMinor := by
  have hpriced := hdb.basis.priced
  unfold cancelBooking at hcancel
  rw [hinput, hdb.booked, hpriced] at hcancel
  obtain ⟨_, -, hcancel⟩ := Lib.bind_eq_ok.mp hcancel
  cases hcancel
  refine ⟨rfl, ?_⟩
  unfold cancellationRefund at hrefund
  split at hrefund
  · split at hrefund
    · cases hrefund
      rfl
    · cases hrefund
  · cases hrefund

theorem isSome_releaseNights {db : Db} {today : Int} {b : Booking} {which : AvailabilityBlock → Bool}
    {set : Booking → Booking} (hset : ∀ r : Booking, Lib.key (set r) = Lib.key r) {b' : BookingId} :
    ((releaseNights db today b which set hset).bookings.find? b').isSome = (db.bookings.find? b').isSome := by
  rw [releaseNights_find?]
  split
  · exact Option.isSome_map
  · rfl

/-- Right after the cancellation and Stripe's answer, the event is awaited. -/
theorem ConfirmedLegacy.awaitsRefund {db db₁ : Db} {booking : Booking} {i : PaymentIntentId} {pc : PriceComponents}
    (hdb : ConfirmedLegacy db booking i pc) {now : Int} {input : CancelBookingInput}
    (hinput : input.bookingId = booking.id) {r : CancelledBooking}
    (hcancel : cancelBooking now input db = .ok (r, db₁)) {refund : InitiateRefundInput}
    (hrefund : r.refundInitiated = some refund) {s : StripeRefundId}
    (hfresh : ∀ row ∈ db.refunds.rows, row.providerRefundId ≠ some s) :
    AwaitsRefund (initiated refund s db₁) booking.id i pc refund ⟨s, some i, refund.amountMinor, .succeeded⟩ := by
  obtain ⟨b, bpc, -, -, -, hinitiated, hdb₁⟩ := cancelBooking_eq_ok hcancel
  have hbooking : refund.bookingId = booking.id ∧ 0 < refund.amountMinor := by
    rw [hinitiated] at hrefund
    unfold cancellationRefund at hrefund
    split at hrefund
    · split at hrefund
      · rename_i hpaid
        cases hrefund
        exact ⟨hinput, hpaid.1⟩
      · cases hrefund
    · cases hrefund
  have hbasis : RefundBasis (initiated refund s db₁) booking.id i pc.guestTotalMinor pc := by
    subst hdb₁
    refine { hdb.basis with booked := ?_, unique := ?_ }
    · exact (isSome_releaseNights (by intro row; rfl)).trans hdb.basis.booked
    · intro row hrow row' hrow' k hk hk'
      rcases mem_initiated.mp hrow with hrow | rfl <;> rcases mem_initiated.mp hrow' with hrow' | rfl
      · exact hdb.basis.unique row hrow row' hrow' k hk hk'
      · exact absurd (hk.trans hk'.symm) (hfresh row hrow)
      · exact absurd (hk'.trans hk.symm) (hfresh row' hrow')
      · rfl
  have hunrefunded : Unrefunded (initiated refund s db₁) booking.id pc := by
    subst hdb₁
    refine { hdb.unrefunded with refunds := ?_ }
    intro row hrow hrowb
    rcases mem_initiated.mp hrow with hrow | rfl
    · exact hdb.unrefunded.refunds row hrow hrowb
    · -- the row of the refund is still pending
      intro hsucceeded
      cases hsucceeded
  exact ⟨hbasis, hunrefunded, ⟨rfl, rfl, _, mem_initiated.mpr (.inr rfl), rfl, hbooking.1, rfl, hbooking.2⟩, rfl⟩

/-- While doubles are exact enough, the payout left once the refund of a cancellation has
succeeded is what the cancellation said the host keeps exactly when the roundings agree. -/
theorem quotedRetention_iff {db db₁ db₂ : Db} {booking : Booking} {i : PaymentIntentId} {pc : PriceComponents}
    (hdb : ConfirmedLegacy db booking i pc) (hexact : ExactInDoubles pc.guestTotalMinor pc.hostPayoutMinor)
    {now : Int} {input : CancelBookingInput} (hinput : input.bookingId = booking.id) {r : CancelledBooking}
    (hcancel : cancelBooking now input db = .ok (r, db₁)) {refund : InitiateRefundInput}
    (hrefund : r.refundInitiated = some refund) {e : RefundObject}
    (hawaits : AwaitsRefund db₂ booking.id i pc refund e) {payout : Payout} (hp : payout ∈ db₂.payouts.rows)
    (hb : payout.bookingId = booking.id) (hst : payout.status = .scheduled) :
    AsInDoubles pc r.outcome e.amount ((deliverRefund db₂ e).payoutLeft payout.id) ∧
      ((deliverRefund db₂ e).payoutLeft payout.id = r.outcome.hostRetainedMinor ↔
        RoundingsAgree pc.guestTotalMinor pc.hostPayoutMinor r.outcome.refundPercent) := by
  obtain ⟨houtcome, hamount⟩ := hdb.outcome hinput hcancel hrefund
  have hpercent : 0 ≤ r.outcome.refundPercent ∧ r.outcome.refundPercent ≤ 100 := by
    rw [houtcome]
    exact ⟨refundPercentFor_nonneg (fun tier htier => (hdb.percents tier htier).1) _,
      refundPercentFor_le (by decide) (fun tier htier => (hdb.percents tier htier).2) _⟩
  have hcharge := hdb.basis.charge
  have hrefundable : r.outcome.refundableMinor = roundDiv (pc.guestTotalMinor * r.outcome.refundPercent) 100 := by
    rw [houtcome]
    rfl
  have hrefunded : e.amount = roundDiv (pc.guestTotalMinor * r.outcome.refundPercent) 100 := by
    rw [hawaits.amount, hamount, hrefundable]
  have hretained : r.outcome.hostRetainedMinor = roundDiv (pc.hostPayoutMinor * (100 - r.outcome.refundPercent)) 100 := by
    have hshare := share_nonneg_of_percent hdb.payout_nonneg (sub_nonneg.mpr hpercent.2)
    rw [houtcome] at hshare ⊢
    exact max_eq_right hshare
  have hnonneg : 0 ≤ e.amount := by
    rw [hrefunded]
    exact share_nonneg_of_percent hcharge.le hpercent.1
  have hcap : e.amount ≤ pc.guestTotalMinor := by
    rw [hrefunded]
    exact Lib.roundDiv_share_le (by decide) hcharge.le hpercent.2
  have hleft := payoutLeft_deliverRefund hawaits.basis hawaits.unrefunded hdb.payout_nonneg hawaits.event hcap hp hb hst
  constructor
  · refine { refundable := ?_, retained := ?_, left := ?_ }
    · rw [hrefundable, hexact.roundShare_percent hcharge.le le_rfl hpercent.1 hpercent.2]
    · rw [hretained, hexact.roundShare_percent hdb.payout_nonneg hdb.payout_le (by omega) (by omega), max_eq_right]
      exact share_nonneg_of_percent hdb.payout_nonneg (by omega)
    · rw [hleft, hexact.roundShare_payout hdb.payout_nonneg hcharge hnonneg hcap]
  · rw [hleft, hrefunded, hretained]
    exact settled_eq_quoted_iff hcharge

/-- Two days before check-in, when the policy leaves half. -/
def twoDaysBefore : Int := 98 * 86400000

/-- A stay of two nights, paid in the browser. -/
def paidAt (nightlyPrice : Int) : Db :=
  (run World.step (World.start { sampleDb with
    properties := Table.empty.insertNew fun id =>
      { sampleProperty id with nightlyPrice := some nightlyPrice } }) checkedOutOnce).db

def pricesAt (guestTotalMinor hostCommissionMinor : Int) : PriceComponents :=
  { samplePrices with
    accommodationMinor := guestTotalMinor
    guestTotalMinor := guestTotalMinor
    hostCommissionMinor := hostCommissionMinor
    hostPayoutMinor := guestTotalMinor - hostCommissionMinor
    hostRevenueMinor := hostCommissionMinor }

/-- What the cancellation answers. -/
def quotedAt (db : Db) : CancellationOutcome :=
  checkedOutBooking.policyOutcome ((db.priceComponents.find? 1).getD samplePrices) twoDaysBefore

/-- What the cancellation asks back. -/
def refundAt (db : Db) : InitiateRefundInput := ⟨1, 1, some 1, (quotedAt db).refundableMinor, "GBP", .guestCancellation, .guest⟩

/-- The database when the booking is cancelled. -/
def releasedAt (db : Db) : Db :=
  releaseNights db (currentDate twoDaysBefore) checkedOutBooking isBookingBlock
    (fun row => { row with status := .cancelled }) Booking.key_cancelled

/-- The database when Stripe has the refund. -/
def cancelledAt (db : Db) : Db := initiated (refundAt db) 1 (releasedAt db)

def refundedAt (db : Db) : RefundObject := ⟨1, some 1, (quotedAt db).refundableMinor, .succeeded⟩

theorem paidAt_unrefunded :
    ((paidAt 10000).refunds.rows = [] ∧ ConfirmedLegacy (paidAt 10000) checkedOutBooking 1 (pricesAt 20000 3000)) ∧
      ConfirmedLegacy (paidAt 10003) checkedOutBooking 1 (pricesAt 20006 3001) := by
  have heven : (paidAt 10000).refunds.rows = [] := by decide
  have hodd : (paidAt 10003).refunds.rows = [] := by decide
  refine ⟨⟨heven, by decide, by decide, by decide, ⟨⟨_, rfl, rfl, rfl⟩, by decide, by decide, by decide, ?_⟩,
      ⟨?_, by decide, by decide⟩, by decide, by decide, by decide⟩,
    by decide, by decide, by decide, ⟨⟨_, rfl, rfl, rfl⟩, by decide, by decide, by decide, ?_⟩,
      ⟨?_, by decide, by decide⟩, by decide, by decide, by decide⟩
  all_goals simp [heven, hodd]

/-- Half of an even payout. -/
theorem evenPayout_kept : (deliverRefund (cancelledAt (paidAt 10000)) (refundedAt (paidAt 10000))).payoutLeft 1 = 8500 := by
  obtain ⟨⟨hnone, hdb⟩, -⟩ := paidAt_unrefunded
  have hcancel : cancelBooking twoDaysBefore ⟨1, .guest⟩ (paidAt 10000) =
      .ok (⟨1, quotedAt (paidAt 10000), some (refundAt (paidAt 10000))⟩, releasedAt (paidAt 10000)) := rfl
  have hawaits := hdb.awaitsRefund rfl hcancel rfl (s := 1) (by simp [hnone])
  have hp : ∃ payout ∈ (cancelledAt (paidAt 10000)).payouts.rows, payout.bookingId = 1 ∧ payout.status = .scheduled ∧
      payout.id = 1 := ⟨_, List.mem_singleton.mpr rfl, rfl, rfl, rfl⟩
  obtain ⟨payout, hpayout, hb, hst, hid⟩ := hp
  have hiff := (quotedRetention_iff hdb (by decide) rfl hcancel rfl hawaits hpayout hb hst).2
  rw [hid] at hiff
  exact hiff.mpr (by decide)

/-- Half of an odd payout is rounded up twice, in the quote and in what is taken. -/
theorem oddPayout_short : ConfirmedLegacy (paidAt 10003) checkedOutBooking 1 (pricesAt 20006 3001) ∧
    cancelBooking twoDaysBefore ⟨1, .guest⟩ (paidAt 10003) =
      .ok (⟨1, quotedAt (paidAt 10003), some (refundAt (paidAt 10003))⟩, releasedAt (paidAt 10003)) ∧
    (cancelledAt (paidAt 10003)).payoutLeft 1 = 17005 ∧ (quotedAt (paidAt 10003)).hostRetainedMinor = 8503 ∧
    (deliverRefund (cancelledAt (paidAt 10003)) (refundedAt (paidAt 10003))).payoutLeft 1 = 8502 :=
  ⟨paidAt_unrefunded.2, rfl, by decide, by decide, by decide⟩

end HostPlatform
