-- SUMMARY: When cancelling a paid booking instructs the refund that its policy owes and its quote promises.
import HostPlatform.Safety.HostEntitlement
import HostPlatform.Safety.LegacyCheckout

/-!
# Refunds of cancelled bookings

The quote and the cancellation compute the same outcome. The cancellation turns it
into a refund only for a payments row that is `paid`: a charge of the delayed flow
has no such row, and one earlier partial refund makes it `partially_refunded`.
-/

namespace HostPlatform

open Lib (Table)
open Lib.Transition

/-- The guest's money for the booking was captured under intent `i`, in either flow. -/
inductive Captured (db : Db) (booking : Booking) (i : PaymentIntentId) : Prop
  | legacy (p : Payment) (hflow : booking.paymentFlowVersion = .destinationChargeLegacy)
      (hp : db.payments.find? booking.id = some p)
      (hstatus : p.status = .paid ∨ p.status = .partiallyRefunded)
      (hintent : p.providerPaymentIntentId = some i)
  | delayed (a : PaymentAttempt) (hflow : booking.paymentFlowVersion = .separateChargesDelayedV1)
      (ha : a ∈ db.paymentAttempts.rows) (hbooking : a.bookingId = booking.id)
      (hstatus : a.status = .succeeded) (hintent : a.providerPaymentIntentId = some i)

/-- What the snapshot policy gives the guest who cancels now. -/
def Booking.policyOutcome (booking : Booking) (pc : PriceComponents) (now : Int) : CancellationOutcome :=
  calculateCancellation booking.cancellationPolicySnapshot booking.checkIn pc.guestTotalMinor
    pc.hostPayoutMinor now

/-- The policy owes the guest of a confirmed booking more than was refunded so far. -/
structure CancellationOwed (now : Int) (booking : Booking) (pc : PriceComponents)
    (i : PaymentIntentId) (db : Db) : Prop where
  booked : db.bookings.find? booking.id = some booking
  priced : db.priceComponents.find? booking.id = some pc
  confirmed : booking.status = .confirmed
  captured : Captured db booking i
  refundable : 0 < (booking.policyOutcome pc now).refundableMinor
  unrefunded : db.cumulativeRefunded booking.id < (booking.policyOutcome pc now).refundableMinor

/-- The cancellation instructs a refund of the intent, of the amount the quote promises. -/
def RefundInstructed (now : Int) (input : CancelBookingInput) (i : PaymentIntentId) (db : Db) : Prop :=
  ∃ r db' refund outcome currency tiers, cancelBooking now input db = .ok (r, db') ∧
    r.refundInitiated = some refund ∧ refund.bookingId = input.bookingId ∧
    refund.providerPaymentIntentId = some i ∧
    cancellationQuote now input.bookingId db = .ok (.eligible input.bookingId outcome currency tiers) ∧
    refund.amountMinor = outcome.refundableMinor

/-- Every cancellation of the database pays what its policy owes. -/
def CancellationsPay (db : Db) : Prop :=
  ∀ now input booking pc i, input.bookingId = booking.id → CancellationOwed now booking pc i db →
    RefundInstructed now input i db

section

variable {now : Int} {input : CancelBookingInput} {booking : Booking} {pc : PriceComponents}
  {i : PaymentIntentId} {db : Db}

/-- A cancellation that is owed commits. What it instructs depends on the payments row. -/
theorem CancellationOwed.cancelBooking_eq (h : CancellationOwed now booking pc i db)
    (hinput : input.bookingId = booking.id) :
    ∃ db', cancelBooking now input db = .ok (⟨input.bookingId, booking.policyOutcome pc now,
      cancellationRefund input (booking.policyOutcome pc now).refundableMinor pc.currency
        (db.payments.find? booking.id)⟩, db') := by
  refine ⟨releaseNights db (currentDate now) booking isBookingBlock
    fun row => { row with status := .cancelled }, ?_⟩
  unfold cancelBooking
  rw [hinput, h.booked, h.priced]
  simp only [Lib.require, h.confirmed, true_or, if_true]
  rfl

theorem CancellationOwed.quote_eq (h : CancellationOwed now booking pc i db)
    (hinput : input.bookingId = booking.id) :
    cancellationQuote now input.bookingId db = .ok (.eligible input.bookingId
      (booking.policyOutcome pc now) pc.currency booking.cancellationPolicySnapshot) := by
  unfold cancellationQuote
  rw [hinput, h.booked, h.priced]
  simp only [h.confirmed, true_or, if_true]
  rfl

/-- A `paid` payments row, in a database whose payments are all of the legacy flow,
is the one that captured the money. -/
theorem CancellationOwed.paid_intent (h : CancellationOwed now booking pc i db)
    (hlegacy : ∀ p ∈ db.payments.rows, db.flowOf p.bookingId = some .destinationChargeLegacy)
    {p : Payment} (hp : db.payments.find? booking.id = some p) :
    p.providerPaymentIntentId = some i := by
  cases h.captured with
  | legacy q hflow hq hstatus hintent =>
    rw [hp] at hq
    cases hq
    exact hintent
  | delayed a hflow ha hbooking hstatus hintent =>
    have hpflow := hlegacy p (Table.mem_of_find? hp)
    rw [show p.bookingId = booking.id from Table.key_of_find? hp, Db.flowOf, h.booked,
      Option.map_some, hflow] at hpflow
    cases hpflow

theorem cancellationRefund_of_paid (input : CancelBookingInput) {refundableMinor : Int} (currency : String)
    {p : Payment} (hrefundable : 0 < refundableMinor) (hpaid : p.status = .paid) :
    ∃ refund, cancellationRefund input refundableMinor currency (some p) = some refund ∧
      refund.bookingId = input.bookingId ∧
      refund.providerPaymentIntentId = p.providerPaymentIntentId ∧
      refund.amountMinor = refundableMinor :=
  ⟨_, if_pos ⟨hrefundable, hpaid⟩, rfl, rfl, rfl⟩

theorem refundInstructed_iff
    (hlegacy : ∀ p ∈ db.payments.rows, db.flowOf p.bookingId = some .destinationChargeLegacy)
    (h : CancellationOwed now booking pc i db) (hinput : input.bookingId = booking.id) :
    RefundInstructed now input i db ↔ (db.payments.find? booking.id).map Payment.status = some .paid := by
  obtain ⟨released, hcancel⟩ := h.cancelBooking_eq hinput
  constructor
  · rintro ⟨r, db', refund, outcome, currency, tiers, hok, hrefund, -⟩
    rw [hcancel] at hok
    cases hok
    cases hp : db.payments.find? booking.id with
    | none =>
      rw [hp] at hrefund
      cases hrefund
    | some p =>
      simp only [hp, cancellationRefund] at hrefund
      split at hrefund
      · rename_i hpaid
        rw [Option.map_some, hpaid.2]
      · cases hrefund
  · intro hpaid
    obtain ⟨p, hp, hstatus⟩ := Option.map_eq_some_iff.mp hpaid
    obtain ⟨refund, hrefund, hb, hintent, hamount⟩ :=
      cancellationRefund_of_paid input pc.currency h.refundable hstatus
    rw [← hp] at hrefund
    exact ⟨_, released, refund, _, _, _, hcancel, hrefund, hb, hintent.trans (h.paid_intent hlegacy hp),
      h.quote_eq hinput, hamount⟩

end

/-- In every state the system reaches, a cancellation that owes a refund instructs it,
for the captured intent and the quoted amount, exactly if the payments row is `paid`. -/
theorem cancellation_instructs_iff {db : Db} (hpayments : db.payments.rows = []) (ls : List Label)
    {now : Int} {input : CancelBookingInput} {booking : Booking} {pc : PriceComponents}
    {i : PaymentIntentId} (hinput : input.bookingId = booking.id)
    (howed : CancellationOwed now booking pc i (run World.step (World.start db) ls).db) :
    RefundInstructed now input i (run World.step (World.start db) ls).db ↔
      ((run World.step (World.start db) ls).db.payments.find? booking.id).map Payment.status =
        some .paid := by
  have hlinked := run_invariant' (I := World.Linked) (fun w l h => h.step l)
    (World.Linked.start hpayments) ls
  exact refundInstructed_iff (fun p hp => (hlinked.payments p hp).flow) howed hinput

/-- The prices of the sample booking. -/
def samplePrices : PriceComponents :=
  ((run World.step (World.start sampleDb) checkedOutOnce).db.priceComponents.find? 1).get (by decide)

/-- The booking as the legacy payment confirmed it. -/
def checkedOutBooking : Booking :=
  ((run World.step (World.start sampleDb) checkedOutOnce).db.bookings.find? 1).get (by decide)

/-- A guest who paid in the browser cancels on the first day. -/
theorem checkedOutOnce_instructs :
    RefundInstructed 0 ⟨1, .guest⟩ 1 (run World.step (World.start sampleDb) checkedOutOnce).db := by
  have howed : CancellationOwed 0 checkedOutBooking samplePrices 1
      (run World.step (World.start sampleDb) checkedOutOnce).db := by
    refine ⟨by decide, by decide, by decide, ?_, by decide, by decide⟩
    exact .legacy ⟨1, some 1, .paid, 20000, "GBP", none, none⟩ (by decide) (by decide) (by decide) rfl
  exact (cancellation_instructs_iff rfl checkedOutOnce (by decide) howed).mpr (by decide)

/-- The booking as the off-session charge confirmed it. -/
def chargedBooking : Booking :=
  ((run World.step (World.start sampleDb) handledAtOnce).db.bookings.find? 1).get (by decide)

/-- A guest whose card was charged off session is quoted a full refund, and gets none. -/
theorem handledAtOnce_instructsNothing :
    ¬ CancellationsPay (run World.step (World.start sampleDb) handledAtOnce).db := by
  intro h
  have howed : CancellationOwed 0 chargedBooking samplePrices 1
      (run World.step (World.start sampleDb) handledAtOnce).db := by
    refine ⟨by decide, by decide, by decide, ?_, by decide, by decide⟩
    exact .delayed ⟨1, 1, 1, some 1, .succeeded, none, none, 20000, "GBP", ⟨1, 1⟩, none, none⟩
      (by decide) (by decide) (by decide) rfl rfl
  have hpaid := (refundInstructed_iff (by decide) howed (by decide)).mp
    (h 0 ⟨1, .guest⟩ chargedBooking samplePrices 1 (by decide) howed)
  exact absurd hpaid (by decide)

end HostPlatform
