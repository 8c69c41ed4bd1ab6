-- SUMMARY: Cancelling a live booking, discarding an unpaid one, completing a stay (`cancelBooking.ts`, `discardUnpaidBooking.ts`, `scheduledNotifications.ts`).
import HostPlatform.Lib.Outcome
import HostPlatform.Booking.PriceEngine
import HostPlatform.Booking.ReleaseNights
import HostPlatform.Payments.Refund
import HostPlatform.Payments.ScheduledCharges
import HostPlatform.Booking.CreateBooking

namespace HostPlatform

open Lib (require)

/-! ## `cancelBooking` -/

structure CancelBookingInput where
  bookingId : BookingId
  cancelledBy : Actor
  deriving DecidableEq, Repr

structure CancelledBooking where
  bookingId : BookingId
  outcome : CancellationOutcome
  refundInitiated : Option InitiateRefundInput
  deriving DecidableEq, Repr

def cancellationReason : Actor → RefundReason
  | .guest => .guestCancellation
  | .host => .hostCancellation
  | .admin | .system => .adminGoodwill

def statusName : BookingStatus → String
  | .draft => "draft"
  | .pendingPayment => "pending_payment"
  | .confirmed => "confirmed"
  | .cancelled => "cancelled"
  | .completed => "completed"
  | .refunded => "refunded"
  | .disputed => "disputed"

/-- The refund to initiate after the commit: only for a payment that is `paid`. -/
def cancellationRefund (input : CancelBookingInput) (refundableMinor : Int) (currency : String) :
    Option Payment → Option InitiateRefundInput
  | some p =>
    if 0 < refundableMinor ∧ p.status = .paid then
      some
        { bookingId := input.bookingId
          paymentId := p.bookingId
          providerPaymentIntentId := p.providerPaymentIntentId
          amountMinor := refundableMinor
          currency := currency
          reason := cancellationReason input.cancelledBy
          initiatedBy := input.cancelledBy }
    else none
  | none => none

/-- A row written by a booking, whatever its status. -/
def isBookingBlock (row : AvailabilityBlock) : Bool := decide (row.source = .booking)

def cancelBooking (now : Int) (input : CancelBookingInput) (db : Db) :
    Except BookingError (CancelledBooking × Db) :=
  match db.bookings.find? input.bookingId, db.priceComponents.find? input.bookingId with
  | some b, some bpc => do
    require (b.status = .confirmed ∨ b.status = .pendingPayment)
      ⟨"NOT_CANCELLABLE", s!"Booking status '{statusName b.status}' cannot be cancelled"⟩
    let outcome := calculateCancellation b.cancellationPolicySnapshot b.checkIn bpc.guestTotalMinor
      bpc.hostPayoutMinor now
    let refundInitiated := cancellationRefund input outcome.refundableMinor bpc.currency
      (db.payments.find? input.bookingId)
    return (⟨input.bookingId, outcome, refundInitiated⟩,
      releaseNights db (currentDate now) b isBookingBlock (fun row => { row with status := .cancelled })
        Booking.key_cancelled)
  | _, _ => .error ⟨"BOOKING_NOT_FOUND", "Booking does not exist"⟩

theorem cancelBooking_eq_ok {now : Int} {input : CancelBookingInput} {db db' : Db}
    {r : CancelledBooking} (h : cancelBooking now input db = .ok (r, db')) :
    ∃ b bpc, db.bookings.find? input.bookingId = some b ∧
      db.priceComponents.find? input.bookingId = some bpc ∧ b.status.live ∧
      r.refundInitiated = cancellationRefund input r.outcome.refundableMinor bpc.currency
        (db.payments.find? input.bookingId) ∧
      db' = releaseNights db (currentDate now) b isBookingBlock
        fun row => { row with status := .cancelled } := by
  unfold cancelBooking at h
  split at h
  · rename_i b bpc hb hbpc
    obtain ⟨_, hstatus, h⟩ := Lib.bind_eq_ok.mp h
    cases h
    refine ⟨b, bpc, hb, hbpc, ?_, rfl, rfl⟩
    rcases Lib.require_eq_ok.mp hstatus with hs | hs <;> rw [hs] <;> rfl
  · cases h

/-! ## The cancellation quote -/

/-- The answer of `GET /api/bookings/[id]/cancellation-quote`. -/
inductive CancellationQuote where
  | ineligible (bookingId : BookingId) (reason : String) (currency : String)
  | eligible (bookingId : BookingId) (outcome : CancellationOutcome) (currency : String)
      (policyTiers : List CancellationTier)
  deriving DecidableEq, Repr

/-- The route computes the outcome from the same columns, and looks at no payment. -/
def cancellationQuote (now : Int) (bookingId : BookingId) (db : Db) :
    Except BookingError CancellationQuote :=
  match db.bookings.find? bookingId, db.priceComponents.find? bookingId with
  | some b, some bpc =>
    if b.status = .confirmed ∨ b.status = .pendingPayment then
      .ok (.eligible bookingId
        (calculateCancellation b.cancellationPolicySnapshot b.checkIn bpc.guestTotalMinor
          bpc.hostPayoutMinor now)
        bpc.currency b.cancellationPolicySnapshot)
    else
      .ok (.ineligible bookingId s!"Bookings with status '{statusName b.status}' cannot be cancelled."
        bpc.currency)
  | _, _ => .error ⟨"BOOKING_NOT_FOUND", "Booking does not exist"⟩

/-- A cancellation commits exactly if the quote calls the booking eligible, and with
the outcome of the quote. -/
theorem cancelBooking_iff_quote (now : Int) (input : CancelBookingInput) (db : Db)
    (outcome : CancellationOutcome) :
    (∃ r db', cancelBooking now input db = .ok (r, db') ∧ r.outcome = outcome) ↔
      ∃ currency tiers, cancellationQuote now input.bookingId db =
        .ok (.eligible input.bookingId outcome currency tiers) := by
  unfold cancelBooking cancellationQuote
  cases db.bookings.find? input.bookingId with
  | none => simp
  | some b =>
    cases db.priceComponents.find? input.bookingId with
    | none => simp
    | some bpc =>
      by_cases hstatus : b.status = .confirmed ∨ b.status = .pendingPayment
      · simp [hstatus, require, bind, Except.bind, pure, Except.pure]
      · simp [hstatus, require, bind, Except.bind]

/-! ## `discardUnpaidBooking` -/

structure DiscardEligibility where
  status : BookingStatus
  archivedAt : Option Int
  hasLegacyPayment : Bool
  hasSuccessfulAttempt : Bool
  hasEntitlement : Bool
  deriving DecidableEq, Repr

def assertDiscardableUnpaidBooking (booking : DiscardEligibility) : Except BookingError Unit := do
  require (booking.archivedAt = none)
    ⟨"ALREADY_ARCHIVED", "This booking has already been removed from My Trips"⟩
  require (booking.status = .pendingPayment)
    ⟨"NOT_DISCARDABLE", "Only an unpaid booking that has not been confirmed can be discarded"⟩
  require (booking.hasLegacyPayment = false ∧ booking.hasSuccessfulAttempt = false
      ∧ booking.hasEntitlement = false)
    ⟨"PAYMENT_EXISTS", "This booking has payment activity and cannot be discarded"⟩

/-- `EXISTS (.. payments .. status IN ('paid','refunded','partially_refunded','disputed'))`. -/
def Db.hasLegacyPayment (db : Db) (b : BookingId) : Bool :=
  (db.payments.find? b).any fun p => p.status.received

/-- The payment proofs: what the three `EXISTS` clauses find. -/
structure PaymentProofs where
  hasLegacyPayment : Bool
  hasSuccessfulAttempt : Bool
  hasEntitlement : Bool
  deriving DecidableEq, Repr

def paymentProofs (b : BookingId) (db : Db) : PaymentProofs :=
  { hasLegacyPayment := db.hasLegacyPayment b
    hasSuccessfulAttempt := db.hasSucceededAttempt b
    hasEntitlement := (db.entitlements.find? b).isSome }

def discardEligibility (proofs : PaymentProofs) (b : Booking) : DiscardEligibility :=
  { status := b.status
    archivedAt := b.archivedAt
    hasLegacyPayment := proofs.hasLegacyPayment
    hasSuccessfulAttempt := proofs.hasSuccessfulAttempt
    hasEntitlement := proofs.hasEntitlement }

theorem assertDiscardableUnpaidBooking_eq_ok {booking : DiscardEligibility} {u : Unit}
    (h : assertDiscardableUnpaidBooking booking = .ok u) : booking.status = .pendingPayment := by
  unfold assertDiscardableUnpaidBooking at h
  obtain ⟨_, -, h⟩ := Lib.bind_eq_ok.mp h
  obtain ⟨_, hstatus, -⟩ := Lib.bind_eq_ok.mp h
  exact Lib.require_eq_ok.mp hstatus

/-- A booking row that a discard has locked: it waits for payment. -/
structure DiscardableBooking where
  row : Booking
  pending : row.status = .pendingPayment
  deriving DecidableEq, Repr

/-- The rest of `SELECT .. FOR UPDATE OF b`, and the check. The row is the one there is
when the lock is granted; the proofs are those of the snapshot the statement began with.
Nothing locks the tables they were read from. -/
def lockDiscardable (bookingId : BookingId) (guestId : UserId) (proofs : PaymentProofs) (db : Db) :
    Except BookingError DiscardableBooking :=
  match (db.bookings.find? bookingId).filter fun b => b.guestId == guestId with
  | none => .error ⟨"BOOKING_NOT_FOUND", "Booking does not exist"⟩
  | some b =>
    match hassert : assertDiscardableUnpaidBooking (discardEligibility proofs b) with
    | .error e => .error e
    | .ok _ => .ok ⟨b, assertDiscardableUnpaidBooking_eq_ok hassert⟩

theorem lockDiscardable_eq_ok {bookingId : BookingId} {guestId : UserId} {proofs : PaymentProofs} {db : Db}
    {booking : DiscardableBooking} (h : lockDiscardable bookingId guestId proofs db = .ok booking) :
    db.bookings.find? bookingId = some booking.row := by
  unfold lockDiscardable at h
  split at h
  · cases h
  · rename_i b hb
    split at h
    · cases h
    · cases h
      exact (Option.filter_eq_some_iff.mp hb).1

/-- The row is as the discard locked it. -/
def DiscardableBooking.Held (booking : DiscardableBooking) (db : Db) : Prop :=
  db.bookings.find? booking.row.id = some booking.row

instance (booking : DiscardableBooking) (db : Db) : Decidable (booking.Held db) :=
  inferInstanceAs (Decidable (_ = _))

/-- The writes on the locked row. Whoever wants to write the row waits for the lock, so
a row written since stands for a discard that was rolled back before. -/
def discardLocked (now : Int) (booking : DiscardableBooking) (db : Db) : Db :=
  if booking.Held db then
    releaseNights db (currentDate now) booking.row isBookedBlock fun row =>
      { row with status := .cancelled, archivedAt := some now, nextRetryAt := none }
  else db

/-- What holds of the database and of one whose locked booking is released. -/
theorem discardLocked_of {P : Db → Prop} {now : Int} {booking : DiscardableBooking} {db : Db} (hdb : P db)
    (hreleased : booking.Held db → P (releaseNights db (currentDate now) booking.row isBookedBlock fun row =>
      { row with status := .cancelled, archivedAt := some now, nextRetryAt := none })) :
    P (discardLocked now booking db) := by
  unfold discardLocked
  split
  · rename_i hheld
    exact hreleased hheld
  · exact hdb

theorem discardLocked_of_held {now : Int} {booking : DiscardableBooking} {db : Db} (h : booking.Held db) :
    discardLocked now booking db =
      releaseNights db (currentDate now) booking.row isBookedBlock fun row =>
        { row with status := .cancelled, archivedAt := some now, nextRetryAt := none } := if_pos h

/-- The whole transaction, when nothing happens between its statements. -/
def discardUnpaidBooking (now : Int) (bookingId : BookingId) (guestId : UserId) (db : Db) :
    Except BookingError (BookingId × Db) := do
  let booking ← lockDiscardable bookingId guestId (paymentProofs bookingId db) db
  return (bookingId, discardLocked now booking db)

theorem discardUnpaidBooking_eq_ok {now : Int} {bookingId r : BookingId} {guestId : UserId}
    {db db' : Db} (h : discardUnpaidBooking now bookingId guestId db = .ok (r, db')) :
    ∃ booking : DiscardableBooking, booking.Held db ∧ db.bookings.find? bookingId = some booking.row ∧
      db' = releaseNights db (currentDate now) booking.row isBookedBlock fun row =>
        { row with status := .cancelled, archivedAt := some now, nextRetryAt := none } := by
  unfold discardUnpaidBooking at h
  obtain ⟨booking, hlock, h⟩ := Lib.bind_eq_ok.mp h
  cases h
  have hfind := lockDiscardable_eq_ok hlock
  have hheld : booking.Held db := by
    unfold DiscardableBooking.Held
    rw [show booking.row.id = bookingId from Lib.Table.key_of_find? hfind]
    exact hfind
  exact ⟨booking, hheld, hfind, discardLocked_of_held hheld⟩

/-! ## The completion sweep -/

/-- `completeStaysAndRequestReviews`: confirmed stays that are over. -/
def completeStays (today : Int) (db : Db) : Db :=
  let ended (b : Booking) : Bool := decide (b.status = .confirmed ∧ b.checkOut ≤ today)
  { db with bookings := db.bookings.updateWhere ended fun b => { b with status := .completed } }

end HostPlatform
