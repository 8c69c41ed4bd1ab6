-- SUMMARY: The on-session charge of a delayed-flow booking, and the statements on attempts it is made of (`newFlowPaymentIntent.ts`, `paymentAttempts.ts`).
import HostPlatform.Lib.Outcome
import HostPlatform.Payments.ScheduledCharges

/-!
# The on-session charge

`createImmediateNewFlowPaymentIntent` is five steps on their own: none of them
takes the lock of the booking, and the attempt it adds carries no lease.
-/

namespace HostPlatform

open Lib (Table require)

/-! ## `paymentAttempts.ts` -/

/-- The attempt number `recordNewAttempt` computes: `COUNT(*) + 1`. -/
def nextAttemptNumber (db : Db) (b : BookingId) : Nat := (db.attemptsOf b).length + 1

/-- The row `recordNewAttempt` inserts. It has no claim. -/
def newAttempt (b : BookingId) (attemptNumber : Nat) (amountMinor : Int) (currency : String)
    (id : AttemptId) : PaymentAttempt :=
  { id := id
    bookingId := b
    attemptNumber := attemptNumber
    providerPaymentIntentId := none
    status := .pending
    failureCode := none
    failureMessage := none
    amountMinor := amountMinor
    currency := currency
    idempotencyKey := ⟨b, attemptNumber⟩
    claimToken := none
    leaseExpiresAt := none }

/-- `UNIQUE (booking_id, attempt_number)` and `idempotency_key UNIQUE`. -/
def attemptConflicts (db : Db) (b : BookingId) (attemptNumber : Nat) : Bool :=
  db.paymentAttempts.rows.any fun a =>
    decide (a.bookingId = b ∧ a.attemptNumber = attemptNumber ∨ a.idempotencyKey = ⟨b, attemptNumber⟩)

/-- The `INSERT` of `recordNewAttempt`, which a violated constraint rejects. -/
def recordNewAttempt (db : Db) (b : BookingId) (attemptNumber : Nat) (amountMinor : Int)
    (currency : String) : Option (AttemptId × AttemptKey × Db) :=
  if attemptConflicts db b attemptNumber then none
  else
    some (db.paymentAttempts.freshKey, ⟨b, attemptNumber⟩,
      { db with
        paymentAttempts :=
          db.paymentAttempts.insertNew (newAttempt b attemptNumber amountMinor currency) })

/-- `UPDATE payment_attempts SET .. WHERE id = $1`, whatever the attempt is. -/
def markAttemptStatus (db : Db) (attemptId : AttemptId) (status : AttemptStatus)
    (details : OutcomeDetails) : Db :=
  { db with
    paymentAttempts := db.paymentAttempts.modify attemptId fun a =>
      { a with
        status := status
        providerPaymentIntentId := details.providerPaymentIntentId.or a.providerPaymentIntentId
        failureCode := details.failureCode
        failureMessage := details.failureMessage } }

theorem recordNewAttempt_eq_some {db db' : Db} {b : BookingId} {attemptNumber : Nat}
    {amountMinor : Int} {currency : String} {attemptId : AttemptId} {key : AttemptKey}
    (h : recordNewAttempt db b attemptNumber amountMinor currency = some (attemptId, key, db')) :
    (∀ a ∈ db.paymentAttempts.rows, a.bookingId = b → a.attemptNumber ≠ attemptNumber) ∧
      db'.paymentAttempts.rows =
        db.paymentAttempts.rows ++ [newAttempt b attemptNumber amountMinor currency attemptId] := by
  unfold recordNewAttempt at h
  split at h
  · cases h
  · rename_i hfree
    cases h
    refine ⟨fun a ha hb hnumber => hfree ?_, rfl⟩
    unfold attemptConflicts
    rw [List.any_eq_true]
    exact ⟨a, ha, decide_eq_true (.inl ⟨hb, hnumber⟩)⟩

/-! ## `createImmediateNewFlowPaymentIntent` -/

/-- The columns of its `SELECT` that the request is made of. -/
structure ImmediateBooking where
  guestTotalMinor : Int
  currency : String
  deriving DecidableEq, Repr

def immediateBooking (bookingId : BookingId) (db : Db) : Except BookingError ImmediateBooking :=
  let booking := (db.bookings.find? bookingId).filter fun b => decide (b.status = .pendingPayment)
  match booking, db.priceComponents.find? bookingId with
  | some b, some bpc => do
    require (b.paymentFlowVersion = .separateChargesDelayedV1)
      ⟨"ERROR", "This function is only for separate_charges_delayed_v1 bookings — legacy bookings must use createPaymentIntent.ts unchanged"⟩
    require (b.taxTreatment ≠ .unconfigured)
      ⟨"ERROR", "Tax treatment is unconfigured — refusing to create a PaymentIntent under the new architecture"⟩
    return ⟨bpc.guestTotalMinor, bpc.currency⟩
  | _, _ => .error ⟨"ERROR", "Booking not found or not in pending_payment status"⟩

/-- The parameters of `stripe.paymentIntents.create`, and its idempotency key. The
guest confirms the intent in the browser with a card of their choice. -/
structure ImmediateRequest where
  amount : Int
  currency : String
  bookingId : BookingId
  paymentAttemptId : AttemptId
  paymentFlowVersion : PaymentFlowVersion
  idempotencyKey : AttemptKey
  deriving DecidableEq, Repr

def immediateRequest (bookingId : BookingId) (b : ImmediateBooking) (attemptId : AttemptId)
    (key : AttemptKey) : ImmediateRequest :=
  { amount := b.guestTotalMinor
    currency := b.currency.toLower
    bookingId := bookingId
    paymentAttemptId := attemptId
    paymentFlowVersion := .separateChargesDelayedV1
    idempotencyKey := key }

/-- What the request to Stripe returned or threw. -/
inductive ImmediateAnswer where
  | created (id : PaymentIntentId)
  | refused (message : String)
  deriving DecidableEq, Repr

/-- The status the call gives its attempt for an answer. -/
def ImmediateAnswer.status : ImmediateAnswer → AttemptStatus
  | .created _ => .processing
  | .refused _ => .failed

def ImmediateAnswer.details : ImmediateAnswer → OutcomeDetails
  | .created id => ⟨some id, none, none⟩
  | .refused message => ⟨none, none, some message⟩

theorem ImmediateAnswer.status_ne_succeeded (answer : ImmediateAnswer) :
    answer.status ≠ .succeeded := by
  cases answer <;> simp [status]

end HostPlatform
