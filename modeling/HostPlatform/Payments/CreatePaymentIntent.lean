-- SUMMARY: The database statements of the two guest checkouts (`createPaymentIntent.ts`, `setupIntentFlow.ts`, `newFlowWebhookHandling.ts`).
import HostPlatform.Lib.Outcome
import HostPlatform.Payments.ScheduledCharges
import HostPlatform.Stripe

/-!
# Checkout

A legacy booking is paid through a PaymentIntent the guest confirms. A
delayed-flow booking saves a card through a SetupIntent instead, and is charged
later. Each statement below commits on its own, between calls to Stripe.
-/

namespace HostPlatform

open Lib (require)

/-! ## `createPaymentIntentForBooking` -/

def reusableIntentStatuses : List IntentStatus :=
  [.requiresPaymentMethod, .requiresConfirmation, .requiresAction]

/-- The check `POST /api/payments/intent` makes before the checkout starts. -/
def checkPaymentFlow (bookingId : BookingId) (db : Db) : Except BookingError Unit :=
  require (((db.bookings.find? bookingId).map Booking.paymentFlowVersion)
      ≠ some .separateChargesDelayedV1)
    ⟨"WRONG_PAYMENT_FLOW", "This booking uses the delayed-payment architecture — use /api/payments/setup-intent instead."⟩

/-- The columns of the first `SELECT` of `createPaymentIntentForBooking`. -/
structure CheckoutBooking where
  bookingId : BookingId
  guestTotalMinor : Int
  hostRevenueMinor : Int
  currency : String
  stripeConnectAccountId : Nat
  deriving DecidableEq, Repr

def checkoutBooking (bookingId : BookingId) (db : Db) : Except BookingError CheckoutBooking :=
  let booking := (db.bookings.find? bookingId).filter fun b => decide (b.status = .pendingPayment)
  let host := booking.bind fun b => db.hostProfiles.find? b.hostId
  match booking, db.priceComponents.find? bookingId, host with
  | some _, some bpc, some hp =>
    match hp.stripeConnectAccountId with
    | none => .error ⟨"ERROR", "Host has no connected Stripe account — payout setup incomplete"⟩
    | some account =>
      .ok
        { bookingId := bookingId
          guestTotalMinor := bpc.guestTotalMinor
          hostRevenueMinor := bpc.hostRevenueMinor
          currency := bpc.currency
          stripeConnectAccountId := account }
  | _, _, _ => .error ⟨"ERROR", "Booking not found or not in pending_payment status"⟩

/-- The second `SELECT`: the intent to retrieve, if the payments row names one. -/
def existingPaymentIntent (bookingId : BookingId) (db : Db) :
    Except BookingError (Option PaymentIntentId) :=
  match db.payments.find? bookingId with
  | none => .ok none
  | some p =>
    if p.providerPaymentIntentId.isSome ∧ p.status = .paid then
      .error ⟨"ERROR", "This booking has already been paid for."⟩
    else .ok p.providerPaymentIntentId

def paymentRow (bookingId : BookingId) (intentId : PaymentIntentId) (guestTotalMinor : Int)
    (currency : String) : Payment :=
  { bookingId := bookingId
    providerPaymentIntentId := some intentId
    status := .pending
    amountMinor := guestTotalMinor
    currency := currency
    failureCode := none
    failureMessage := none }

/-- `INSERT INTO payments .. ON CONFLICT (booking_id) DO UPDATE`. The column
`provider_payment_intent_id` is `UNIQUE`. -/
def upsertPayment (bookingId : BookingId) (intentId : PaymentIntentId) (guestTotalMinor : Int)
    (currency : String) (db : Db) : Except BookingError (Unit × Db) := do
  require (∀ p ∈ db.payments.rows, p.providerPaymentIntentId = some intentId → p.bookingId = bookingId)
    ⟨"23505", "duplicate key value violates unique constraint"⟩
  return ((), { db with
    payments := db.payments.upsert (paymentRow bookingId intentId guestTotalMinor currency) fun p =>
      { p with providerPaymentIntentId := some intentId, status := .pending } })

/-- The row a checkout leaves: the intent is named, the status is `pending`, and
an amount that was there before stays. -/
theorem upsertPayment_eq_ok {bookingId : BookingId} {intentId : PaymentIntentId}
    {guestTotalMinor : Int} {currency : String} {db db' : Db} {u : Unit}
    (h : upsertPayment bookingId intentId guestTotalMinor currency db = .ok (u, db')) :
    ∃ row : Payment, row.bookingId = bookingId ∧ row.providerPaymentIntentId = some intentId ∧
      row.status = .pending ∧
      row.amountMinor = ((db.payments.find? bookingId).map Payment.amountMinor).getD guestTotalMinor ∧
      (∀ b, db'.payments.find? b = if b = bookingId then some row else db.payments.find? b) ∧
      db' = { db with payments := db'.payments } := by
  unfold upsertPayment at h
  obtain ⟨_, -, h⟩ := Lib.bind_eq_ok.mp h
  cases h
  cases hold : db.payments.find? bookingId with
  | none =>
    refine ⟨paymentRow bookingId intentId guestTotalMinor currency, rfl, rfl, rfl, rfl,
      fun b => ?_, rfl⟩
    refine (Lib.Table.find?_upsert _ _ _ _ b).trans (ite_congr rfl (fun hb => ?_) fun _ => rfl)
    have hb' : b = bookingId := hb
    rw [hb', hold]
    rfl
  | some p =>
    refine ⟨{ p with providerPaymentIntentId := some intentId, status := .pending },
      Lib.Table.key_of_find? hold, rfl, rfl, rfl, fun b => ?_, rfl⟩
    refine (Lib.Table.find?_upsert _ _ _ _ b).trans (ite_congr rfl (fun hb => ?_) fun _ => rfl)
    have hb' : b = bookingId := hb
    rw [hb', hold]
    rfl

/-! ## Saving a card -/

/-- The last statement of `createSetupIntentForBooking`. -/
def saveSetupIntent (bookingId : BookingId) (customerId setupIntentId : Nat) (db : Db) : Db :=
  { db with
    bookings := db.bookings.modify bookingId fun b =>
      { b with stripeCustomerId := some customerId, stripeSetupIntentId := some setupIntentId } }

/-- The transaction of `confirmSetupIntentAndSavePaymentMethod`: a new card
clears the scheduled retry. -/
def savePaymentMethod (bookingId : BookingId) (paymentMethodId : Nat) (db : Db) :
    Except BookingError (Bool × Db) :=
  match db.bookings.find? bookingId with
  | none => .error ⟨"ERROR", "Booking not found"⟩
  | some current =>
    let changed := decide (current.stripePaymentMethodId ≠ some paymentMethodId)
    .ok (changed, { db with
      bookings := db.bookings.modify bookingId fun b =>
        { b with
          stripePaymentMethodId := some paymentMethodId
          nextRetryAt := if b.stripePaymentMethodId ≠ some paymentMethodId then none else b.nextRetryAt } })

/-- `UPDATE bookings SET hold_expires_at = NULL` for a deferred charge. -/
def clearHold (bookingId : BookingId) (db : Db) : Db :=
  updatePendingBooking db bookingId fun b => { b with holdExpiresAt := none }

/-- `UPDATE bookings SET tax_treatment = $2`: no function of the program writes
the column, an operator does. -/
def configureTaxTreatment (bookingId : BookingId) (taxTreatment : TaxTreatment) (db : Db) : Db :=
  { db with bookings := db.bookings.modify bookingId fun b => { b with taxTreatment := taxTreatment } }

end HostPlatform
