-- SUMMARY: The SetupIntents that save a guest's card: what the two functions of `setupIntentFlow.ts` read, request and refuse.
import HostPlatform.Payments.CreatePaymentIntent

namespace HostPlatform

open Lib (Keyed Table)

/-! ## SetupIntents at Stripe -/

inductive SetupIntentStatus where
  | requiresPaymentMethod | requiresConfirmation | requiresAction | processing | canceled | succeeded
  deriving DecidableEq, Repr

def SetupIntentStatus.text : SetupIntentStatus → String
  | .requiresPaymentMethod => "requires_payment_method"
  | .requiresConfirmation => "requires_confirmation"
  | .requiresAction => "requires_action"
  | .processing => "processing"
  | .canceled => "canceled"
  | .succeeded => "succeeded"

/-- `host-setup-intent-<booking>`, with `-after-<replaced>` for a replacement. -/
structure SetupKey where
  bookingId : BookingId
  after : Option Nat
  deriving DecidableEq, Repr

/-- `bookingId` is its metadata. -/
structure SetupIntent where
  id : Nat
  customerId : Nat
  bookingId : BookingId
  idempotencyKey : SetupKey
  status : SetupIntentStatus
  paymentMethod : Option Nat
  deriving DecidableEq, Repr

instance : Keyed SetupIntent := ⟨SetupIntent.id⟩

/-- A SetupIntent that succeeded or was canceled stays as it is. -/
def SetupIntent.moveTo (status : SetupIntentStatus) (paymentMethod : Option Nat) (s : SetupIntent) : SetupIntent :=
  if s.status = .succeeded ∨ s.status = .canceled then s
  else { s with status := status, paymentMethod := paymentMethod }

theorem SetupIntent.key_moveTo (status : SetupIntentStatus) (paymentMethod : Option Nat) (s : SetupIntent) :
    Lib.key (s.moveTo status paymentMethod) = Lib.key s := by
  unfold moveTo
  split <;> rfl

/-- `stripe.setupIntents.create`: the SetupIntent of the key if there is one, a new one otherwise.
Another customer under the same key is an error. -/
def requestSetupIntent (intents : Table SetupIntent) (customerId : Nat) (key : SetupKey) :
    Option Nat × Table SetupIntent :=
  match intents.rows.find? fun s => s.idempotencyKey = key with
  | some s => if s.customerId = customerId then (some s.id, intents) else (none, intents)
  | none =>
    (some intents.freshKey,
      intents.insertNew fun id => ⟨id, customerId, key.bookingId, key, .requiresPaymentMethod, none⟩)

/-! ## `createSetupIntentForBooking` -/

/-- The statuses in which a SetupIntent still takes a card. -/
def reusableSetupStatuses : List SetupIntentStatus :=
  [.requiresPaymentMethod, .requiresConfirmation, .requiresAction]

/-- `stripe_customer_id` and `stripe_setup_intent_id` of the row. -/
structure SetupColumns where
  customerId : Option Nat
  setupIntentId : Option Nat
  deriving DecidableEq, Repr

def setupColumns (bookingId : BookingId) (db : Db) : Except BookingError SetupColumns :=
  match (db.bookings.find? bookingId).filter fun b =>
      decide (b.paymentFlowVersion = .separateChargesDelayedV1) with
  | none => .error ⟨"ERROR", "Booking not found or not a separate_charges_delayed_v1 booking"⟩
  | some existing => .ok ⟨existing.stripeCustomerId, existing.stripeSetupIntentId⟩

/-! ## `confirmSetupIntentAndSavePaymentMethod` -/

/-- The SetupIntent that the row names now, whichever SetupIntent the event is about. -/
def storedSetupIntent (bookingId : BookingId) (db : Db) : Except BookingError Nat :=
  match (db.bookings.find? bookingId).bind Booking.stripeSetupIntentId with
  | none => .error ⟨"ERROR", "No SetupIntent found for this booking"⟩
  | some setupIntentId => .ok setupIntentId

/-- What the retrieved SetupIntent has to be. -/
def confirmedPaymentMethod (setupIntent : SetupIntent) : Except BookingError Nat :=
  if setupIntent.status ≠ .succeeded then
    .error ⟨"ERROR", "SetupIntent is not yet succeeded (status: " ++ setupIntent.status.text ++ ")"⟩
  else
    match setupIntent.paymentMethod with
    | none => .error ⟨"ERROR", "SetupIntent succeeded but has no attached payment method"⟩
    | some paymentMethodId => .ok paymentMethodId

/-- The guard of `onSetupIntentSucceeded`, on columns that never change. -/
def acceptsSetup (bookingId : BookingId) (db : Db) : Bool :=
  match db.bookings.find? bookingId, db.priceComponents.find? bookingId with
  | some booking, some bpc =>
    decide (booking.paymentFlowVersion = .separateChargesDelayedV1 ∧ bpc.guestTotalMinor ≠ 0)
  | _, _ => false

end HostPlatform
