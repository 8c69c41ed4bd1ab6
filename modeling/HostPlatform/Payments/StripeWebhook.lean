-- SUMMARY: One delivery of a Stripe event, dispatched by its type (`handleStripeWebhook`).
import HostPlatform.Lib.Transition
import HostPlatform.Payments.WebhookHandler

/-!
# The webhook endpoint

Stripe delivers every event at least once, in any order. A delivery whose handler fails
is rolled back and answered with an error. `setup_intent.succeeded` goes on to charge
the card and is no case here.
-/

namespace HostPlatform

open Lib (Table)

/-- The fields of a `Stripe.Account` that the handler reads. -/
structure AccountObject where
  id : Nat
  chargesEnabled : Bool
  payoutsEnabled : Bool
  detailsSubmitted : Bool
  deriving DecidableEq, Repr

def AccountObject.readiness (account : AccountObject) : PayoutAccountStatus :=
  if account.chargesEnabled && account.payoutsEnabled then .active
  else if account.detailsSubmitted then .pending
  else .notConnected

def onConnectedAccountUpdated (account : AccountObject) (db : Db) : Db :=
  let connected (h : HostProfile) : Bool := h.stripeConnectAccountId == some account.id
  { db with
    hostProfiles := db.hostProfiles.updateWhere connected fun h =>
      { h with payoutAccountStatus := account.readiness } }

/-- A verified event: its type and the object it carries. -/
inductive WebhookEvent where
  | paymentSucceeded (intent : PaymentIntentObject)
  | paymentFailed (intent : PaymentIntentObject)
  | refundCreated (refund : RefundObject)
  | refundUpdated (refund : RefundObject)
  | refundFailed (refund : RefundObject)
  | disputeCreated (dispute : DisputeObject)
  | accountUpdated (account : AccountObject)
  | unhandled (type : String)
  deriving DecidableEq, Repr

/-- `onPaymentSucceeded`, with the entitlement that a delayed-flow payment leaves. -/
def handlePaymentSucceeded (now : Int) (intent : PaymentIntentObject) (db : Db) :
    Except BookingError (Unit × Db) :=
  (onPaymentSucceeded now intent db).map fun r =>
    ((), match r.1 with
      | none => r.2
      | some input => createEntitlement input r.2)

theorem handlePaymentSucceeded_eq_ok {now : Int} {intent : PaymentIntentObject} {db db' : Db} {u : Unit}
    (h : handlePaymentSucceeded now intent db = .ok (u, db')) :
    ∃ input paid, onPaymentSucceeded now intent db = .ok (input, paid) ∧
      (db' = paid ∨ ∃ i, db' = createEntitlement i paid) := by
  unfold handlePaymentSucceeded at h
  cases hok : onPaymentSucceeded now intent db with
  | error e =>
    rw [hok] at h
    cases h
  | ok r =>
    obtain ⟨input, paid⟩ := r
    rw [hok] at h
    cases h
    refine ⟨input, paid, rfl, ?_⟩
    cases input with
    | none => exact .inl rfl
    | some i => exact .inr ⟨i, rfl⟩

def handleStripeWebhook (now : Int) (event : WebhookEvent) (db : Db) :
    Except BookingError (Unit × Db) :=
  match event with
  | .paymentSucceeded intent => handlePaymentSucceeded now intent db
  | .paymentFailed intent => .ok ((), onPaymentFailed intent db)
  | .refundCreated refund => onRefundEvent refund db
  | .refundUpdated refund => onRefundEvent refund db
  | .refundFailed refund => .ok ((), onRefundFailed refund db)
  | .disputeCreated dispute => .ok ((), onDisputeCreated dispute db)
  | .accountUpdated account => .ok ((), onConnectedAccountUpdated account db)
  | .unhandled _ => .ok ((), db)

/-- An event, and the time at which it arrives. -/
structure Delivery where
  now : Int
  event : WebhookEvent
  deriving DecidableEq, Repr

def deliver (db : Db) (d : Delivery) : Db := Lib.commit db (handleStripeWebhook d.now d.event db)

end HostPlatform
