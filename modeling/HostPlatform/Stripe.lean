-- SUMMARY: The Stripe objects the program reads and creates, and what Stripe remembers of them.
import HostPlatform.Schema

/-!
# Stripe

Stripe is another party: it keeps PaymentIntents and refunds of its own, answers
requests, and announces changes in webhooks. Only what the modelled functions send,
read or rely on is kept.
-/

namespace HostPlatform

open Lib (Keyed Table)

/-! ## PaymentIntents -/

inductive IntentStatus where
  | requiresPaymentMethod | requiresConfirmation | requiresAction | processing | succeeded | canceled
  deriving DecidableEq, Repr

/-- The parameters of `stripe.paymentIntents.create`: a destination charge the
guest confirms in the browser, or an off-session charge of a saved card. -/
inductive IntentParams where
  | destinationCharge (bookingId : BookingId) (amount : Int) (currency : String)
      (applicationFeeAmount : Int) (destination : Nat)
  | offSession (bookingId : BookingId) (paymentAttemptId : AttemptId) (amount : Int)
      (currency : String) (customer : Nat) (paymentMethod : Nat)
  deriving DecidableEq, Repr

/-- `metadata.booking_id`. -/
def IntentParams.bookingId : IntentParams → BookingId
  | .destinationCharge b .. => b
  | .offSession b .. => b

/-- `metadata.payment_flow_version`, which only the off-session charges carry. -/
def IntentParams.flow : IntentParams → PaymentFlowVersion
  | .destinationCharge .. => .destinationChargeLegacy
  | .offSession .. => .separateChargesDelayedV1

/-- A PaymentIntent at Stripe. `answered` is the status in the response to the
request that created it, which Stripe replays for its idempotency key. -/
structure PaymentIntent where
  id : PaymentIntentId
  params : IntentParams
  idempotencyKey : Option AttemptKey
  status : IntentStatus
  answered : IntentStatus
  everDeclined : Bool
  deriving DecidableEq, Repr

def PaymentIntent.bookingId (i : PaymentIntent) : BookingId := i.params.bookingId

def PaymentIntent.flow (i : PaymentIntent) : PaymentFlowVersion := i.params.flow

/-- The intent a request creates. A charge that is confirmed at once may be declined at once. -/
def PaymentIntent.requested (params : IntentParams) (key : Option AttemptKey) (status : IntentStatus)
    (id : PaymentIntentId) : PaymentIntent :=
  { id := id
    params := params
    idempotencyKey := key
    status := status
    answered := status
    everDeclined := decide (status = .requiresPaymentMethod ∧ key.isSome) }

def PaymentIntent.moveTo (status : IntentStatus) (i : PaymentIntent) : PaymentIntent :=
  { i with
    status := status
    everDeclined := i.everDeclined || decide (status = .requiresPaymentMethod) }

instance : Keyed PaymentIntent := ⟨PaymentIntent.id⟩

theorem PaymentIntent.key_requested (params : IntentParams) (key : Option AttemptKey) (status : IntentStatus)
    (id : PaymentIntentId) : Keyed.key (PaymentIntent.requested params key status id) = id := rfl

theorem PaymentIntent.key_moveTo (status : IntentStatus) (i : PaymentIntent) :
    Keyed.key (i.moveTo status) = Keyed.key i := rfl

/-- The PaymentIntents at Stripe, as every part of the system sees them. -/
abbrev PaymentIntents := Table PaymentIntent

namespace PaymentIntents

/-- A new PaymentIntent, under a fresh id. -/
def create (t : PaymentIntents) (params : IntentParams) (key : Option AttemptKey)
    (status : IntentStatus) : PaymentIntents :=
  Table.insertNew t (PaymentIntent.requested params key status)
    (PaymentIntent.key_requested params key status)

def move (t : PaymentIntents) (i : PaymentIntentId) (status : IntentStatus) : PaymentIntents :=
  Table.modify t i (PaymentIntent.moveTo status) (PaymentIntent.key_moveTo status)

theorem find?_create {t : PaymentIntents} {i : PaymentIntentId} {r : PaymentIntent}
    (hr : t.find? i = some r) (params : IntentParams) (key : Option AttemptKey)
    (status : IntentStatus) : (t.create params key status).find? i = some r :=
  Table.find?_insertNew_of_find? hr _ _

theorem mem_create {t : PaymentIntents} {params : IntentParams} {key : Option AttemptKey}
    {status : IntentStatus} {r : PaymentIntent} (h : r ∈ (t.create params key status).rows) :
    r ∈ t.rows ∨ r.id = t.freshKey ∧ r.params = params ∧ r.idempotencyKey = key ∧
      r.status = status := by
  rcases List.mem_append.mp h with hold | hnew
  · exact .inl hold
  · rw [List.mem_singleton.mp hnew]
    exact .inr ⟨rfl, rfl, rfl, rfl⟩

theorem find?_move (t : PaymentIntents) (j : PaymentIntentId) (status : IntentStatus)
    (i : PaymentIntentId) : (t.move j status).find? i =
      if i = j then (t.find? j).map (PaymentIntent.moveTo status) else t.find? i :=
  Table.find?_modify _ _ _ _ _

end PaymentIntents

/-! ## Refunds -/

inductive StripeRefundStatus where
  | pending | succeeded | failed
  deriving DecidableEq, Repr

/-- A refund at Stripe. Its idempotency key is `host-refund-<hostRefundId>`. -/
structure StripeRefund where
  id : StripeRefundId
  paymentIntent : PaymentIntentId
  amount : Int
  hostRefundId : RefundId
  bookingId : BookingId
  hostReason : RefundReason
  initiatedBy : Actor
  status : StripeRefundStatus
  deriving DecidableEq, Repr

instance : Keyed StripeRefund := ⟨StripeRefund.id⟩

/-! ## Webhook payloads -/

structure PaymentError where
  code : Option String
  message : Option String
  declineCode : Option String
  deriving DecidableEq, Repr

/-- The fields of a `Stripe.PaymentIntent` that the handlers read. -/
structure PaymentIntentObject where
  id : PaymentIntentId
  bookingId : Option BookingId
  paymentAttemptId : Option AttemptId
  paymentFlowVersion : Option PaymentFlowVersion
  lastPaymentError : Option PaymentError
  deriving DecidableEq, Repr

/-- The fields of a `Stripe.Refund` that the handlers read. -/
structure RefundObject where
  id : StripeRefundId
  paymentIntent : Option PaymentIntentId
  amount : Int
  status : StripeRefundStatus
  deriving DecidableEq, Repr

/-- The fields of a `Stripe.Dispute` that the handlers read. -/
structure DisputeObject where
  id : Nat
  paymentIntent : Option PaymentIntentId
  reason : String
  status : String
  amount : Int
  evidenceDueBy : Option Int
  deriving DecidableEq, Repr

/-- The PaymentIntent as a webhook carries it. -/
def PaymentIntent.object (i : PaymentIntent) (lastPaymentError : Option PaymentError) :
    PaymentIntentObject :=
  match i.params with
  | .destinationCharge b .. =>
    { id := i.id
      bookingId := some b
      paymentAttemptId := none
      paymentFlowVersion := none
      lastPaymentError := lastPaymentError }
  | .offSession b attemptId .. =>
    { id := i.id
      bookingId := some b
      paymentAttemptId := some attemptId
      paymentFlowVersion := some .separateChargesDelayedV1
      lastPaymentError := lastPaymentError }

@[simp] theorem PaymentIntent.object_id (i : PaymentIntent) (e : Option PaymentError) :
    (i.object e).id = i.id := by
  unfold object
  split <;> rfl

@[simp] theorem PaymentIntent.object_bookingId (i : PaymentIntent) (e : Option PaymentError) :
    (i.object e).bookingId = some i.bookingId := by
  unfold object bookingId IntentParams.bookingId
  split <;> simp_all

theorem PaymentIntent.object_paymentFlowVersion (i : PaymentIntent) (e : Option PaymentError) :
    (i.object e).paymentFlowVersion = some .separateChargesDelayedV1 ↔
      i.flow = .separateChargesDelayedV1 := by
  unfold object flow IntentParams.flow
  split <;> simp_all

/-- The refund as a webhook carries it. -/
def StripeRefund.object (r : StripeRefund) : RefundObject :=
  { id := r.id
    paymentIntent := some r.paymentIntent
    amount := r.amount
    status := r.status }

/-! ## State -/

/-- What Stripe remembers. `sharedSecrets` are the intents whose client secret a
guest holds: only those can be confirmed from a browser. -/
structure Stripe where
  intents : Table PaymentIntent
  refunds : Table StripeRefund
  sharedSecrets : List PaymentIntentId

namespace Stripe

def empty : Stripe := ⟨.empty, .empty, []⟩

/-- A new PaymentIntent, and its id. -/
def newIntent (s : Stripe) (params : IntentParams) (key : Option AttemptKey) (status : IntentStatus) :
    PaymentIntentId × Stripe :=
  (s.intents.freshKey,
    { s with intents := s.intents.insertNew (PaymentIntent.requested params key status) })

/-- The intent an idempotency key stands for. -/
def intentByKey (s : Stripe) (key : AttemptKey) : Option PaymentIntent :=
  s.intents.rows.find? fun i => i.idempotencyKey == some key

/-- How an intent may change without the program: the guest confirms it with its
client secret, a pending confirmation completes or fails, or it is canceled. -/
def mayMove (shared : Bool) : IntentStatus → IntentStatus → Bool
  | .requiresPaymentMethod, .requiresPaymentMethod | .requiresPaymentMethod, .requiresAction
  | .requiresPaymentMethod, .processing | .requiresPaymentMethod, .succeeded
  | .requiresConfirmation, .requiresPaymentMethod | .requiresConfirmation, .requiresAction
  | .requiresConfirmation, .processing | .requiresConfirmation, .succeeded => shared
  | .requiresAction, .requiresPaymentMethod | .requiresAction, .processing
  | .requiresAction, .succeeded => true
  | .processing, .requiresPaymentMethod | .processing, .succeeded => true
  | .succeeded, _ | .canceled, _ => false
  | _, .canceled => true
  | _, _ => false

def moveIntent (s : Stripe) (id : PaymentIntentId) (status : IntentStatus) : Stripe :=
  match s.intents.find? id with
  | none => s
  | some i =>
    if mayMove (s.sharedSecrets.contains id) i.status status then
      { s with intents := s.intents.modify id (PaymentIntent.moveTo status) }
    else s

def shareSecret (s : Stripe) (id : PaymentIntentId) : Stripe :=
  { s with sharedSecrets := id :: s.sharedSecrets }

/-- A pending refund succeeds or fails, once. -/
def settleRefund (s : Stripe) (id : StripeRefundId) (status : StripeRefundStatus) : Stripe :=
  { s with
    refunds := s.refunds.modify id fun r =>
      { r with status := if r.status = .pending then status else r.status } }

/-- The refund an idempotency key `host-refund-<row>` stands for. -/
def refundByKey (s : Stripe) (hostRefundId : RefundId) : Option StripeRefund :=
  s.refunds.rows.find? fun r => r.hostRefundId == hostRefundId

/-- `stripe.refunds.list({ payment_intent, limit: 20 })`, newest first, searched
for `metadata.host_refund_id`. -/
def listedRefund (s : Stripe) (paymentIntent : PaymentIntentId) (hostRefundId : RefundId) :
    Option StripeRefund :=
  ((s.refunds.select fun r => r.paymentIntent == paymentIntent).reverse.take 20).find? fun r =>
    r.hostRefundId == hostRefundId

end Stripe

end HostPlatform
