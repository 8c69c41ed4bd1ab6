-- SUMMARY: The whole system: the database, Stripe, the calls in progress between them, and every step any of them can take.
import HostPlatform.Transactions

/-!
# The running system

Requests, sweeps and webhook handlers call Stripe between database transactions, and
any number of them run at once. A call is a record of where it is and of its local
variables; one step of it is one transaction or one request to Stripe. A label that is
not enabled leaves the system as it is, so every list of labels is a run, in any
order, with any event delivered any number of times and any call stopping anywhere.
The time in a label is the reading of the process that takes the step: readings of
different processes need not follow the order of the steps.
-/

namespace HostPlatform

open Lib (Keyed Table)

/-! ## Calls in progress -/

/-- Where a call of `attemptScheduledCharge` is. -/
inductive ChargePhase where
  | deciding
  | calling (claim : ChargeClaim)
  | recording (claim : ChargeClaim) (status : AttemptStatus) (details : OutcomeDetails)
  deriving DecidableEq, Repr

structure ChargeCall where
  id : Nat
  bookingId : BookingId
  amountMinor : Int
  currency : String
  phase : ChargePhase
  deriving DecidableEq, Repr

/-- Where a call of `createPaymentIntentForBooking` is. -/
inductive CheckoutPhase where
  | readingBooking
  | readingPayment (booking : CheckoutBooking)
  | retrieving (booking : CheckoutBooking) (intentId : PaymentIntentId)
  | creating (booking : CheckoutBooking)
  | upserting (booking : CheckoutBooking) (intentId : PaymentIntentId)
  deriving DecidableEq, Repr

structure CheckoutCall where
  id : Nat
  bookingId : BookingId
  phase : CheckoutPhase
  deriving DecidableEq, Repr

/-- Where a refund is: the admin route's check of what remains, then `initiateRefund`. -/
inductive RefundPhase where
  | checking (paidMinor : Int)
  | selecting
  | inserting
  | listing (refundRowId : RefundId)
  | creating (refundRowId : RefundId)
  | linking (refundRowId : RefundId) (stripeRefundId : StripeRefundId)
  deriving DecidableEq, Repr

structure RefundCall where
  id : Nat
  input : InitiateRefundInput
  phase : RefundPhase
  deriving DecidableEq, Repr

/-- A delivery of `payment_intent.succeeded` between the confirming commit and the
entitlement. -/
structure EntitlementHandler where
  id : Nat
  intentId : PaymentIntentId
  input : EntitlementInput
  deriving DecidableEq, Repr

/-- Where a transaction of `discardUnpaidBooking` is: waiting for the lock on the booking
row, or about to write. -/
inductive DiscardPhase where
  | locking (proofs : PaymentProofs)
  | writing (booking : DiscardableBooking)
  deriving DecidableEq, Repr

structure DiscardCall where
  id : Nat
  bookingId : BookingId
  guestId : UserId
  phase : DiscardPhase
  deriving DecidableEq, Repr

instance : Keyed ChargeCall := ⟨ChargeCall.id⟩
instance : Keyed CheckoutCall := ⟨CheckoutCall.id⟩
instance : Keyed RefundCall := ⟨RefundCall.id⟩
instance : Keyed EntitlementHandler := ⟨EntitlementHandler.id⟩
instance : Keyed DiscardCall := ⟨DiscardCall.id⟩

theorem ChargeCall.key_setPhase (phase : ChargePhase) (c : ChargeCall) :
    Keyed.key { c with phase := phase } = Keyed.key c := rfl

theorem CheckoutCall.key_setPhase (phase : CheckoutPhase) (c : CheckoutCall) :
    Keyed.key { c with phase := phase } = Keyed.key c := rfl

theorem DiscardCall.key_setPhase (phase : DiscardPhase) (c : DiscardCall) :
    Keyed.key { c with phase := phase } = Keyed.key c := rfl

theorem RefundCall.key_setPhase (phase : RefundPhase) (c : RefundCall) :
    Keyed.key { c with phase := phase } = Keyed.key c := rfl

/-- `acknowledged` are the intents one of whose succeeded events was handled
without error, `setupHandlers` the bookings whose card is saved but whose charge timing
is not decided yet, and `discards` the transactions that discard a booking. -/
structure World where
  db : Db
  stripe : Stripe
  charges : Table ChargeCall
  checkouts : Table CheckoutCall
  refundCalls : Table RefundCall
  setupHandlers : List BookingId
  entitlementHandlers : Table EntitlementHandler
  acknowledged : List PaymentIntentId
  discards : Table DiscardCall
  nextToken : Nat

/-- A database, before anything is in progress. -/
def World.start (db : Db) : World :=
  { db := db
    stripe := .empty
    charges := .empty
    checkouts := .empty
    refundCalls := .empty
    setupHandlers := []
    entitlementHandlers := .empty
    acknowledged := []
    discards := .empty
    nextToken := 0 }

/-! ## Labels -/

/-- How a confirmed off-session charge ends. -/
inductive OffSessionResult where
  | succeeded | processing | requiresAction | declined
  deriving DecidableEq, Repr

def OffSessionResult.status : OffSessionResult → IntentStatus
  | .succeeded => .succeeded
  | .processing => .processing
  | .requiresAction => .requiresAction
  | .declined => .requiresPaymentMethod

/-- What happens to a request for an off-session charge: Stripe processes it and the
response arrives or is lost, or it fails before Stripe does anything. -/
inductive ChargeAnswer where
  | processed (result : OffSessionResult) (lastPaymentError : Option PaymentError) (delivered : Bool)
  | conflict (message : Option String)
  | unavailable (message : Option String)
  deriving DecidableEq, Repr

/-- What happens to a request that creates something at Stripe. -/
inductive CreateAnswer where
  | created (delivered : Bool)
  | refused
  deriving DecidableEq, Repr

inductive Label where
  | transaction (t : Tx)
  | cancelBookingAndRefund (now : Int) (input : CancelBookingInput)
  | sweepCharge (now : Int) (bookingId : BookingId)
  | setupIntentSucceeded (bookingId : BookingId) (paymentMethodId : Nat)
  | setupIntentContinue (now : Int) (bookingId : BookingId)
  | charge (now : Int) (call : Nat) (answer : ChargeAnswer)
  | chargeCrash (call : Nat)
  | startCheckout (bookingId : BookingId)
  | checkout (call : Nat) (answer : CreateAnswer)
  | checkoutCrash (call : Nat)
  | moveIntent (intentId : PaymentIntentId) (status : IntentStatus)
  | paymentSucceeded (now : Int) (intentId : PaymentIntentId)
  | insertEntitlement (handler : Nat)
  | entitlementCrash (handler : Nat)
  | paymentFailed (intentId : PaymentIntentId) (lastPaymentError : Option PaymentError)
  | disputeCreated (dispute : DisputeObject)
  | adminRefund (bookingId : BookingId) (amountMinor : Int) (reason : RefundReason)
  | refund (call : Nat) (answer : CreateAnswer)
  | refundCrash (call : Nat)
  | settleRefund (stripeRefundId : StripeRefundId) (status : StripeRefundStatus)
  | refundEvent (stripeRefundId : StripeRefundId)
  | refundFailed (stripeRefundId : StripeRefundId)
  | startDiscard (bookingId : BookingId) (guestId : UserId)
  | discard (now : Int) (call : Nat)
  | discardCrash (call : Nat)

/-! ## Steps -/

/-- The transactions that run on their own, outside the calls below. -/
def Tx.standsAlone : Tx → Bool
  | .createBooking .. | .releaseExpiredHold .. | .completeStays .. | .mutateAvailability ..
  | .reconcileCalendar .. | .createCalendarFeed ..
  | .setCalendarFeedActive .. | .deleteCalendarFeed .. | .replaceFeedEvents .. | .markSyncRunning ..
  | .recordNotModified .. | .recordSyncError .. | .saveSetupIntent ..
  | .configureTaxTreatment .. => true
  | _ => false

namespace World

/-- `initiateRefund` starts after the cancellation commits. -/
def cancelBookingAndRefund (w : World) (now : Int) (input : CancelBookingInput) : World :=
  match cancelBooking now input w.db with
  | .error _ => w
  | .ok (cancelled, db) =>
    match cancelled.refundInitiated with
    | none => { w with db := db }
    | some refund =>
      { w with
        db := db
        refundCalls := w.refundCalls.insertNew fun id => ⟨id, refund, .selecting⟩ }

/-! ### Off-session charges -/

def addCharge (w : World) (b : BookingId) (amountMinor : Int) (currency : String) : World :=
  { w with charges := w.charges.insertNew fun id => ⟨id, b, amountMinor, currency, .deciding⟩ }

/-- The cron sweep takes a booking that `findBookingsDueForScheduledCharge` returns. -/
def sweepCharge (w : World) (now : Int) (b : BookingId) : World :=
  match w.db.priceComponents.find? b with
  | some bpc =>
    if b ∈ findBookingsDueForScheduledCharge w.db now then
      w.addCharge b bpc.guestTotalMinor bpc.currency
    else w
  | none => w

/-- The first half of `onSetupIntentSucceeded`: save the card. -/
def setupIntentSucceeded (w : World) (b : BookingId) (paymentMethodId : Nat) : World :=
  match w.db.bookings.find? b, w.db.priceComponents.find? b with
  | some booking, some bpc =>
    if booking.paymentFlowVersion = .separateChargesDelayedV1 ∧ bpc.guestTotalMinor ≠ 0
        ∧ booking.stripeSetupIntentId.isSome then
      { w with
        db := (Tx.savePaymentMethod b paymentMethodId).exec w.db
        setupHandlers := b :: w.setupHandlers }
    else w
  | _, _ => w

/-- The second half: defer the charge, or attempt it now. -/
def setupIntentContinue (w : World) (now : Int) (b : BookingId) : World :=
  if b ∈ w.setupHandlers then
    let continued := { w with setupHandlers := w.setupHandlers.erase b }
    match w.db.bookings.find? b, w.db.priceComponents.find? b with
    | some booking, some bpc =>
      if (decideChargeTiming booking.checkIn now).immediate then
        continued.addCharge b bpc.guestTotalMinor bpc.currency
      else { continued with db := (Tx.clearHold b).exec w.db }
    | _, _ => continued
  else w

def endCharge (w : World) (call : ChargeCall) : World :=
  { w with charges := w.charges.deleteWhere fun c => c.id == call.id }

def setChargePhase (w : World) (call : ChargeCall) (phase : ChargePhase) : World :=
  { w with charges := w.charges.modify call.id fun c => { c with phase := phase } }

/-- The parameters of the off-session charge of a claimed attempt. -/
def offSessionParams (call : ChargeCall) (claim : ChargeClaim) : IntentParams :=
  .offSession call.bookingId claim.attemptId call.amountMinor call.currency claim.customerId
    claim.paymentMethodId

/-- Stripe's part of the request: the same key and parameters return the same
PaymentIntent, other parameters under the key are a conflict. -/
def requestCharge (s : Stripe) (params : IntentParams) (key : AttemptKey) (answer : ChargeAnswer) :
    ChargeResponse × Stripe :=
  match answer with
  | .conflict message => (.idempotencyError message, s)
  | .unavailable message => (.apiError message, s)
  | .processed result lastPaymentError delivered =>
    let reply (id : PaymentIntentId) (status : IntentStatus) : ChargeResponse :=
      if delivered then .intent id status lastPaymentError else .apiError none
    match s.intentByKey key with
    | some i =>
      if i.params = params then (reply i.id i.answered, s) else (.idempotencyError none, s)
    | none =>
      let (id, s') := s.newIntent params (some key) result.status
      (reply id result.status, s')

/-- One step of `attemptScheduledCharge`. -/
def stepCharge (w : World) (now : Int) (call : ChargeCall) (answer : ChargeAnswer) : World :=
  match call.phase with
  | .deciding =>
    let db := (Tx.decideCharge now w.nextToken call.bookingId call.amountMinor call.currency).exec w.db
    match (decideCharge now w.nextToken call.bookingId call.amountMinor call.currency w.db).1 with
    | .charge claim =>
      { w.setChargePhase call (.calling claim) with db := db, nextToken := w.nextToken + 1 }
    | _ => { w.endCharge call with db := db }
  | .calling claim =>
    let (response, stripe) :=
      requestCharge w.stripe (offSessionParams call claim) claim.idempotencyKey answer
    let (status, details) := chargeOutcome response
    { w.setChargePhase call (.recording claim status details) with stripe := stripe }
  | .recording claim status details =>
    { w.endCharge call with
      db := (Tx.recordChargeOutcome now call.bookingId claim.attemptId claim.claimToken status
        details).exec w.db }

/-! ### Checkouts -/

/-- `POST /api/payments/intent` knows the booking, and lets no delayed-flow one through. -/
def startCheckout (w : World) (b : BookingId) : World :=
  match w.db.bookings.find? b, checkPaymentFlow b w.db with
  | some _, .ok () => { w with checkouts := w.checkouts.insertNew fun id => ⟨id, b, .readingBooking⟩ }
  | _, _ => w

def endCheckout (w : World) (call : CheckoutCall) : World :=
  { w with checkouts := w.checkouts.deleteWhere fun c => c.id == call.id }

def setCheckoutPhase (w : World) (call : CheckoutCall) (phase : CheckoutPhase) : World :=
  { w with checkouts := w.checkouts.modify call.id fun c => { c with phase := phase } }

def destinationChargeParams (booking : CheckoutBooking) : IntentParams :=
  .destinationCharge booking.bookingId booking.guestTotalMinor booking.currency
    booking.hostRevenueMinor booking.stripeConnectAccountId

/-- One step of `createPaymentIntentForBooking`. A call that returns hands the
client secret to the guest, one that throws just ends. -/
def stepCheckout (w : World) (call : CheckoutCall) (answer : CreateAnswer) : World :=
  match call.phase with
  | .readingBooking =>
    match checkoutBooking call.bookingId w.db with
    | .ok booking => w.setCheckoutPhase call (.readingPayment booking)
    | .error _ => w.endCheckout call
  | .readingPayment booking =>
    match existingPaymentIntent call.bookingId w.db with
    | .ok (some intentId) => w.setCheckoutPhase call (.retrieving booking intentId)
    | .ok none => w.setCheckoutPhase call (.creating booking)
    | .error _ => w.endCheckout call
  | .retrieving booking intentId =>
    match w.stripe.intents.find? intentId with
    | none => w.endCheckout call
    | some i =>
      if i.status ∈ reusableIntentStatuses then
        { w.endCheckout call with stripe := w.stripe.shareSecret intentId }
      else w.setCheckoutPhase call (.creating booking)
  | .creating booking =>
    match answer with
    | .refused => w.endCheckout call
    | .created delivered =>
      -- Stripe refuses an amount that is not positive.
      if booking.guestTotalMinor ≤ 0 then w.endCheckout call else
      let (id, stripe) :=
        w.stripe.newIntent (destinationChargeParams booking) none .requiresPaymentMethod
      if delivered then { w.setCheckoutPhase call (.upserting booking id) with stripe := stripe }
      else { w.endCheckout call with stripe := stripe }
  | .upserting booking intentId =>
    match upsertPayment call.bookingId intentId booking.guestTotalMinor booking.currency w.db with
    | .ok ((), db) =>
      { w.endCheckout call with db := db, stripe := w.stripe.shareSecret intentId }
    | .error _ => w.endCheckout call

/-! ### Refunds -/

/-- The admin route reads the payment of the booking. -/
def adminRefund (w : World) (b : BookingId) (amountMinor : Int) (reason : RefundReason) : World :=
  match (w.db.payments.find? b).filter fun p =>
    decide (p.status = .paid ∨ p.status = .partiallyRefunded) with
  | some p =>
    if 0 < amountMinor ∧ (w.db.bookings.find? b).isSome then
      let input : InitiateRefundInput :=
        { bookingId := b
          paymentId := p.bookingId
          providerPaymentIntentId := p.providerPaymentIntentId
          amountMinor := amountMinor
          currency := p.currency
          reason := reason
          initiatedBy := .admin }
      { w with
        refundCalls := w.refundCalls.insertNew fun id => ⟨id, input, .checking p.amountMinor⟩ }
    else w
  | none => w

def endRefund (w : World) (call : RefundCall) : World :=
  { w with refundCalls := w.refundCalls.deleteWhere fun c => c.id == call.id }

def setRefundPhase (w : World) (call : RefundCall) (phase : RefundPhase) : World :=
  { w with refundCalls := w.refundCalls.modify call.id fun c => { c with phase := phase } }

/-- The refund a request creates, with the metadata it carries. -/
def stripeRefund (paymentIntent : PaymentIntentId) (input : InitiateRefundInput)
    (refundRowId : RefundId) (id : StripeRefundId) : StripeRefund :=
  { id := id
    paymentIntent := paymentIntent
    amount := input.amountMinor
    hostRefundId := refundRowId
    bookingId := input.bookingId
    hostReason := input.reason
    initiatedBy := input.initiatedBy
    status := .pending }

theorem key_stripeRefund (paymentIntent : PaymentIntentId) (input : InitiateRefundInput) (refundRowId : RefundId)
    (id : StripeRefundId) : Keyed.key (stripeRefund paymentIntent input refundRowId id) = id := rfl

/-- Stripe's part of `stripe.refunds.create`: the refund of the row's key if there is
one, a new pending refund otherwise. -/
def requestRefund (s : Stripe) (paymentIntent : PaymentIntentId) (input : InitiateRefundInput)
    (refundRowId : RefundId) : Option StripeRefundId × Stripe :=
  match s.refundByKey refundRowId with
  | some r =>
    if r.paymentIntent = paymentIntent ∧ r.amount = input.amountMinor ∧ r.bookingId = input.bookingId
        ∧ r.hostReason = input.reason ∧ r.initiatedBy = input.initiatedBy then (some r.id, s)
    else (none, s)
  | none =>
    (some s.refunds.freshKey,
      { s with refunds := s.refunds.insertNew (stripeRefund paymentIntent input refundRowId) })

/-- One step of the admin route's check or of `initiateRefund`. -/
def stepRefund (w : World) (call : RefundCall) (answer : CreateAnswer) : World :=
  match call.phase with
  | .checking paidMinor =>
    if call.input.amountMinor ≤ paidMinor - w.db.alreadyRefunded call.input.bookingId then
      w.setRefundPhase call .selecting
    else w.endRefund call
  | .selecting =>
    match unresolvedAttempt call.input w.db with
    | some refundRowId => w.setRefundPhase call (.listing refundRowId)
    | none => w.setRefundPhase call .inserting
  | .inserting =>
    { w.setRefundPhase call (.creating (insertRefund call.input w.db).1) with
      db := (Tx.insertRefund call.input).exec w.db }
  | .listing refundRowId =>
    match call.input.providerPaymentIntentId with
    | none => w.endRefund call
    | some paymentIntent =>
      match w.stripe.listedRefund paymentIntent refundRowId with
      | some r => w.setRefundPhase call (.linking refundRowId r.id)
      | none => w.setRefundPhase call (.creating refundRowId)
  | .creating refundRowId =>
    match call.input.providerPaymentIntentId, answer with
    | some paymentIntent, .created delivered =>
      let (created, stripe) := requestRefund w.stripe paymentIntent call.input refundRowId
      match created, delivered with
      | some stripeRefundId, true =>
        { w.setRefundPhase call (.linking refundRowId stripeRefundId) with stripe := stripe }
      | _, _ => { w.endRefund call with stripe := stripe }
    | _, _ => w.endRefund call
  | .linking refundRowId stripeRefundId =>
    { w.endRefund call with db := (Tx.linkRefund refundRowId stripeRefundId).exec w.db }

/-! ### Webhooks -/

/-- A delivery of `payment_intent.succeeded`, up to its first commit. -/
def paymentSucceeded (w : World) (now : Int) (i : PaymentIntent) : World :=
  match onPaymentSucceeded now (i.object none) w.db with
  | .error _ => w
  | .ok (none, db) => { w with db := db, acknowledged := i.id :: w.acknowledged }
  | .ok (some input, db) =>
    { w with
      db := db
      entitlementHandlers := w.entitlementHandlers.insertNew fun id => ⟨id, i.id, input⟩ }

/-- The rest of the delivery: insert the entitlement and answer Stripe. -/
def insertEntitlement (w : World) (handler : EntitlementHandler) : World :=
  { w with
    db := (Tx.createEntitlement handler.input).exec w.db
    entitlementHandlers := w.entitlementHandlers.deleteWhere fun h => h.id == handler.id
    acknowledged := handler.intentId :: w.acknowledged }

/-! ### Discards -/

/-- The guest discards a booking: the `SELECT` takes its snapshot. -/
def startDiscard (w : World) (b : BookingId) (guestId : UserId) : World :=
  { w with
    discards := w.discards.insertNew fun id => ⟨id, b, guestId, .locking (paymentProofs b w.db)⟩ }

def endDiscard (w : World) (call : DiscardCall) : World :=
  { w with discards := w.discards.deleteWhere fun c => c.id == call.id }

def setDiscardPhase (w : World) (call : DiscardCall) (phase : DiscardPhase) : World :=
  { w with discards := w.discards.modify call.id fun c => { c with phase := phase } }

/-- One step of `discardUnpaidBooking`: the lock and the check, or the writes and the commit. -/
def stepDiscard (w : World) (now : Int) (call : DiscardCall) : World :=
  match call.phase with
  | .locking proofs =>
    match lockDiscardable call.bookingId call.guestId proofs w.db with
    | .ok booking => w.setDiscardPhase call (.writing booking)
    | .error _ => w.endDiscard call
  | .writing booking =>
    { w.endDiscard call with db := (Tx.discardUnpaidBooking now booking).exec w.db }

/-- One step of the system. Webhooks are enabled by the state of the object at
Stripe, and stay enabled: any delivery can be repeated, late and out of order. -/
def step (w : World) : Label → World
  | .transaction t => if t.standsAlone then { w with db := t.exec w.db } else w
  | .cancelBookingAndRefund now input => w.cancelBookingAndRefund now input
  | .sweepCharge now b => w.sweepCharge now b
  | .setupIntentSucceeded b paymentMethodId => w.setupIntentSucceeded b paymentMethodId
  | .setupIntentContinue now b => w.setupIntentContinue now b
  | .charge now call answer =>
    match w.charges.find? call with
    | some c => w.stepCharge now c answer
    | none => w
  | .chargeCrash call =>
    match w.charges.find? call with
    | some c => w.endCharge c
    | none => w
  | .startCheckout b => w.startCheckout b
  | .checkout call answer =>
    match w.checkouts.find? call with
    | some c => w.stepCheckout c answer
    | none => w
  | .checkoutCrash call =>
    match w.checkouts.find? call with
    | some c => w.endCheckout c
    | none => w
  | .moveIntent intentId status => { w with stripe := w.stripe.moveIntent intentId status }
  | .paymentSucceeded now intentId =>
    match w.stripe.intents.find? intentId with
    | some i => if i.status = .succeeded then w.paymentSucceeded now i else w
    | none => w
  | .insertEntitlement handler =>
    match w.entitlementHandlers.find? handler with
    | some h => w.insertEntitlement h
    | none => w
  | .entitlementCrash handler =>
    { w with entitlementHandlers := w.entitlementHandlers.deleteWhere fun h => h.id == handler }
  | .paymentFailed intentId lastPaymentError =>
    match w.stripe.intents.find? intentId with
    | some i =>
      if i.everDeclined then
        { w with db := (Tx.paymentFailed (i.object lastPaymentError)).exec w.db }
      else w
    | none => w
  | .disputeCreated dispute =>
    match dispute.paymentIntent.bind w.stripe.intents.find? with
    | some i =>
      if i.status = .succeeded then { w with db := (Tx.disputeCreated dispute).exec w.db } else w
    | none => w
  | .adminRefund b amountMinor reason => w.adminRefund b amountMinor reason
  | .refund call answer =>
    match w.refundCalls.find? call with
    | some c => w.stepRefund c answer
    | none => w
  | .refundCrash call =>
    match w.refundCalls.find? call with
    | some c => w.endRefund c
    | none => w
  | .settleRefund stripeRefundId status =>
    { w with stripe := w.stripe.settleRefund stripeRefundId status }
  | .refundEvent stripeRefundId =>
    match w.stripe.refunds.find? stripeRefundId with
    | some r => { w with db := (Tx.refundEvent r.object).exec w.db }
    | none => w
  | .refundFailed stripeRefundId =>
    match w.stripe.refunds.find? stripeRefundId with
    | some r =>
      if r.status = .failed then { w with db := (Tx.refundFailed r.object).exec w.db } else w
    | none => w
  | .startDiscard b guestId => w.startDiscard b guestId
  | .discard now call =>
    match w.discards.find? call with
    | some c => w.stepDiscard now c
    | none => w
  | .discardCrash call =>
    match w.discards.find? call with
    | some c => w.endDiscard c
    | none => w

end World

end HostPlatform
