-- SUMMARY: The off-session charge as a machine of its own: what any step of the system can do to attempts, charge calls and PaymentIntents.
import HostPlatform.WorldFrames

/-!
# The charge machine

An off-session charge lives in the attempt rows, the charge calls under way and the
PaymentIntents at Stripe. `ChargeStep` says once all that a step of the system can
do to them: the locked decision, the request under the attempt's key, the outcome
recorded under its claim token, and the webhook that marks an attempt succeeded.
-/

namespace HostPlatform

open Lib (Table)

/-- The part of the system an off-session charge lives in. -/
structure Charges where
  attempts : Table PaymentAttempt
  calls : Table ChargeCall
  intents : PaymentIntents

def World.chargeView (w : World) : Charges :=
  { attempts := w.db.paymentAttempts
    calls := w.charges
    intents := w.stripe.intents }

namespace Charges

def setPhase (v : Charges) (call : ChargeCall) (phase : ChargePhase) : Charges :=
  { v with calls := v.calls.modify call.id (fun c => { c with phase := phase }) (ChargeCall.key_setPhase phase) }

def endCall (v : Charges) (call : ChargeCall) : Charges :=
  { v with calls := v.calls.deleteWhere fun c => c.id == call.id }

/-- A new PaymentIntent, of an off-session charge or of a checkout. -/
def create (v : Charges) (params : IntentParams) (key : Option AttemptKey) (status : IntentStatus) :
    Charges :=
  { v with intents := v.intents.create params key status }

def move (v : Charges) (i : PaymentIntentId) (status : IntentStatus) : Charges :=
  { v with intents := v.intents.move i status }

end Charges

/-! ## Steps -/

/-- The decision of the call, in this state. -/
def World.decision (w : World) (now : Int) (call : ChargeCall) : ChargeDecision × Db :=
  decideCharge now w.nextToken call.bookingId call.amountMinor call.currency w.db

/-- The label takes the locked decision of the call. -/
def Decides (w : World) (l : Label) (now : Int) (c : ChargeCall) : Prop :=
  ∃ call answer, l = .charge now call answer ∧ w.charges.find? call = some c ∧ c.phase = .deciding

/-- The step starts an off-session charge of the booking, for its price. -/
inductive Starts (w : World) : Label → BookingId → PriceComponents → Prop
  | sweep (now : Int) (b : BookingId) (pc : PriceComponents)
      (hpc : w.db.priceComponents.find? b = some pc)
      (hdue : b ∈ findBookingsDueForScheduledCharge w.db now) : Starts w (.sweepCharge now b) b pc
  | setupIntent (now : Int) (b : BookingId) (pc : PriceComponents) (booking : Booking)
      (hpc : w.db.priceComponents.find? b = some pc) (hhandler : b ∈ w.setupHandlers)
      (hbooking : w.db.bookings.find? b = some booking)
      (himmediate : (decideChargeTiming booking.checkIn now).immediate) :
      Starts w (.setupIntentContinue now b) b pc

/-- A charge is started with the price row at hand. -/
theorem Starts.priced {w : World} {l : Label} {b : BookingId} {pc : PriceComponents}
    (h : Starts w l b pc) : w.db.priceComponents.find? b = some pc := by
  cases h with
  | sweep now b pc hpc hdue => exact hpc
  | setupIntent now b pc booking hpc hhandler hbooking himmediate => exact hpc

theorem Starts.booking {w : World} {l : Label} {b : BookingId} {pc : PriceComponents}
    (h : Starts w l b pc) : ∃ r, w.db.bookings.find? b = some r := by
  cases h with
  | sweep now b pc hpc hdue =>
    obtain ⟨r, hr, rfl⟩ := List.mem_map.mp (List.mem_of_mem_take hdue)
    exact ⟨r, Table.find?_of_mem (List.mem_filter.mp hr).1⟩
  | setupIntent now b pc booking hpc hhandler hbooking himmediate => exact ⟨booking, hbooking⟩

/-- What a step can do to the off-session part of the system. A request is `answered`
where its key already stands for an intent or nothing is made, and `charged` where it
makes one. -/
inductive ChargeStep (w : World) (l : Label) (w' : World) : Prop
  | frame (h : w'.chargeView = w.chargeView)
  | started (b : BookingId) (pc : PriceComponents) (hstarts : Starts w l b pc)
      (h : w'.chargeView = { w.chargeView with
        calls := w.chargeView.calls.insertNew fun id =>
          ⟨id, b, pc.guestTotalMinor, pc.currency, .deciding⟩ })
  | ended (call : ChargeCall) (h : w'.chargeView = w.chargeView.endCall call)
  | decided (now : Int) (call : ChargeCall) (claim : ChargeClaim)
      (hdecides : Decides w l now call) (hcall : w.charges.find? call.id = some call)
      (hdecision : (w.decision now call).1 = .charge claim)
      (h : w'.chargeView = { w.chargeView.setPhase call (.calling claim) with
        attempts := (w.decision now call).2.paymentAttempts })
  | answered (call : ChargeCall) (claim : ChargeClaim) (status : AttemptStatus)
      (details : OutcomeDetails) (hcall : w.charges.find? call.id = some call)
      (hphase : call.phase = .calling claim)
      (h : w'.chargeView = w.chargeView.setPhase call (.recording claim status details))
  | charged (call : ChargeCall) (claim : ChargeClaim) (intentStatus : IntentStatus)
      (status : AttemptStatus) (details : OutcomeDetails)
      (hcall : w.charges.find? call.id = some call) (hphase : call.phase = .calling claim)
      (hkey : w.stripe.intentByKey claim.idempotencyKey = none)
      (h : w'.chargeView = (w.chargeView.setPhase call (.recording claim status details)).create
        (World.offSessionParams call claim) (some claim.idempotencyKey) intentStatus)
  | recorded (now : Int) (call : ChargeCall) (claim : ChargeClaim) (status : AttemptStatus)
      (details : OutcomeDetails) (hcall : w.charges.find? call.id = some call)
      (hphase : call.phase = .recording claim status details)
      (h : w'.chargeView = { w.chargeView.endCall call with
        attempts := (recordChargeOutcome now call.bookingId claim.attemptId claim.claimToken status
          details w.db).2.paymentAttempts })
  | marked (attemptId : Option AttemptId) (i : PaymentIntentId)
      (h : w'.chargeView = { w.chargeView with
        attempts := (markAttemptSucceeded w.db attemptId i).paymentAttempts })
  | checkout (params : IntentParams) (hflow : params.flow = .destinationChargeLegacy)
      (h : w'.chargeView = w.chargeView.create params none .requiresPaymentMethod)
  | moved (i : PaymentIntent) (status : IntentStatus) (hfind : w.stripe.intents.find? i.id = some i)
      (hmove : Stripe.mayMove (w.stripe.sharedSecrets.contains i.id) i.status status)
      (h : w'.chargeView = w.chargeView.move i.id status)

/-! ## Each function of the system -/

namespace World

variable (w : World)

theorem chargeView_of_sameMoney {w w' : World} {db : Db} (hdb : w.db.SameMoney db)
    (h : w'.chargeView = { w.chargeView with attempts := db.paymentAttempts }) :
    w'.chargeView = w.chargeView := by
  rw [h, hdb.paymentAttempts]
  rfl

/-- One case for each phase of `attemptScheduledCharge`. -/
theorem stepCharge_chargeStep (now : Int) (call : ChargeCall)
    (hcall : w.charges.find? call.id = some call) (answer : ChargeAnswer) :
    ChargeStep w (.charge now call.id answer) (w.stepCharge now call answer) := by
  unfold stepCharge
  split
  · rename_i hphase
    obtain ⟨attempts, hdb⟩ :=
      decideCharge_eq now w.nextToken call.bookingId call.amountMinor call.currency w.db
    have hattempts : attempts = (w.decision now call).2.paymentAttempts :=
      (congrArg Db.paymentAttempts hdb).symm
    simp only [hdb]
    split
    · rename_i claim hclaim
      refine .decided now call claim ⟨call.id, answer, rfl, hcall, hphase⟩ hcall hclaim ?_
      rw [← hattempts]
      rfl
    · rename_i hne
      -- a decision against charging writes nothing
      have hsame := decideCharge_of_ne_charge fun claim hclaim => hne claim hclaim
      refine .ended call ?_
      have hold : attempts = w.db.paymentAttempts := by
        rw [hattempts]
        exact congrArg Db.paymentAttempts hsame
      rw [hold]
      rfl
  · rename_i claim hphase
    simp only [requestCharge]
    cases answer with
    | conflict message => exact .answered call claim _ _ hcall hphase rfl
    | unavailable message => exact .answered call claim _ _ hcall hphase rfl
    | processed result lastPaymentError delivered =>
      simp only
      split
      · split
        · exact .answered call claim _ _ hcall hphase rfl
        · exact .answered call claim _ _ hcall hphase rfl
      · rename_i hkey
        exact .charged call claim result.status _ _ hcall hphase hkey rfl
  · rename_i claim status details hphase
    exact .recorded now call claim status details hcall hphase rfl

/-- A checkout is seen here only where it makes a new intent. -/
theorem stepCheckout_chargeStep (l : Label) (call : CheckoutCall) (answer : CreateAnswer) :
    ChargeStep w l (w.stepCheckout call answer) := by
  unfold stepCheckout
  split
  · split
    · exact .frame rfl
    · exact .frame rfl
  · split
    · exact .frame rfl
    · exact .frame rfl
    · exact .frame rfl
  · split
    · exact .frame rfl
    · split
      · exact .frame rfl
      · exact .frame rfl
  · rename_i cb _
    split
    · exact .frame rfl
    · split
      · exact .frame rfl
      · simp only
        split
        · exact .checkout (destinationChargeParams cb) rfl rfl
        · exact .checkout (destinationChargeParams cb) rfl rfl
  · split
    · rename_i hupsert
      obtain ⟨-, -, -, -, -, -, hframe⟩ := upsertPayment_eq_ok hupsert
      rw [hframe]
      exact .frame rfl
    · exact .frame rfl

/-- The delayed flow's handler marks the attempt its intent names, the legacy one none. -/
theorem paymentSucceeded_chargeStep (l : Label) (now : Int) (i : PaymentIntent) :
    ChargeStep w l (w.paymentSucceeded now i) := by
  cases hflow : i.flow with
  | destinationChargeLegacy =>
    rcases w.paymentSucceeded_legacy hflow with h | ⟨db, hok, h⟩
    · rw [h]
      exact .frame rfl
    · obtain ⟨bookings, payments, payouts, ledgerEntries, hdb⟩ := onLegacyPaymentSucceeded_eq hok
      rw [h, hdb]
      exact .frame rfl
  | separateChargesDelayedV1 =>
    have hdb : (onNewFlowPaymentSucceeded now (i.object none) w.db).2.paymentAttempts =
        w.db.paymentAttempts ∨ (onNewFlowPaymentSucceeded now (i.object none) w.db).2.paymentAttempts =
        (markAttemptSucceeded w.db (i.object none).paymentAttemptId (i.object none).id).paymentAttempts := by
      unfold onNewFlowPaymentSucceeded
      split
      · exact .inl rfl
      · split
        · exact .inl rfl
        · exact .inr rfl
    rw [w.paymentSucceeded_delayed hflow]
    cases hnew : onNewFlowPaymentSucceeded now (i.object none) w.db with
    | mk input db =>
      rw [hnew] at hdb
      have hview : ∀ w' : World, w'.chargeView = { w.chargeView with attempts := db.paymentAttempts } →
          ChargeStep w l w' := by
        intro w' h
        rcases hdb with hsame | hmarked
        · exact .frame (h.trans (by rw [show db.paymentAttempts = _ from hsame]; rfl))
        · exact .marked _ _ (h.trans (by rw [show db.paymentAttempts = _ from hmarked]))
      cases input with
      | none => exact hview _ rfl
      | some input => exact hview _ rfl

/-! ## Every step -/

/-- Every step of the system is a step of the charge machine. -/
theorem chargeStep (l : Label) : ChargeStep w l (w.step l) := by
  cases l with
  | transaction t =>
    obtain ⟨db, h, hdb⟩ := w.transaction_eq t
    rw [h]
    exact .frame (chargeView_of_sameMoney hdb rfl)
  | cancelBookingAndRefund now input =>
    obtain ⟨db, refundCalls, h, hdb⟩ := w.cancelBookingAndRefund_eq now input
    show ChargeStep w _ (w.cancelBookingAndRefund now input)
    rw [h]
    exact .frame (chargeView_of_sameMoney hdb rfl)
  | sweepCharge now b =>
    show ChargeStep w _ (w.sweepCharge now b)
    unfold sweepCharge
    split
    · rename_i pc hpc
      split
      · rename_i hdue
        exact .started b pc (.sweep now b pc hpc hdue) rfl
      · exact .frame rfl
    · exact .frame rfl
  | setupIntentSucceeded b paymentMethodId =>
    obtain ⟨db, handlers, h, hdb⟩ := w.setupIntentSucceeded_eq b paymentMethodId
    show ChargeStep w _ (w.setupIntentSucceeded b paymentMethodId)
    rw [h]
    exact .frame (chargeView_of_sameMoney hdb rfl)
  | setupIntentContinue now b =>
    show ChargeStep w _ (w.setupIntentContinue now b)
    unfold setupIntentContinue
    split
    · rename_i hhandler
      dsimp only
      split
      · rename_i booking pc hbooking hpc
        split
        · rename_i himmediate
          exact .started b pc (.setupIntent now b pc booking hpc hhandler hbooking himmediate) rfl
        · exact .frame rfl
      · exact .frame rfl
    · exact .frame rfl
  | charge now call answer =>
    simp only [step]
    split
    · rename_i c hc
      obtain rfl : c.id = call := Table.key_of_find? hc
      exact w.stepCharge_chargeStep now c hc answer
    · exact .frame rfl
  | chargeCrash call =>
    simp only [step]
    split
    · rename_i c _
      exact .ended c rfl
    · exact .frame rfl
  | startCheckout b =>
    obtain ⟨checkouts, h⟩ := w.startCheckout_eq b
    show ChargeStep w _ (w.startCheckout b)
    rw [h]
    exact .frame rfl
  | checkout call answer =>
    simp only [step]
    split
    · exact w.stepCheckout_chargeStep _ _ answer
    · exact .frame rfl
  | checkoutCrash call =>
    simp only [step]
    split
    · exact .frame rfl
    · exact .frame rfl
  | moveIntent intentId status =>
    rcases w.moveIntent_eq intentId status with h | ⟨i, hfind, hmove, h⟩
    · rw [h]
      exact .frame rfl
    · rw [h]
      exact .moved i status hfind hmove rfl
  | paymentSucceeded now intentId =>
    simp only [step]
    split
    · split
      · exact w.paymentSucceeded_chargeStep _ now _
      · exact .frame rfl
    · exact .frame rfl
  | insertEntitlement handler =>
    simp only [step]
    split
    · rename_i h _
      show ChargeStep w _ (w.insertEntitlement h)
      unfold insertEntitlement
      simp only [Tx.exec]
      rw [createEntitlement_frame]
      exact .frame rfl
    · exact .frame rfl
  | entitlementCrash handler => exact .frame rfl
  | paymentFailed intentId lastPaymentError =>
    simp only [step]
    split
    · split
      · exact .frame rfl
      · exact .frame rfl
    · exact .frame rfl
  | disputeCreated dispute =>
    simp only [step]
    split
    · split
      · obtain ⟨bookings, payouts, disputes, h⟩ := onDisputeCreated_eq dispute w.db
        simp only [Tx.exec]
        rw [h]
        exact .frame rfl
      · exact .frame rfl
    · exact .frame rfl
  | adminRefund b amountMinor reason =>
    obtain ⟨refundCalls, h⟩ := w.adminRefund_eq b amountMinor reason
    show ChargeStep w _ (w.adminRefund b amountMinor reason)
    rw [h]
    exact .frame rfl
  | refund call answer =>
    simp only [step]
    split
    · rename_i c _
      obtain ⟨refunds, stripeRefunds, refundCalls, h⟩ := w.stepRefund_eq c answer
      rw [h]
      exact .frame rfl
    · exact .frame rfl
  | refundCrash call =>
    simp only [step]
    split
    · exact .frame rfl
    · exact .frame rfl
  | settleRefund stripeRefundId status => exact .frame rfl
  | refundEvent stripeRefundId =>
    simp only [step]
    split
    · rename_i r _
      obtain ⟨bookings, payments, refunds, payouts, ledgerEntries, h⟩ := onRefundEvent_eq r.object w.db
      rw [h]
      exact .frame rfl
    · exact .frame rfl
  | refundFailed stripeRefundId =>
    simp only [step]
    split
    · split
      · exact .frame rfl
      · exact .frame rfl
    · exact .frame rfl
  | startDiscard b guestId => exact .frame rfl
  | discard now call =>
    obtain ⟨db, discards, h, hdb⟩ := w.discard_eq now call
    rw [h]
    exact .frame (chargeView_of_sameMoney hdb rfl)
  | discardCrash call =>
    obtain ⟨discards, h⟩ := w.discardCrash_eq call
    rw [h]
    exact .frame rfl

end World

end HostPlatform
