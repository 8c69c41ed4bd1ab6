-- SUMMARY: The legacy checkout as a machine of its own: what any step of the system can do to payments, checkout calls and PaymentIntents.
import HostPlatform.WorldFrames

/-!
# The checkout machine

A legacy payment lives in the payments rows, the checkout calls under way, the
PaymentIntents at Stripe and the client secrets the guests hold. `Checkouts` is that
part of the system, and `CheckoutStep` says once all that a step of the system can
do to it, guards included. The invariants of the legacy flow are case analyses of
`CheckoutStep` and never unfold the step function.
-/

namespace HostPlatform

open Lib (Table)

/-- The part of the system a legacy payment lives in. -/
structure Checkouts where
  payments : Table Payment
  calls : Table CheckoutCall
  intents : PaymentIntents
  sharedSecrets : List PaymentIntentId

def World.view (w : World) : Checkouts :=
  { payments := w.db.payments
    calls := w.checkouts
    intents := w.stripe.intents
    sharedSecrets := w.stripe.sharedSecrets }

namespace Checkouts

def setPhase (v : Checkouts) (call : CheckoutCall) (phase : CheckoutPhase) : Checkouts :=
  { v with calls := v.calls.modify call.id (fun c => { c with phase := phase }) (CheckoutCall.key_setPhase phase) }

def endCall (v : Checkouts) (call : CheckoutCall) : Checkouts :=
  { v with calls := v.calls.deleteWhere fun c => c.id == call.id }

def share (v : Checkouts) (i : PaymentIntentId) : Checkouts :=
  { v with sharedSecrets := i :: v.sharedSecrets }

/-- A new PaymentIntent, of a checkout or of an off-session charge. -/
def create (v : Checkouts) (params : IntentParams) (key : Option AttemptKey) (status : IntentStatus) :
    Checkouts :=
  { v with intents := v.intents.create params key status }

def move (v : Checkouts) (i : PaymentIntentId) (status : IntentStatus) : Checkouts :=
  { v with intents := v.intents.move i status }

end Checkouts

/-! ## Steps -/

/-- A checkout call reads the database or Stripe and moves on. -/
inductive CheckoutReads (w : World) (call : CheckoutCall) : CheckoutPhase → Prop
  | booking (cb : CheckoutBooking) (hphase : call.phase = .readingBooking)
      (hread : checkoutBooking call.bookingId w.db = .ok cb) : CheckoutReads w call (.readingPayment cb)
  | named (cb : CheckoutBooking) (i : PaymentIntentId) (hphase : call.phase = .readingPayment cb)
      (hread : existingPaymentIntent call.bookingId w.db = .ok (some i)) :
      CheckoutReads w call (.retrieving cb i)
  | unnamed (cb : CheckoutBooking) (hphase : call.phase = .readingPayment cb)
      (hread : existingPaymentIntent call.bookingId w.db = .ok none) : CheckoutReads w call (.creating cb)
  | replaced (cb : CheckoutBooking) (i : PaymentIntentId) (hphase : call.phase = .retrieving cb i) :
      CheckoutReads w call (.creating cb)

/-- What a step can do to the checkout part of the system. `created` and `createdLost`
differ in whether the call hears of the intent it made; `charged` is the off-session
flow, whose intents share the table at Stripe. -/
inductive CheckoutStep (w : World) (l : Label) (w' : World) : Prop
  | frame (h : w'.view = w.view)
  | started (b : BookingId) (hflow : w.db.flowOf b = some .destinationChargeLegacy)
      (h : w'.view = { w.view with
        calls := w.view.calls.insertNew fun id => ⟨id, b, .readingBooking⟩ })
  | ended (call : CheckoutCall) (h : w'.view = w.view.endCall call)
  | read (call : CheckoutCall) (phase : CheckoutPhase) (hcall : w.checkouts.find? call.id = some call)
      (hread : CheckoutReads w call phase) (h : w'.view = w.view.setPhase call phase)
  | reused (call : CheckoutCall) (cb : CheckoutBooking) (i : PaymentIntentId)
      (hcall : w.checkouts.find? call.id = some call) (hphase : call.phase = .retrieving cb i)
      (h : w'.view = (w.view.endCall call).share i)
  | created (call : CheckoutCall) (cb : CheckoutBooking)
      (hlabel : ∃ delivered, l = .checkout call.id (.created delivered))
      (hcall : w.checkouts.find? call.id = some call) (hphase : call.phase = .creating cb)
      (hpos : 0 < cb.guestTotalMinor)
      (h : w'.view = (w.view.setPhase call (.upserting cb w.stripe.intents.freshKey)).create
        (World.destinationChargeParams cb) none .requiresPaymentMethod)
  | createdLost (call : CheckoutCall) (cb : CheckoutBooking)
      (hcall : w.checkouts.find? call.id = some call) (hphase : call.phase = .creating cb)
      (h : w'.view = (w.view.endCall call).create (World.destinationChargeParams cb) none
        .requiresPaymentMethod)
  | upserted (call : CheckoutCall) (cb : CheckoutBooking) (i : PaymentIntentId) (db : Db)
      (hcall : w.checkouts.find? call.id = some call) (hphase : call.phase = .upserting cb i)
      (hupsert : upsertPayment call.bookingId i cb.guestTotalMinor cb.currency w.db = .ok ((), db))
      (h : w'.view = { (w.view.endCall call).share i with payments := db.payments })
  | moved (i : PaymentIntent) (status : IntentStatus) (hfind : w.stripe.intents.find? i.id = some i)
      (hmove : Stripe.mayMove (w.stripe.sharedSecrets.contains i.id) i.status status)
      (h : w'.view = w.view.move i.id status)
  | charged (call : ChargeCall) (claim : ChargeClaim) (status : IntentStatus)
      (hcall : w.charges.find? call.id = some call) (hphase : call.phase = .calling claim)
      (hkey : w.stripe.intentByKey claim.idempotencyKey = none)
      (h : w'.view = w.view.create (World.offSessionParams call claim) (some claim.idempotencyKey)
        status)
  | paid (i : PaymentIntent) (hfind : w.stripe.intents.find? i.id = some i)
      (hsucceeded : i.status = .succeeded) (hflow : i.flow = .destinationChargeLegacy)
      (hstatus : w'.db.statusOf i.bookingId ≠ some .pendingPayment)
      (h : w'.view = { w.view with
        payments := (updatePaymentByIntent w.db i.id fun p => { p with status := .paid }).payments })
      (hlabel : ∃ now, l = .paymentSucceeded now i.id)
  | failed (intent : PaymentIntentObject)
      (h : w'.view = { w.view with payments := (onPaymentFailed intent w.db).payments })
  | refunded (b : BookingId) (fullyRefunded : Bool)
      (hstatus : w'.db.statusOf b ≠ some .pendingPayment)
      (h : w'.view = { w.view with payments := (setRefundedStatuses w.db b fullyRefunded).payments })
      (hrefund : ∃ s payment, w.stripe.refunds.find? s.id = some s ∧
        w.db.paymentByIntent s.paymentIntent = some payment ∧ payment.bookingId = b)

/-! ## Each function of the system -/

namespace World

variable (w : World)

theorem view_of_sameMoney {w w' : World} {db : Db} (hdb : w.db.SameMoney db)
    (h : w'.view = { w.view with payments := db.payments }) : w'.view = w.view := by
  rw [h, hdb.payments]
  rfl

theorem startCheckout_step (l : Label) (b : BookingId) : CheckoutStep w l (w.startCheckout b) := by
  unfold startCheckout
  split
  · rename_i r hr hflow
    refine .started b ?_ rfl
    have hne := Lib.require_eq_ok.mp hflow
    unfold Db.flowOf
    rw [hr] at hne ⊢
    cases hv : r.paymentFlowVersion with
    | destinationChargeLegacy => rw [Option.map_some, hv]
    | separateChargesDelayedV1 => exact absurd (congrArg some hv) hne
  · exact .frame rfl

/-- One case for each phase of `createPaymentIntentForBooking`. -/
theorem stepCheckout_step (call : CheckoutCall) (hcall : w.checkouts.find? call.id = some call)
    (answer : CreateAnswer) :
    CheckoutStep w (.checkout call.id answer) (w.stepCheckout call answer) := by
  unfold stepCheckout
  split
  · rename_i hphase
    split
    · rename_i cb hread
      exact .read call _ hcall (.booking cb hphase hread) rfl
    · exact .ended call rfl
  · rename_i cb hphase
    split
    · rename_i i hread
      exact .read call _ hcall (.named cb i hphase hread) rfl
    · rename_i hread
      exact .read call _ hcall (.unnamed cb hphase hread) rfl
    · exact .ended call rfl
  · rename_i cb i hphase
    split
    · exact .ended call rfl
    · split
      · exact .reused call cb i hcall hphase rfl
      · exact .read call _ hcall (.replaced cb i hphase) rfl
  · rename_i cb hphase
    split
    · exact .ended call rfl
    · split
      · exact .ended call rfl
      · rename_i hpos
        simp only
        split
        · exact .created call cb ⟨_, rfl⟩ hcall hphase (not_le.mp hpos) rfl
        · exact .createdLost call cb hcall hphase rfl
  · rename_i cb i hphase
    split
    · rename_i db hupsert
      exact .upserted call cb i db hcall hphase hupsert rfl
    · exact .ended call rfl

/-- An off-session charge is seen here only where it makes a new intent. -/
theorem stepCharge_step (l : Label) (now : Int) (call : ChargeCall) (hcall : w.charges.find? call.id = some call)
    (answer : ChargeAnswer) : CheckoutStep w l (w.stepCharge now call answer) := by
  unfold stepCharge
  split
  · obtain ⟨attempts, h⟩ :=
      decideCharge_eq now w.nextToken call.bookingId call.amountMinor call.currency w.db
    simp only [h]
    split
    · exact .frame rfl
    · exact .frame rfl
  · rename_i claim hphase
    simp only [requestCharge]
    cases answer with
    | conflict message => exact .frame rfl
    | unavailable message => exact .frame rfl
    | processed result lastPaymentError delivered =>
      simp only
      split
      · split
        · exact .frame rfl
        · exact .frame rfl
      · rename_i hkey
        exact .charged call claim result.status hcall hphase hkey rfl
  · rename_i claim status details _
    obtain ⟨bookings, attempts, h⟩ :=
      recordChargeOutcome_eq now call.bookingId claim.attemptId claim.claimToken status details w.db
    rw [h]
    exact .frame rfl

/-- The legacy handler marks the payments row paid, and leaves no pending booking behind:
either it was none, or it is confirmed in the same transaction. -/
theorem paymentSucceeded_step (now : Int) (i : PaymentIntent)
    (hfind : w.stripe.intents.find? i.id = some i) (hsucceeded : i.status = .succeeded) :
    CheckoutStep w (.paymentSucceeded now i.id) (w.paymentSucceeded now i) := by
  cases hflow : i.flow with
  | destinationChargeLegacy =>
    rcases w.paymentSucceeded_legacy hflow with h | ⟨db, hok, h⟩
    · rw [h]
      exact .frame rfl
    · rw [h]
      rcases onLegacyPaymentSucceeded_eq_ok hok with rfl | ⟨hnot, rfl⟩ | ⟨booking, pc, -, -, -, rfl⟩
      · exact .frame rfl
      · refine .paid i hfind hsucceeded hflow (fun hst => ?_) rfl ⟨now, rfl⟩
        obtain ⟨r, hr, hst⟩ := Db.statusOf_eq_some.mp hst
        have hr' : w.db.bookings.find? i.bookingId = some r := hr
        rw [hr'] at hnot
        simp [hst] at hnot
      · refine .paid i hfind hsucceeded hflow (fun hst => ?_) rfl ⟨now, rfl⟩
        have hconfirmed : (confirmPendingBooking (updatePaymentByIntent w.db i.id fun p =>
            { p with status := .paid }) i.bookingId).statusOf i.bookingId = some .pendingPayment := hst
        rw [statusOf_confirmPendingBooking] at hconfirmed
        split at hconfirmed
        · cases hconfirmed
        · rename_i hnot
          exact hnot ⟨rfl, hconfirmed⟩
  | separateChargesDelayedV1 =>
    obtain ⟨bookings, attempts, hdb⟩ := onNewFlowPaymentSucceeded_eq now (i.object none) w.db
    rw [w.paymentSucceeded_delayed hflow]
    cases h : onNewFlowPaymentSucceeded now (i.object none) w.db with
    | mk input db =>
      rw [h] at hdb
      have hdb' : db = { w.db with bookings := bookings, paymentAttempts := attempts } := hdb
      cases input with
      | none =>
        rw [hdb']
        exact .frame rfl
      | some input =>
        rw [hdb']
        exact .frame rfl

theorem refundEvent_step (l : Label) (s : StripeRefund) (hfind : w.stripe.refunds.find? s.id = some s) :
    CheckoutStep w l { w with db := (Tx.refundEvent s.object).exec w.db } := by
  simp only [Tx.exec]
  cases h : onRefundEvent s.object w.db with
  | error e => exact .frame rfl
  | ok r =>
    simp only [Lib.commit]
    rcases onRefundEvent_eq_ok h with hsame | ⟨payment, marked, -, hpayment, hmarked, hrecord⟩
    · rw [hsame]
      exact .frame rfl
    · have hframe := recordRefund_frame hrecord
      rw [(markRefundSucceeded_eq_some hmarked).2] at hframe
      refine .refunded payment.bookingId _ (fun hst => ?_) (by rw [hframe]; rfl)
        ⟨s, payment, hfind, hpayment, rfl⟩
      rw [hframe] at hst
      have hset : (Db.setBookingStatus _ payment.bookingId _).statusOf payment.bookingId =
        some .pendingPayment := hst
      rw [Db.statusOf_setBookingStatus, if_pos rfl] at hset
      obtain ⟨st, -, hset⟩ := Option.map_eq_some_iff.mp hset
      split at hset
      · cases hset
      · cases hset

/-! ## Every step -/

/-- Every step of the system is a step of the checkout machine. -/
theorem checkoutStep (l : Label) : CheckoutStep w l (w.step l) := by
  cases l with
  | transaction t =>
    obtain ⟨db, h, hdb⟩ := w.transaction_eq t
    rw [h]
    exact .frame (view_of_sameMoney hdb rfl)
  | cancelBookingAndRefund now input =>
    obtain ⟨db, refundCalls, h, hdb⟩ := w.cancelBookingAndRefund_eq now input
    show CheckoutStep w _ (w.cancelBookingAndRefund now input)
    rw [h]
    exact .frame (view_of_sameMoney hdb rfl)
  | sweepCharge now b =>
    show CheckoutStep w _ (w.sweepCharge now b)
    rcases w.sweepCharge_eq now b with h | ⟨amountMinor, currency, h⟩
    · rw [h]
      exact .frame rfl
    · rw [h]
      exact .frame rfl
  | setupIntentSucceeded b paymentMethodId =>
    obtain ⟨db, handlers, h, hdb⟩ := w.setupIntentSucceeded_eq b paymentMethodId
    show CheckoutStep w _ (w.setupIntentSucceeded b paymentMethodId)
    rw [h]
    exact .frame (view_of_sameMoney hdb rfl)
  | setupIntentContinue now b =>
    obtain ⟨db, handlers, hdb, h | ⟨amountMinor, currency, h⟩⟩ := w.setupIntentContinue_eq now b
    · show CheckoutStep w _ (w.setupIntentContinue now b)
      rw [h]
      exact .frame (view_of_sameMoney hdb rfl)
    · show CheckoutStep w _ (w.setupIntentContinue now b)
      rw [h]
      exact .frame rfl
  | charge now call answer =>
    simp only [step]
    split
    · rename_i c hc
      exact w.stepCharge_step _ now c (by rw [show c.id = call from Table.key_of_find? hc]; exact hc) answer
    · exact .frame rfl
  | chargeCrash call =>
    simp only [step]
    split
    · exact .frame rfl
    · exact .frame rfl
  | startCheckout b => exact w.startCheckout_step _ b
  | checkout call answer =>
    simp only [step]
    split
    · rename_i c hc
      obtain rfl : c.id = call := Table.key_of_find? hc
      exact w.stepCheckout_step c hc answer
    · exact .frame rfl
  | checkoutCrash call =>
    simp only [step]
    split
    · rename_i c _
      exact .ended c rfl
    · exact .frame rfl
  | moveIntent intentId status =>
    rcases w.moveIntent_eq intentId status with h | ⟨i, hfind, hmove, h⟩
    · rw [h]
      exact .frame rfl
    · rw [h]
      exact .moved i status hfind hmove rfl
  | paymentSucceeded now intentId =>
    simp only [step]
    split
    · rename_i i hi
      split
      · rename_i hsucceeded
        obtain rfl : i.id = intentId := Table.key_of_find? hi
        exact w.paymentSucceeded_step now i hi hsucceeded
      · exact .frame rfl
    · exact .frame rfl
  | insertEntitlement handler =>
    simp only [step]
    split
    · rename_i h _
      show CheckoutStep w _ (w.insertEntitlement h)
      unfold insertEntitlement
      simp only [Tx.exec]
      rw [createEntitlement_frame]
      exact .frame rfl
    · exact .frame rfl
  | entitlementCrash handler => exact .frame rfl
  | paymentFailed intentId lastPaymentError =>
    simp only [step]
    split
    · rename_i i _
      split
      · exact .failed (i.object lastPaymentError) rfl
      · exact .frame rfl
    · exact .frame rfl
  | disputeCreated dispute =>
    simp only [step]
    split
    · split
      · obtain ⟨bookings, payouts, disputes, h⟩ := onDisputeCreated_eq dispute w.db
        simp only [Tx.exec]
        rw [h]
        exact .frame rfl
      · exact .frame rfl
    · exact .frame rfl
  | adminRefund b amountMinor reason =>
    obtain ⟨refundCalls, h⟩ := w.adminRefund_eq b amountMinor reason
    show CheckoutStep w _ (w.adminRefund b amountMinor reason)
    rw [h]
    exact .frame rfl
  | refund call answer =>
    simp only [step]
    split
    · rename_i c _
      obtain ⟨refunds, stripeRefunds, refundCalls, h⟩ := w.stepRefund_eq c answer
      rw [h]
      exact .frame rfl
    · exact .frame rfl
  | refundCrash call =>
    simp only [step]
    split
    · exact .frame rfl
    · exact .frame rfl
  | settleRefund stripeRefundId status => exact .frame rfl
  | refundEvent stripeRefundId =>
    simp only [step]
    split
    · rename_i r hr
      obtain rfl : r.id = stripeRefundId := Table.key_of_find? hr
      exact w.refundEvent_step _ r hr
    · exact .frame rfl
  | refundFailed stripeRefundId =>
    simp only [step]
    split
    · split
      · exact .frame rfl
      · exact .frame rfl
    · exact .frame rfl
  | startDiscard b guestId => exact .frame rfl
  | discard now call =>
    obtain ⟨db, discards, h, hdb⟩ := w.discard_eq now call
    rw [h]
    exact .frame (view_of_sameMoney hdb rfl)
  | discardCrash call =>
    obtain ⟨discards, h⟩ := w.discardCrash_eq call
    rw [h]
    exact .frame rfl

end World

end HostPlatform
