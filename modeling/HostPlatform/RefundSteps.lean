-- SUMMARY: Refunds as a machine of their own: what any step of the system can do to refunds rows, refund calls and Stripe's refunds.
import HostPlatform.WorldFrames

/-!
# The refund machine

A refund lives in the refunds rows, the refund calls under way, the refunds at Stripe
and the ledger. `RefundStep` says once all that a step of the system can do to them.
A call that crashes leaves its row pending, so a later call of the same refund meets it
again as `unresolved` and looks for it at Stripe before it asks once more.
-/

namespace HostPlatform

open Lib (Table)

/-- The part of the system a refund lives in. -/
structure Refunds where
  rows : Table Refund
  calls : Table RefundCall
  stripeRefunds : Table StripeRefund
  ledgerEntries : List LedgerEntry

def World.refundView (w : World) : Refunds :=
  { rows := w.db.refunds
    calls := w.refundCalls
    stripeRefunds := w.stripe.refunds
    ledgerEntries := w.db.ledgerEntries }

namespace Refunds

def setPhase (v : Refunds) (call : RefundCall) (phase : RefundPhase) : Refunds :=
  { v with calls := v.calls.modify call.id (fun c => { c with phase := phase }) (RefundCall.key_setPhase phase) }

def endCall (v : Refunds) (call : RefundCall) : Refunds :=
  { v with calls := v.calls.deleteWhere fun c => c.id == call.id }

/-- A new refund at Stripe, under a fresh id. -/
def create (v : Refunds) (paymentIntent : PaymentIntentId) (input : InitiateRefundInput)
    (refundRowId : RefundId) : Refunds :=
  { v with
    stripeRefunds := v.stripeRefunds.insertNew (World.stripeRefund paymentIntent input refundRowId)
      (World.key_stripeRefund paymentIntent input refundRowId) }

end Refunds

/-! ## Steps -/

/-- What the callers of `initiateRefund` give it: a payment of the booking and a
positive amount. -/
structure RefundRequested (w : World) (input : InitiateRefundInput) : Prop where
  payment : ∃ p, w.db.payments.find? input.bookingId = some p
  paymentId : input.paymentId = input.bookingId
  amount : 0 < input.amountMinor

/-- A refund call reads the database or Stripe and moves on. -/
inductive RefundReads (w : World) (call : RefundCall) : RefundPhase → Prop
  | checked (paidMinor : Int) (hphase : call.phase = .checking paidMinor)
      (hfits : call.input.amountMinor ≤ paidMinor - w.db.alreadyRefunded call.input.bookingId) :
      RefundReads w call .selecting
  | unresolved (refundRowId : RefundId) (hphase : call.phase = .selecting)
      (hread : unresolvedAttempt call.input w.db = some refundRowId) :
      RefundReads w call (.listing refundRowId)
  | resolved (hphase : call.phase = .selecting) (hread : unresolvedAttempt call.input w.db = none) :
      RefundReads w call .inserting
  | reconciled (refundRowId : RefundId) (r : StripeRefund) (hphase : call.phase = .listing refundRowId)
      (hfind : w.stripe.refunds.find? r.id = some r) (hrow : r.hostRefundId = refundRowId) :
      RefundReads w call (.linking refundRowId r.id)
  | unlisted (refundRowId : RefundId) (hphase : call.phase = .listing refundRowId) :
      RefundReads w call (.creating refundRowId)
  | replayed (refundRowId : RefundId) (r : StripeRefund) (hphase : call.phase = .creating refundRowId)
      (hfind : w.stripe.refunds.find? r.id = some r) (hrow : r.hostRefundId = refundRowId) :
      RefundReads w call (.linking refundRowId r.id)

/-- What a step can do to the refunds of the system. -/
inductive RefundStep (w : World) (l : Label) (w' : World) : Prop
  | frame (h : w'.refundView = w.refundView)
  | started (input : InitiateRefundInput) (phase : RefundPhase) (hinput : RefundRequested w input)
      (hphase : phase = .selecting ∨ ∃ paidMinor, phase = .checking paidMinor)
      (h : w'.refundView = { w.refundView with
        calls := w.refundView.calls.insertNew fun id => ⟨id, input, phase⟩ })
      (hpaid : ∃ p, w.db.payments.find? input.bookingId = some p ∧ p.status.received ∧
        input.providerPaymentIntentId = p.providerPaymentIntentId)
  | ended (call : RefundCall) (h : w'.refundView = w.refundView.endCall call)
  | read (call : RefundCall) (phase : RefundPhase) (hcall : w.refundCalls.find? call.id = some call)
      (hread : RefundReads w call phase) (h : w'.refundView = w.refundView.setPhase call phase)
  | inserted (call : RefundCall) (hlabel : ∃ answer, l = .refund call.id answer)
      (hcall : w.refundCalls.find? call.id = some call) (hphase : call.phase = .inserting)
      (h : w'.refundView = { w.refundView.setPhase call (.creating w.db.refunds.freshKey) with
        rows := (insertRefund call.input w.db).2.refunds })
  | created (call : RefundCall) (refundRowId : RefundId) (paymentIntent : PaymentIntentId)
      (hcall : w.refundCalls.find? call.id = some call) (hphase : call.phase = .creating refundRowId)
      (hkey : w.stripe.refundByKey refundRowId = none)
      (h : w'.refundView = (w.refundView.setPhase call (.linking refundRowId w.stripe.refunds.freshKey)).create
        paymentIntent call.input refundRowId)
      (hintent : call.input.providerPaymentIntentId = some paymentIntent)
  | createdLost (call : RefundCall) (refundRowId : RefundId) (paymentIntent : PaymentIntentId)
      (hcall : w.refundCalls.find? call.id = some call) (hphase : call.phase = .creating refundRowId)
      (hkey : w.stripe.refundByKey refundRowId = none)
      (h : w'.refundView = (w.refundView.endCall call).create paymentIntent call.input refundRowId)
      (hintent : call.input.providerPaymentIntentId = some paymentIntent)
  | linked (call : RefundCall) (refundRowId : RefundId) (stripeRefundId : StripeRefundId)
      (hlabel : ∃ answer, l = .refund call.id answer) (hcall : w.refundCalls.find? call.id = some call)
      (hphase : call.phase = .linking refundRowId stripeRefundId)
      (h : w'.refundView = { w.refundView.endCall call with
        rows := (linkRefund refundRowId stripeRefundId w.db).refunds })
  | settled (stripeRefundId : StripeRefundId) (status : StripeRefundStatus)
      (h : w'.refundView = { w.refundView with
        stripeRefunds := (w.stripe.settleRefund stripeRefundId status).refunds })
  | confirmed (r : StripeRefund) (payment : Payment) (marked : Db) (hlabel : l = .refundEvent r.id)
      (hfind : w.stripe.refunds.find? r.id = some r) (hsucceeded : r.status = .succeeded)
      (hpayment : w.db.paymentByIntent r.paymentIntent = some payment)
      (hmarked : markRefundSucceeded r.id w.db = some marked)
      (hrecord : recordRefund r.object payment marked = .ok ((), w'.db))
      (h : w'.refundView = { w.refundView with
        rows := marked.refunds
        ledgerEntries := w'.db.ledgerEntries })
  | failed (r : StripeRefund) (hfind : w.stripe.refunds.find? r.id = some r)
      (hfailed : r.status = .failed)
      (h : w'.refundView = { w.refundView with rows := (onRefundFailed r.object w.db).refunds })
  | paid (booking : Booking) (pc : PriceComponents) (i : PaymentIntent)
      (h : w'.refundView = { w.refundView with
        ledgerEntries := w.db.ledgerEntries ++ paymentLedgerRows booking pc i.id })
      (hlabel : ∃ now, l = .paymentSucceeded now i.id) (hfind : w.stripe.intents.find? i.id = some i)
      (hflow : i.flow = .destinationChargeLegacy) (hbooking : booking.id = i.bookingId)

/-! ## Each function of the system -/

namespace World

variable (w : World)

theorem refundView_of_sameMoney {w w' : World} {db : Db} (hdb : w.db.SameMoney db)
    (h : w'.refundView = { w.refundView with rows := db.refunds, ledgerEntries := db.ledgerEntries }) :
    w'.refundView = w.refundView := by
  rw [h, hdb.refunds, hdb.ledgerEntries]
  rfl

/-- A cancellation asks for a refund only of a payment it has received. -/
theorem cancellationRefund_requested {input : CancelBookingInput} {refundableMinor : Int}
    {currency : String} {refund : InitiateRefundInput}
    (h : cancellationRefund input refundableMinor currency (w.db.payments.find? input.bookingId) =
      some refund) : RefundRequested w refund ∧ ∃ p, w.db.payments.find? refund.bookingId = some p ∧
      p.status.received ∧ refund.providerPaymentIntentId = p.providerPaymentIntentId := by
  cases hp : w.db.payments.find? input.bookingId with
  | none =>
    rw [hp] at h
    cases h
  | some p =>
    simp only [hp, cancellationRefund] at h
    split at h
    · rename_i hpaid
      cases h
      exact ⟨⟨⟨p, hp⟩, Table.key_of_find? hp, hpaid.1⟩, p, hp, by rw [hpaid.2]; rfl, rfl⟩
    · cases h

theorem cancelBookingAndRefund_refundStep (l : Label) (now : Int) (input : CancelBookingInput) :
    RefundStep w l (w.cancelBookingAndRefund now input) := by
  unfold cancelBookingAndRefund
  split
  · exact .frame rfl
  · rename_i cancelled db h
    have hdb := cancelBooking_sameMoney h
    split
    · exact .frame (refundView_of_sameMoney hdb rfl)
    · rename_i refund hrefund
      obtain ⟨b, bpc, -, -, -, hinit, -⟩ := cancelBooking_eq_ok h
      obtain ⟨hrequested, hpaid⟩ := w.cancellationRefund_requested (hinit ▸ hrefund)
      refine .started refund .selecting hrequested (.inl rfl) ?_ hpaid
      unfold refundView
      rw [← hdb.refunds, ← hdb.ledgerEntries]

/-- The route reads a paid row before it checks the amount against what is left. -/
theorem adminRefund_refundStep (l : Label) (b : BookingId) (amountMinor : Int) (reason : RefundReason) :
    RefundStep w l (w.adminRefund b amountMinor reason) := by
  unfold adminRefund
  split
  · rename_i p hp
    obtain ⟨hfind, hstatus⟩ := Option.filter_eq_some_iff.mp hp
    have hreceived : p.status.received := by
      cases of_decide_eq_true hstatus with
      | inl hpaid => rw [hpaid]; rfl
      | inr hpartly => rw [hpartly]; rfl
    split
    · rename_i hamount
      refine .started _ (.checking p.amountMinor) ⟨⟨p, hfind⟩, Table.key_of_find? hfind, hamount.1⟩
        (.inr ⟨_, rfl⟩) rfl ⟨p, hfind, hreceived, rfl⟩
    · exact .frame rfl
  · exact .frame rfl

theorem find?_of_refundByKey {s : Stripe} {refundRowId : RefundId} {r : StripeRefund}
    (h : s.refundByKey refundRowId = some r) :
    s.refunds.find? r.id = some r ∧ r.hostRefundId = refundRowId :=
  ⟨Table.find?_of_mem (List.mem_of_find?_eq_some h), by simpa using List.find?_some h⟩

theorem find?_of_listedRefund {s : Stripe} {paymentIntent : PaymentIntentId} {refundRowId : RefundId}
    {r : StripeRefund} (h : s.listedRefund paymentIntent refundRowId = some r) :
    s.refunds.find? r.id = some r ∧ r.hostRefundId = refundRowId := by
  have hmem := List.mem_of_mem_take (List.mem_of_find?_eq_some h)
  exact ⟨Table.find?_of_mem (List.mem_of_mem_filter (List.mem_reverse.mp hmem)),
    by simpa using List.find?_some h⟩

/-- A request under a row's key names the refund of that key, fails, or creates one. -/
theorem requestRefund_cases (s : Stripe) (paymentIntent : PaymentIntentId) (input : InitiateRefundInput)
    (refundRowId : RefundId) :
    (∃ r, s.refundByKey refundRowId = some r ∧
      (requestRefund s paymentIntent input refundRowId = (some r.id, s) ∨
        requestRefund s paymentIntent input refundRowId = (none, s))) ∨
    (s.refundByKey refundRowId = none ∧ requestRefund s paymentIntent input refundRowId =
      (some s.refunds.freshKey,
        { s with refunds := s.refunds.insertNew (stripeRefund paymentIntent input refundRowId) })) := by
  unfold requestRefund
  cases hkey : s.refundByKey refundRowId with
  | some r =>
    refine .inl ⟨r, rfl, ?_⟩
    simp only
    split
    · exact .inl rfl
    · exact .inr rfl
  | none => exact .inr ⟨rfl, rfl⟩

/-- One case for each phase of `initiateRefund`. -/
theorem stepRefund_refundStep (call : RefundCall) (hcall : w.refundCalls.find? call.id = some call)
    (answer : CreateAnswer) : RefundStep w (.refund call.id answer) (w.stepRefund call answer) := by
  unfold stepRefund
  split
  · rename_i paidMinor hphase
    split
    · rename_i hfits
      exact .read call _ hcall (.checked paidMinor hphase hfits) rfl
    · exact .ended call rfl
  · rename_i hphase
    split
    · rename_i refundRowId hread
      exact .read call _ hcall (.unresolved refundRowId hphase hread) rfl
    · rename_i hread
      exact .read call _ hcall (.resolved hphase hread) rfl
  · rename_i hphase
    exact .inserted call ⟨answer, rfl⟩ hcall hphase rfl
  · rename_i refundRowId hphase
    split
    · exact .ended call rfl
    · split
      · rename_i r hlisted
        obtain ⟨hfind, hrow⟩ := find?_of_listedRefund hlisted
        exact .read call _ hcall (.reconciled refundRowId r hphase hfind hrow) rfl
      · exact .read call _ hcall (.unlisted refundRowId hphase) rfl
  · rename_i refundRowId hphase
    split
    · rename_i paymentIntent delivered hintent
      rcases requestRefund_cases w.stripe paymentIntent call.input refundRowId with
        ⟨r, hkey, h | h⟩ | ⟨hkey, h⟩
      · obtain ⟨hfind, hrow⟩ := find?_of_refundByKey hkey
        simp only [h]
        cases delivered with
        | true => exact .read call _ hcall (.replayed refundRowId r hphase hfind hrow) rfl
        | false => exact .ended call rfl
      · simp only [h]
        exact .ended call rfl
      · simp only [h]
        cases delivered with
        | true => exact .created call refundRowId paymentIntent hcall hphase hkey rfl hintent
        | false => exact .createdLost call refundRowId paymentIntent hcall hphase hkey rfl hintent
    · exact .ended call rfl
  · rename_i refundRowId stripeRefundId hphase
    exact .linked call refundRowId stripeRefundId ⟨answer, rfl⟩ hcall hphase rfl

theorem refundEvent_refundStep (r : StripeRefund) (hfind : w.stripe.refunds.find? r.id = some r) :
    RefundStep w (.refundEvent r.id) { w with db := (Tx.refundEvent r.object).exec w.db } := by
  simp only [Tx.exec]
  cases h : onRefundEvent r.object w.db with
  | error e => exact .frame rfl
  | ok p =>
    simp only [Lib.commit]
    rcases onRefundEvent_eq_ok h with hsame | ⟨payment, marked, hsucceeded, hpayment, hmarked, hrecord⟩
    · rw [hsame]
      exact .frame rfl
    · refine .confirmed r payment marked rfl hfind hsucceeded hpayment hmarked hrecord ?_
      rw [recordRefund_frame hrecord]
      rfl

/-! ## Every step -/

/-- Every step of the system is a step of the refund machine. -/
theorem refundStep (l : Label) : RefundStep w l (w.step l) := by
  cases l with
  | transaction t =>
    obtain ⟨db, h, hdb⟩ := w.transaction_eq t
    rw [h]
    exact .frame (refundView_of_sameMoney hdb rfl)
  | cancelBookingAndRefund now input => exact w.cancelBookingAndRefund_refundStep _ now input
  | sweepCharge now b =>
    show RefundStep w _ (w.sweepCharge now b)
    rcases w.sweepCharge_eq now b with h | ⟨amountMinor, currency, h⟩
    · rw [h]
      exact .frame rfl
    · rw [h]
      exact .frame rfl
  | setupIntentSucceeded b paymentMethodId =>
    obtain ⟨db, handlers, h, hdb⟩ := w.setupIntentSucceeded_eq b paymentMethodId
    show RefundStep w _ (w.setupIntentSucceeded b paymentMethodId)
    rw [h]
    exact .frame (refundView_of_sameMoney hdb rfl)
  | setupIntentContinue now b =>
    obtain ⟨db, handlers, hdb, h | ⟨amountMinor, currency, h⟩⟩ := w.setupIntentContinue_eq now b
    · show RefundStep w _ (w.setupIntentContinue now b)
      rw [h]
      exact .frame (refundView_of_sameMoney hdb rfl)
    · show RefundStep w _ (w.setupIntentContinue now b)
      rw [h]
      exact .frame rfl
  | charge now call answer =>
    simp only [step]
    split
    · rename_i c _
      obtain ⟨bookings, attempts, intents, charges, nextToken, h⟩ := w.stepCharge_eq now c answer
      rw [h]
      exact .frame rfl
    · exact .frame rfl
  | chargeCrash call =>
    simp only [step]
    split
    · exact .frame rfl
    · exact .frame rfl
  | startCheckout b =>
    obtain ⟨checkouts, h⟩ := w.startCheckout_eq b
    show RefundStep w _ (w.startCheckout b)
    rw [h]
    exact .frame rfl
  | checkout call answer =>
    simp only [step]
    split
    · rename_i c _
      obtain ⟨payments, intents, sharedSecrets, checkouts, h⟩ := w.stepCheckout_eq c answer
      rw [h]
      exact .frame rfl
    · exact .frame rfl
  | checkoutCrash call =>
    simp only [step]
    split
    · exact .frame rfl
    · exact .frame rfl
  | moveIntent intentId status =>
    rcases w.moveIntent_eq intentId status with h | ⟨i, -, -, h⟩
    · rw [h]
      exact .frame rfl
    · rw [h]
      exact .frame rfl
  | paymentSucceeded now intentId =>
    simp only [step]
    split
    · rename_i i hi
      obtain rfl : i.id = intentId := Table.key_of_find? hi
      split
      · cases hflow : i.flow with
        | destinationChargeLegacy =>
          rcases w.paymentSucceeded_legacy hflow with h | ⟨db, hok, h⟩
          · rw [h]
            exact .frame rfl
          · rw [h]
            rcases onLegacyPaymentSucceeded_eq_ok hok with rfl | ⟨-, rfl⟩ | ⟨booking, pc, hbooking, -, -, rfl⟩
            · exact .frame rfl
            · exact .frame rfl
            · exact .paid booking pc i rfl ⟨now, rfl⟩ hi hflow (Table.key_of_find? hbooking)
        | separateChargesDelayedV1 =>
          obtain ⟨bookings, attempts, hdb⟩ := onNewFlowPaymentSucceeded_eq now (i.object none) w.db
          rw [w.paymentSucceeded_delayed hflow]
          cases hnew : onNewFlowPaymentSucceeded now (i.object none) w.db with
          | mk input db =>
            rw [hnew] at hdb
            have hdb' : db = { w.db with bookings := bookings, paymentAttempts := attempts } := hdb
            cases input with
            | none =>
              rw [hdb']
              exact .frame rfl
            | some input =>
              rw [hdb']
              exact .frame rfl
      · exact .frame rfl
    · exact .frame rfl
  | insertEntitlement handler =>
    simp only [step]
    split
    · rename_i h _
      show RefundStep w _ (w.insertEntitlement h)
      unfold insertEntitlement
      simp only [Tx.exec]
      rw [createEntitlement_frame]
      exact .frame rfl
    · exact .frame rfl
  | entitlementCrash handler => exact .frame rfl
  | paymentFailed intentId lastPaymentError =>
    simp only [step]
    split
    · split
      · exact .frame rfl
      · exact .frame rfl
    · exact .frame rfl
  | disputeCreated dispute =>
    simp only [step]
    split
    · split
      · obtain ⟨bookings, payouts, disputes, h⟩ := onDisputeCreated_eq dispute w.db
        simp only [Tx.exec]
        rw [h]
        exact .frame rfl
      · exact .frame rfl
    · exact .frame rfl
  | adminRefund b amountMinor reason => exact w.adminRefund_refundStep _ b amountMinor reason
  | refund call answer =>
    simp only [step]
    split
    · rename_i c hc
      obtain rfl : c.id = call := Table.key_of_find? hc
      exact w.stepRefund_refundStep c hc answer
    · exact .frame rfl
  | refundCrash call =>
    simp only [step]
    split
    · rename_i c _
      exact .ended c rfl
    · exact .frame rfl
  | settleRefund stripeRefundId status => exact .settled stripeRefundId status rfl
  | refundEvent stripeRefundId =>
    simp only [step]
    split
    · rename_i r hr
      obtain rfl : r.id = stripeRefundId := Table.key_of_find? hr
      exact w.refundEvent_refundStep r hr
    · exact .frame rfl
  | refundFailed stripeRefundId =>
    simp only [step]
    split
    · rename_i r hr
      obtain rfl : r.id = stripeRefundId := Table.key_of_find? hr
      split
      · rename_i hfailed
        exact .failed r hr hfailed rfl
      · exact .frame rfl
    · exact .frame rfl
  | startDiscard b guestId => exact .frame rfl
  | discard now call =>
    obtain ⟨db, discards, h, hdb⟩ := w.discard_eq now call
    rw [h]
    exact .frame (refundView_of_sameMoney hdb rfl)
  | discardCrash call =>
    obtain ⟨discards, h⟩ := w.discardCrash_eq call
    rw [h]
    exact .frame rfl

end World

end HostPlatform
