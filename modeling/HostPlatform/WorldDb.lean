-- SUMMARY: Every step of the system runs at most one transaction, so what holds of all transactions holds of all runs.
import HostPlatform.World
import HostPlatform.BookingUpdates

/-!
# The database under the system

A step of the system moves a call along, moves an object at Stripe, or runs a
transaction; never two. `Runs` lists the transactions a label may run with what the
call has read by then, and `runStep` proves the list complete. A fact about every
transaction carries over to every run of the system through it.
-/

namespace HostPlatform

open Lib.Transition

namespace World

/-- The database after a step is the one before, or what one transaction made of it. -/
def DbStep (w w' : World) : Prop := w'.db = w.db ∨ ∃ t : Tx, w'.db = t.exec w.db

/-- The transactions a label may run in the state `w`. -/
inductive Runs (w : World) : Label → Tx → Prop
  | transaction (t : Tx) (halone : t.standsAlone) : Runs w (.transaction t) t
  | cancelBooking (now : Int) (input : CancelBookingInput) :
      Runs w (.cancelBookingAndRefund now input) (.cancelBooking now input)
  | savePaymentMethod (b : BookingId) (paymentMethodId : Nat) :
      Runs w (.setupIntentSucceeded b paymentMethodId) (.savePaymentMethod b paymentMethodId)
  | clearHold (now : Int) (b : BookingId) (booking : Booking) (hhandler : b ∈ w.setupHandlers)
      (hbooking : w.db.bookings.find? b = some booking)
      (hdeferred : ¬ (decideChargeTiming booking.checkIn now).immediate) :
      Runs w (.setupIntentContinue now b) (.clearHold b)
  | decideCharge (now : Int) (call : ChargeCall) (answer : ChargeAnswer)
      (hcall : w.charges.find? call.id = some call) (hphase : call.phase = .deciding) :
      Runs w (.charge now call.id answer)
        (.decideCharge now w.nextToken call.bookingId call.amountMinor call.currency)
  | recordChargeOutcome (now : Int) (call : ChargeCall) (answer : ChargeAnswer) (claim : ChargeClaim)
      (status : AttemptStatus) (details : OutcomeDetails) (hcall : w.charges.find? call.id = some call)
      (hphase : call.phase = .recording claim status details) :
      Runs w (.charge now call.id answer)
        (.recordChargeOutcome now call.bookingId claim.attemptId claim.claimToken status details)
  | upsertPayment (call : CheckoutCall) (answer : CreateAnswer) (booking : CheckoutBooking)
      (intentId : PaymentIntentId) (hcall : w.checkouts.find? call.id = some call)
      (hphase : call.phase = .upserting booking intentId) :
      Runs w (.checkout call.id answer)
        (.upsertPayment call.bookingId intentId booking.guestTotalMinor booking.currency)
  | paymentSucceeded (now : Int) (i : PaymentIntent) (hfind : w.stripe.intents.find? i.id = some i)
      (hsucceeded : i.status = .succeeded) :
      Runs w (.paymentSucceeded now i.id) (.paymentSucceeded now (i.object none))
  | createEntitlement (handler : EntitlementHandler)
      (hhandler : w.entitlementHandlers.find? handler.id = some handler) :
      Runs w (.insertEntitlement handler.id) (.createEntitlement handler.input)
  | paymentFailed (i : PaymentIntent) (lastPaymentError : Option PaymentError)
      (hfind : w.stripe.intents.find? i.id = some i) (hdeclined : i.everDeclined) :
      Runs w (.paymentFailed i.id lastPaymentError) (.paymentFailed (i.object lastPaymentError))
  | disputeCreated (dispute : DisputeObject) : Runs w (.disputeCreated dispute) (.disputeCreated dispute)
  | insertRefund (call : RefundCall) (answer : CreateAnswer)
      (hcall : w.refundCalls.find? call.id = some call) (hphase : call.phase = .inserting) :
      Runs w (.refund call.id answer) (.insertRefund call.input)
  | linkRefund (call : RefundCall) (answer : CreateAnswer) (refundRowId : RefundId)
      (stripeRefundId : StripeRefundId) (hcall : w.refundCalls.find? call.id = some call)
      (hphase : call.phase = .linking refundRowId stripeRefundId) :
      Runs w (.refund call.id answer) (.linkRefund refundRowId stripeRefundId)
  | refundEvent (r : StripeRefund) (hfind : w.stripe.refunds.find? r.id = some r) :
      Runs w (.refundEvent r.id) (.refundEvent r.object)
  | refundFailed (r : StripeRefund) (hfind : w.stripe.refunds.find? r.id = some r)
      (hfailed : r.status = .failed) : Runs w (.refundFailed r.id) (.refundFailed r.object)
  | discardUnpaidBooking (now : Int) (call : DiscardCall) (booking : DiscardableBooking)
      (hcall : w.discards.find? call.id = some call) (hphase : call.phase = .writing booking) :
      Runs w (.discard now call.id) (.discardUnpaidBooking now booking)

/-- The step to `w'` runs no transaction, or one its label may run. The source
commits nothing between two transactions, so there is no third case. -/
def RunStep (w : World) (l : Label) (w' : World) : Prop :=
  w'.db = w.db ∨ ∃ t, Runs w l t ∧ w'.db = t.exec w.db

variable {w w' : World} {l : Label}

theorem RunStep.same (h : w'.db = w.db) : RunStep w l w' := Or.inl h

theorem RunStep.tx {t : Tx} (ht : Runs w l t) (h : w'.db = t.exec w.db) : RunStep w l w' :=
  Or.inr ⟨t, ht, h⟩

variable (w)

/-! ## Each function of the system -/

theorem runStep_cancelBookingAndRefund (now : Int) (input : CancelBookingInput) :
    RunStep w (.cancelBookingAndRefund now input) (w.cancelBookingAndRefund now input) := by
  unfold cancelBookingAndRefund
  split
  · exact .same rfl
  · rename_i cancelled db h
    -- with a refund to start or without, the cancellation is committed
    have hexec : db = (Tx.cancelBooking now input).exec w.db := by
      show db = Lib.commit w.db (cancelBooking now input w.db)
      rw [h]
      rfl
    split
    · exact .tx (.cancelBooking now input) hexec
    · exact .tx (.cancelBooking now input) hexec

theorem runStep_sweepCharge (now : Int) (b : BookingId) : RunStep w l (w.sweepCharge now b) := by
  unfold sweepCharge
  split
  · split
    · exact .same rfl
    · exact .same rfl
  · exact .same rfl

theorem runStep_setupIntentSucceeded (b : BookingId) (paymentMethodId : Nat) :
    RunStep w (.setupIntentSucceeded b paymentMethodId) (w.setupIntentSucceeded b paymentMethodId) := by
  unfold setupIntentSucceeded
  split
  · split
    · exact .tx (.savePaymentMethod b paymentMethodId) rfl
    · exact .same rfl
  · exact .same rfl

theorem runStep_setupIntentContinue (now : Int) (b : BookingId) :
    RunStep w (.setupIntentContinue now b) (w.setupIntentContinue now b) := by
  unfold setupIntentContinue
  split
  · rename_i hhandler
    simp only
    split
    · rename_i booking bpc hbooking hbpc
      split
      · exact .same rfl
      · rename_i hdeferred
        exact .tx (.clearHold now b booking hhandler hbooking hdeferred) rfl
    · exact .same rfl
  · exact .same rfl

/-- A charge call writes when it decides and when it records; the request between
them touches Stripe alone. -/
theorem runStep_stepCharge (now : Int) (call : ChargeCall) (hcall : w.charges.find? call.id = some call)
    (answer : ChargeAnswer) : RunStep w (.charge now call.id answer) (w.stepCharge now call answer) := by
  unfold stepCharge
  split
  · rename_i hphase
    simp only
    split
    · exact .tx (.decideCharge now call answer hcall hphase) rfl
    · exact .tx (.decideCharge now call answer hcall hphase) rfl
  · exact .same rfl
  · rename_i claim status details hphase
    exact .tx (.recordChargeOutcome now call answer claim status details hcall hphase) rfl

theorem runStep_startCheckout (b : BookingId) : RunStep w l (w.startCheckout b) := by
  unfold startCheckout
  split
  · exact .same rfl
  · exact .same rfl

/-- Of a checkout call only the last statement writes: the upsert of the payments row. -/
theorem runStep_stepCheckout (call : CheckoutCall) (hcall : w.checkouts.find? call.id = some call)
    (answer : CreateAnswer) : RunStep w (.checkout call.id answer) (w.stepCheckout call answer) := by
  unfold stepCheckout
  split
  · split
    · exact .same rfl
    · exact .same rfl
  · split
    · exact .same rfl
    · exact .same rfl
    · exact .same rfl
  · split
    · exact .same rfl
    · split
      · exact .same rfl
      · exact .same rfl
  · split
    · exact .same rfl
    · split
      · exact .same rfl
      · simp only
        split
        · exact .same rfl
        · exact .same rfl
  · rename_i booking intentId hphase
    split
    · rename_i db h
      refine .tx (.upsertPayment call answer booking intentId hcall hphase) ?_
      show db = Lib.commit w.db
        (upsertPayment call.bookingId intentId booking.guestTotalMinor booking.currency w.db)
      rw [h]
      rfl
    · exact .same rfl

theorem runStep_adminRefund (b : BookingId) (amountMinor : Int) (reason : RefundReason) :
    RunStep w l (w.adminRefund b amountMinor reason) := by
  unfold adminRefund
  split
  · split
    · exact .same rfl
    · exact .same rfl
  · exact .same rfl

/-- A refund call writes its row before the request, and the link to Stripe's refund after it. -/
theorem runStep_stepRefund (call : RefundCall) (hcall : w.refundCalls.find? call.id = some call)
    (answer : CreateAnswer) : RunStep w (.refund call.id answer) (w.stepRefund call answer) := by
  unfold stepRefund
  split
  · split
    · exact .same rfl
    · exact .same rfl
  · split
    · exact .same rfl
    · exact .same rfl
  · rename_i hphase
    exact .tx (.insertRefund call answer hcall hphase) rfl
  · split
    · exact .same rfl
    · split
      · exact .same rfl
      · exact .same rfl
  · split
    · simp only
      split
      · exact .same rfl
      · exact .same rfl
    · exact .same rfl
  · rename_i refundRowId stripeRefundId hphase
    exact .tx (.linkRefund call answer refundRowId stripeRefundId hcall hphase) rfl

theorem runStep_stepDiscard (now : Int) (call : DiscardCall) (hcall : w.discards.find? call.id = some call) :
    RunStep w (.discard now call.id) (w.stepDiscard now call) := by
  unfold stepDiscard
  split
  · split
    · exact .same rfl
    · exact .same rfl
  · rename_i booking hphase
    exact .tx (.discardUnpaidBooking now call booking hcall hphase) rfl

/-- The webhook's transaction is the same whether an entitlement is left to insert or not. -/
theorem runStep_paymentSucceeded (now : Int) (i : PaymentIntent)
    (hfind : w.stripe.intents.find? i.id = some i) (hsucceeded : i.status = .succeeded) :
    RunStep w (.paymentSucceeded now i.id) (w.paymentSucceeded now i) := by
  have hexec : ∀ {input db}, onPaymentSucceeded now (i.object none) w.db = .ok (input, db) →
      db = (Tx.paymentSucceeded now (i.object none)).exec w.db := by
    intro input db h
    show db = Lib.commit w.db (onPaymentSucceeded now (i.object none) w.db)
    rw [h]
    rfl
  have hruns := Runs.paymentSucceeded now i hfind hsucceeded
  unfold paymentSucceeded
  split
  · exact .same rfl
  · rename_i db h
    exact .tx hruns (hexec h)
  · rename_i input db h
    exact .tx hruns (hexec h)

/-! ## The step -/

theorem runStep (l : Label) : RunStep w l (w.step l) := by
  cases l with
  | transaction t =>
    simp only [step]
    split
    · rename_i halone
      exact .tx (.transaction t halone) rfl
    · exact .same rfl
  | cancelBookingAndRefund now input => exact w.runStep_cancelBookingAndRefund now input
  | sweepCharge now b => exact w.runStep_sweepCharge now b
  | setupIntentSucceeded b paymentMethodId => exact w.runStep_setupIntentSucceeded b paymentMethodId
  | setupIntentContinue now b => exact w.runStep_setupIntentContinue now b
  | charge now call answer =>
    simp only [step]
    split
    · rename_i c hc
      obtain rfl : c.id = call := Lib.Table.key_of_find? hc
      exact w.runStep_stepCharge now c hc answer
    · exact .same rfl
  | chargeCrash call =>
    simp only [step]
    split
    · exact .same rfl
    · exact .same rfl
  | startCheckout b => exact w.runStep_startCheckout b
  | checkout call answer =>
    simp only [step]
    split
    · rename_i c hc
      obtain rfl : c.id = call := Lib.Table.key_of_find? hc
      exact w.runStep_stepCheckout c hc answer
    · exact .same rfl
  | checkoutCrash call =>
    simp only [step]
    split
    · exact .same rfl
    · exact .same rfl
  | moveIntent intentId status => exact .same rfl
  | paymentSucceeded now intentId =>
    simp only [step]
    split
    · rename_i i hi
      obtain rfl : i.id = intentId := Lib.Table.key_of_find? hi
      split
      · rename_i hsucceeded
        exact w.runStep_paymentSucceeded now i hi hsucceeded
      · exact .same rfl
    · exact .same rfl
  | insertEntitlement handler =>
    simp only [step]
    split
    · rename_i h hh
      obtain rfl : h.id = handler := Lib.Table.key_of_find? hh
      exact .tx (.createEntitlement h hh) rfl
    · exact .same rfl
  | entitlementCrash handler => exact .same rfl
  | paymentFailed intentId lastPaymentError =>
    simp only [step]
    split
    · rename_i i hi
      obtain rfl : i.id = intentId := Lib.Table.key_of_find? hi
      split
      · rename_i hdeclined
        exact .tx (.paymentFailed i lastPaymentError hi hdeclined) rfl
      · exact .same rfl
    · exact .same rfl
  | disputeCreated dispute =>
    simp only [step]
    split
    · split
      · exact .tx (.disputeCreated dispute) rfl
      · exact .same rfl
    · exact .same rfl
  | adminRefund b amountMinor reason => exact w.runStep_adminRefund b amountMinor reason
  | refund call answer =>
    simp only [step]
    split
    · rename_i c hc
      obtain rfl : c.id = call := Lib.Table.key_of_find? hc
      exact w.runStep_stepRefund c hc answer
    · exact .same rfl
  | refundCrash call =>
    simp only [step]
    split
    · exact .same rfl
    · exact .same rfl
  | settleRefund stripeRefundId status => exact .same rfl
  | refundEvent stripeRefundId =>
    simp only [step]
    split
    · rename_i r hr
      obtain rfl : r.id = stripeRefundId := Lib.Table.key_of_find? hr
      exact .tx (.refundEvent r hr) rfl
    · exact .same rfl
  | refundFailed stripeRefundId =>
    simp only [step]
    split
    · rename_i r hr
      obtain rfl : r.id = stripeRefundId := Lib.Table.key_of_find? hr
      split
      · rename_i hfailed
        exact .tx (.refundFailed r hr hfailed) rfl
      · exact .same rfl
    · exact .same rfl
  | startDiscard b guestId => exact .same rfl
  | discard now call =>
    simp only [step]
    split
    · rename_i c hc
      obtain rfl : c.id = call := Lib.Table.key_of_find? hc
      exact w.runStep_stepDiscard now c hc
    · exact .same rfl
  | discardCrash call =>
    simp only [step]
    split
    · exact .same rfl
    · exact .same rfl

theorem dbStep (l : Label) : DbStep w (w.step l) := by
  cases w.runStep l with
  | inl h => exact .inl h
  | inr h =>
    obtain ⟨t, -, ht⟩ := h
    exact .inr ⟨t, ht⟩

/-! ## Rows and runs -/

/-- A booking row stays over a step, updated by the transaction the step runs. -/
theorem row_updated (l : Label) {b : BookingId} {r : Booking} (hr : w.db.bookings.find? b = some r) :
    ∃ r', (w.step l).db.bookings.find? b = some r' ∧ (r' = r ∨ ∃ t, Runs w l t ∧ r.Updated t r') := by
  rcases w.runStep l with h | ⟨t, hruns, h⟩
  · rw [h]
    exact ⟨r, hr, .inl rfl⟩
  · rw [h]
    obtain ⟨r', hr', hupdated⟩ := t.row_updated w.db hr
    exact ⟨r', hr', .inr ⟨t, hruns, hupdated⟩⟩

/-- A booking row after a step is an old row, or a new booking. -/
theorem row_cases (l : Label) {b : BookingId} {r' : Booking}
    (hr' : (w.step l).db.bookings.find? b = some r') :
    (∃ r, w.db.bookings.find? b = some r ∧ (r' = r ∨ ∃ t, Runs w l t ∧ r.Updated t r')) ∨
      w.db.bookings.find? b = none ∧ ∃ now isDelayedFlow input hostId rules,
        l = .transaction (.createBooking now isDelayedFlow input) ∧
        r' = bookingRow now isDelayedFlow input hostId rules b := by
  rcases w.runStep l with h | ⟨t, hruns, h⟩
  · rw [h] at hr'
    exact .inl ⟨r', hr', .inl rfl⟩
  · rw [h] at hr'
    rcases t.row_cases w.db hr' with ⟨r, hr, hupdated⟩ | ⟨hnone, now, isDelayedFlow, input, hostId, rules, rfl, hrow⟩
    · exact .inl ⟨r, hr, .inr ⟨t, hruns, hupdated⟩⟩
    -- only a transaction of its own creates a booking
    · cases hruns with
      | transaction t halone => exact .inr ⟨hnone, now, isDelayedFlow, input, hostId, rules, rfl, hrow⟩

/-- The databases of a run of the system are those of a run of transactions. -/
theorem run_db (w : World) (ls : List Label) :
    ∃ txs, (run World.step w ls).db = run Tx.exec w.db txs := by
  have hsim : ∀ (w : World) (l : Label),
      ∃ txs : List Tx, (∀ t ∈ txs, True) ∧ (World.step w l).db = run Tx.exec w.db txs := by
    intro w l
    rcases w.dbStep l with h | ⟨t, h⟩
    · exact ⟨[], by simp, h⟩
    · exact ⟨[t], by simp, h⟩
  obtain ⟨txs, -, h⟩ := run_refines World.db (fun _ => True) hsim w ls
  exact ⟨txs, h⟩

end World

end HostPlatform
