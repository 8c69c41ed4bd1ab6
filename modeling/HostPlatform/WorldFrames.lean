-- SUMMARY: Which parts of the system each step leaves alone.
import HostPlatform.TransactionFrames
import HostPlatform.WorldDb

/-!
# Frames

What a step leaves alone, function by function: each lemma names the fields of the
system that the function may change and leaves their new values open. The machines
of the checkout, the charge and the refund are read off these.
-/

namespace HostPlatform

open Lib (Table)

/-- The transactions that are requests of their own do not touch the money tables. -/
theorem Tx.standsAlone_sameMoney {t : Tx} (h : t.standsAlone) (db : Db) :
    db.SameMoney (t.exec db) := by
  cases t with
  | createBooking now isDelayedFlow input => exact createBooking_sameMoney ..
  | releaseExpiredHold now b => exact releaseExpiredHold_sameMoney ..
  | completeStays today => exact ⟨rfl, rfl, rfl, rfl, rfl, rfl⟩
  | mutateAvailability today p checkIn checkOut action => exact ⟨rfl, rfl, rfl, rfl, rfl, rfl⟩
  | reconcileCalendar today p => exact ⟨rfl, rfl, rfl, rfl, rfl, rfl⟩
  | createCalendarFeed p name feedUrl => exact (Tx.calendarFrame rfl db).sameMoney
  | setCalendarFeedActive today p feedId isActive => exact (Tx.calendarFrame rfl db).sameMoney
  | deleteCalendarFeed today p feedId => exact (Tx.calendarFrame rfl db).sameMoney
  | replaceFeedEvents today p feedId events etag lastModified => exact (Tx.calendarFrame rfl db).sameMoney
  | markSyncRunning p feedId => exact ⟨rfl, rfl, rfl, rfl, rfl, rfl⟩
  | recordNotModified p feedId etag lastModified => exact ⟨rfl, rfl, rfl, rfl, rfl, rfl⟩
  | recordSyncError p feedId message => exact ⟨rfl, rfl, rfl, rfl, rfl, rfl⟩
  | saveSetupIntent b customerId setupIntentId => exact ⟨rfl, rfl, rfl, rfl, rfl, rfl⟩
  | configureTaxTreatment b taxTreatment => exact ⟨rfl, rfl, rfl, rfl, rfl, rfl⟩
  | _ => cases h

namespace World

variable (w : World)

/-! ## Every step -/

theorem bookingsGrow_step (l : Label) : w.db.BookingsGrow (w.step l).db := by
  rcases w.dbStep l with h | ⟨t, h⟩
  · rw [h]
    exact .refl _
  · rw [h]
    exact t.bookingsGrow w.db

theorem priced_step (hpriced : w.db.Priced) (l : Label) : (w.step l).db.Priced := by
  rcases w.dbStep l with h | ⟨t, h⟩
  · rw [h]
    exact hpriced
  · rw [h]
    exact hpriced.exec t

/-! ## Each function of the system -/

theorem transaction_eq (t : Tx) : ∃ db, w.step (.transaction t) = { w with db := db } ∧
    w.db.SameMoney db := by
  simp only [step]
  split
  · rename_i h
    exact ⟨_, rfl, Tx.standsAlone_sameMoney h w.db⟩
  · exact ⟨_, rfl, .refl w.db⟩

theorem cancelBookingAndRefund_eq (now : Int) (input : CancelBookingInput) :
    ∃ db refundCalls, w.cancelBookingAndRefund now input =
      { w with db := db, refundCalls := refundCalls } ∧ w.db.SameMoney db := by
  unfold cancelBookingAndRefund
  split
  · exact ⟨_, _, rfl, .refl w.db⟩
  · rename_i cancelled db h
    split
    · exact ⟨_, _, rfl, cancelBooking_sameMoney h⟩
    · exact ⟨_, _, rfl, cancelBooking_sameMoney h⟩

theorem sweepCharge_eq (now : Int) (b : BookingId) :
    w.sweepCharge now b = w ∨ ∃ amountMinor currency,
      w.sweepCharge now b = w.addCharge b amountMinor currency := by
  unfold sweepCharge
  split
  · split
    · exact .inr ⟨_, _, rfl⟩
    · exact .inl rfl
  · exact .inl rfl

theorem setupIntentSucceeded_eq (b : BookingId) (paymentMethodId : Nat) :
    ∃ db setupHandlers, w.setupIntentSucceeded b paymentMethodId =
      { w with db := db, setupHandlers := setupHandlers } ∧ w.db.SameMoney db := by
  unfold setupIntentSucceeded
  split
  · split
    · exact ⟨_, _, rfl, savePaymentMethod_sameMoney b paymentMethodId w.db⟩
    · exact ⟨_, _, rfl, .refl w.db⟩
  · exact ⟨_, _, rfl, .refl w.db⟩

/-- The handler that goes on after saving a card starts a charge, or only clears the hold. -/
theorem setupIntentContinue_eq (now : Int) (b : BookingId) :
    ∃ db setupHandlers, w.db.SameMoney db ∧
      (w.setupIntentContinue now b = { w with db := db, setupHandlers := setupHandlers } ∨
        ∃ amountMinor currency, w.setupIntentContinue now b =
          { w.addCharge b amountMinor currency with setupHandlers := setupHandlers }) := by
  unfold setupIntentContinue
  split
  · simp only
    split
    · split
      · exact ⟨w.db, _, .refl w.db, .inr ⟨_, _, rfl⟩⟩
      · exact ⟨(Tx.clearHold b).exec w.db, _, ⟨rfl, rfl, rfl, rfl, rfl, rfl⟩, .inl rfl⟩
    · exact ⟨_, _, .refl w.db, .inl rfl⟩
  · exact ⟨_, _, .refl w.db, .inl rfl⟩

/-! ## Charges and checkouts -/

/-- A charge request changes nothing at Stripe but PaymentIntents. -/
theorem requestCharge_frame (s : Stripe) (params : IntentParams) (key : AttemptKey)
    (answer : ChargeAnswer) :
    (requestCharge s params key answer).2 =
      { s with intents := (requestCharge s params key answer).2.intents } := by
  unfold requestCharge
  split
  · rfl
  · rfl
  · simp only
    split
    · split
      · rfl
      · rfl
    · rfl

theorem stepCharge_eq (now : Int) (call : ChargeCall) (answer : ChargeAnswer) :
    ∃ bookings attempts intents charges nextToken, w.stepCharge now call answer =
      { w with
        db := { w.db with bookings := bookings, paymentAttempts := attempts }
        stripe := { w.stripe with intents := intents }
        charges := charges
        nextToken := nextToken } := by
  unfold stepCharge
  split
  · obtain ⟨attempts, h⟩ :=
      decideCharge_eq now w.nextToken call.bookingId call.amountMinor call.currency w.db
    simp only [h]
    split
    · exact ⟨_, _, _, _, _, rfl⟩
    · exact ⟨_, _, _, _, _, rfl⟩
  · simp only
    rw [requestCharge_frame]
    exact ⟨_, _, _, _, _, rfl⟩
  · rename_i claim status details _
    obtain ⟨bookings, attempts, h⟩ :=
      recordChargeOutcome_eq now call.bookingId claim.attemptId claim.claimToken status details w.db
    rw [h]
    exact ⟨_, _, _, _, _, rfl⟩

theorem startCheckout_eq (b : BookingId) :
    ∃ checkouts, w.startCheckout b = { w with checkouts := checkouts } := by
  unfold startCheckout
  split
  · exact ⟨_, rfl⟩
  · exact ⟨_, rfl⟩

/-- A checkout call may create an intent, share its secret and write the payments row. -/
theorem stepCheckout_eq (call : CheckoutCall) (answer : CreateAnswer) :
    ∃ payments intents sharedSecrets checkouts, w.stepCheckout call answer =
      { w with
        db := { w.db with payments := payments }
        stripe := { w.stripe with intents := intents, sharedSecrets := sharedSecrets }
        checkouts := checkouts } := by
  unfold stepCheckout
  split
  · split
    · exact ⟨_, _, _, _, rfl⟩
    · exact ⟨_, _, _, _, rfl⟩
  · split
    · exact ⟨_, _, _, _, rfl⟩
    · exact ⟨_, _, _, _, rfl⟩
    · exact ⟨_, _, _, _, rfl⟩
  · split
    · exact ⟨_, _, _, _, rfl⟩
    · split
      · exact ⟨_, _, _, _, rfl⟩
      · exact ⟨_, _, _, _, rfl⟩
  · split
    · exact ⟨_, _, _, _, rfl⟩
    · split
      · exact ⟨_, _, _, _, rfl⟩
      · simp only
        split
        · exact ⟨_, _, _, _, rfl⟩
        · exact ⟨_, _, _, _, rfl⟩
  · split
    · rename_i hupsert
      obtain ⟨-, -, -, -, -, -, hframe⟩ := upsertPayment_eq_ok hupsert
      rw [hframe]
      exact ⟨_, _, _, _, rfl⟩
    · exact ⟨_, _, _, _, rfl⟩

/-- Stripe leaves a PaymentIntent alone, or moves it the way it may. -/
theorem moveIntent_eq (intentId : PaymentIntentId) (status : IntentStatus) :
    w.step (.moveIntent intentId status) = w ∨ ∃ i, w.stripe.intents.find? i.id = some i ∧
      Stripe.mayMove (w.stripe.sharedSecrets.contains i.id) i.status status ∧
      w.step (.moveIntent intentId status) =
        { w with stripe := { w.stripe with intents := PaymentIntents.move w.stripe.intents i.id status } } := by
  simp only [step, Stripe.moveIntent]
  split
  · exact .inl rfl
  · rename_i i hfind
    obtain rfl : i.id = intentId := Table.key_of_find? hfind
    split
    · rename_i hmove
      exact .inr ⟨i, hfind, hmove, rfl⟩
    · exact .inl rfl

/-! ## Succeeded payments -/

/-- A succeeded payment of the legacy flow commits with its acknowledgement, or not at all. -/
theorem paymentSucceeded_legacy {now : Int} {i : PaymentIntent}
    (hflow : i.flow = .destinationChargeLegacy) :
    w.paymentSucceeded now i = w ∨ ∃ db, onLegacyPaymentSucceeded now i.bookingId i.id w.db = .ok ((), db) ∧
      w.paymentSucceeded now i = { w with db := db, acknowledged := i.id :: w.acknowledged } := by
  have hnew : (i.object none).paymentFlowVersion ≠ some .separateChargesDelayedV1 := by
    rw [Ne, PaymentIntent.object_paymentFlowVersion, hflow]
    decide
  unfold paymentSucceeded onPaymentSucceeded
  simp only [PaymentIntent.object_bookingId, PaymentIntent.object_id, if_neg hnew]
  cases h : onLegacyPaymentSucceeded now i.bookingId i.id w.db with
  | error e => exact .inl rfl
  | ok r => exact .inr ⟨r.2, rfl, rfl⟩

/-- A succeeded payment of the delayed flow leaves an entitlement to insert, or is done. -/
theorem paymentSucceeded_delayed {now : Int} {i : PaymentIntent}
    (hflow : i.flow = .separateChargesDelayedV1) :
    w.paymentSucceeded now i =
      match onNewFlowPaymentSucceeded now (i.object none) w.db with
      | (none, db) => { w with db := db, acknowledged := i.id :: w.acknowledged }
      | (some input, db) =>
        { w with
          db := db
          entitlementHandlers := w.entitlementHandlers.insertNew fun id => ⟨id, i.id, input⟩ } := by
  have hnew := (i.object_paymentFlowVersion none).mpr hflow
  unfold paymentSucceeded onPaymentSucceeded
  simp only [PaymentIntent.object_bookingId, if_pos hnew]
  cases h : onNewFlowPaymentSucceeded now (i.object none) w.db with
  | mk input db =>
    cases input with
    | none => rfl
    | some input => rfl

/-! ## Refunds -/

theorem adminRefund_eq (b : BookingId) (amountMinor : Int) (reason : RefundReason) :
    ∃ refundCalls, w.adminRefund b amountMinor reason = { w with refundCalls := refundCalls } := by
  unfold adminRefund
  split
  · split
    · exact ⟨_, rfl⟩
    · exact ⟨_, rfl⟩
  · exact ⟨_, rfl⟩

/-- A refund request changes nothing at Stripe but refunds. -/
theorem requestRefund_frame (s : Stripe) (paymentIntent : PaymentIntentId) (input : InitiateRefundInput)
    (refundRowId : RefundId) :
    (requestRefund s paymentIntent input refundRowId).2 =
      { s with refunds := (requestRefund s paymentIntent input refundRowId).2.refunds } := by
  unfold requestRefund
  split
  · split
    · rfl
    · rfl
  · rfl

theorem stepRefund_eq (call : RefundCall) (answer : CreateAnswer) :
    ∃ refunds stripeRefunds refundCalls, w.stepRefund call answer =
      { w with
        db := { w.db with refunds := refunds }
        stripe := { w.stripe with refunds := stripeRefunds }
        refundCalls := refundCalls } := by
  unfold stepRefund
  split
  · split
    · exact ⟨_, _, _, rfl⟩
    · exact ⟨_, _, _, rfl⟩
  · split
    · exact ⟨_, _, _, rfl⟩
    · exact ⟨_, _, _, rfl⟩
  · exact ⟨_, _, _, rfl⟩
  · split
    · exact ⟨_, _, _, rfl⟩
    · split
      · exact ⟨_, _, _, rfl⟩
      · exact ⟨_, _, _, rfl⟩
  · split
    · simp only
      rw [requestRefund_frame]
      split
      · exact ⟨_, _, _, rfl⟩
      · exact ⟨_, _, _, rfl⟩
    · exact ⟨_, _, _, rfl⟩
  · exact ⟨_, _, _, rfl⟩

/-! ## Discards -/

theorem stepDiscard_eq (now : Int) (call : DiscardCall) :
    ∃ db discards, w.stepDiscard now call = { w with db := db, discards := discards } ∧ w.db.SameMoney db := by
  unfold stepDiscard
  split
  · split
    · exact ⟨_, _, rfl, .refl w.db⟩
    · exact ⟨_, _, rfl, .refl w.db⟩
  · exact ⟨_, _, rfl, discardUnpaidBooking_sameMoney now _ w.db⟩

theorem discard_eq (now : Int) (call : Nat) :
    ∃ db discards, w.step (.discard now call) = { w with db := db, discards := discards } ∧
      w.db.SameMoney db := by
  simp only [step]
  split
  · exact w.stepDiscard_eq now _
  · exact ⟨_, _, rfl, .refl w.db⟩

theorem discardCrash_eq (call : Nat) :
    ∃ discards, w.step (.discardCrash call) = { w with discards := discards } := by
  simp only [step]
  split
  · exact ⟨_, rfl⟩
  · exact ⟨_, rfl⟩

end World

end HostPlatform
