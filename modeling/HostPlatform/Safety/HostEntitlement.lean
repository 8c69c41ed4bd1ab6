-- SUMMARY: When a paid delayed-flow booking ends up with exactly one host entitlement.
import HostPlatform.ChargeLinks

/-!
# Host entitlements

A delivery of `payment_intent.succeeded` confirms the booking in one transaction and
inserts the host's entitlement in another. A delivery that finds the booking
`confirmed` does neither, so the entitlement depends on the delivery that
confirmed getting through; and one that finds it neither `pending_payment` nor
`confirmed` inserts the entitlement without having confirmed anything.
-/

namespace HostPlatform

open Lib (Table)
open Lib.Transition

/-! ## The steps that matter -/

/-- What a step can do to entitlements, their handlers and the acknowledgements. -/
inductive EntitlementStep (w : World) (l : Label) (w' : World) : Prop
  | frame (hentitlements : w'.db.entitlements = w.db.entitlements)
      (hhandlers : w'.entitlementHandlers = w.entitlementHandlers)
      (hacknowledged : w'.acknowledged = w.acknowledged)
  | delivered (now : Int) (i : PaymentIntent) (hlabel : l = .paymentSucceeded now i.id)
      (hfind : w.stripe.intents.find? i.id = some i) (hsucceeded : i.status = .succeeded)
      (h : w' = w.paymentSucceeded now i)
  | inserted (h : EntitlementHandler) (hfind : w.entitlementHandlers.find? h.id = some h)
      (hstep : w' = w.insertEntitlement h)
  | crashed (handler : Nat) (hstep : w' = { w with
      entitlementHandlers := w.entitlementHandlers.deleteWhere fun h => h.id == handler })

namespace World

variable (w : World)

theorem entitlementStep_of_sameMoney {w w' : World} {l : Label} {db : Db} (hdb : w.db.SameMoney db)
    (h : w'.db = db) (hhandlers : w'.entitlementHandlers = w.entitlementHandlers)
    (hacknowledged : w'.acknowledged = w.acknowledged) : EntitlementStep w l w' :=
  .frame (by rw [h, hdb.entitlements]) hhandlers hacknowledged

theorem entitlementStep (l : Label) : EntitlementStep w l (w.step l) := by
  cases l with
  | transaction t =>
    obtain ⟨db, h, hdb⟩ := w.transaction_eq t
    rw [h]
    exact entitlementStep_of_sameMoney hdb rfl rfl rfl
  | cancelBookingAndRefund now input =>
    obtain ⟨db, refundCalls, h, hdb⟩ := w.cancelBookingAndRefund_eq now input
    show EntitlementStep w _ (w.cancelBookingAndRefund now input)
    rw [h]
    exact entitlementStep_of_sameMoney hdb rfl rfl rfl
  | sweepCharge now b =>
    show EntitlementStep w _ (w.sweepCharge now b)
    rcases w.sweepCharge_eq now b with h | ⟨amountMinor, currency, h⟩
    · rw [h]
      exact .frame rfl rfl rfl
    · rw [h]
      exact .frame rfl rfl rfl
  | setupIntentSucceeded b paymentMethodId =>
    obtain ⟨db, handlers, h, hdb⟩ := w.setupIntentSucceeded_eq b paymentMethodId
    show EntitlementStep w _ (w.setupIntentSucceeded b paymentMethodId)
    rw [h]
    exact entitlementStep_of_sameMoney hdb rfl rfl rfl
  | setupIntentContinue now b =>
    obtain ⟨db, handlers, hdb, h | ⟨amountMinor, currency, h⟩⟩ := w.setupIntentContinue_eq now b
    · show EntitlementStep w _ (w.setupIntentContinue now b)
      rw [h]
      exact entitlementStep_of_sameMoney hdb rfl rfl rfl
    · show EntitlementStep w _ (w.setupIntentContinue now b)
      rw [h]
      exact .frame rfl rfl rfl
  | charge now call answer =>
    simp only [step]
    split
    · rename_i c _
      obtain ⟨bookings, attempts, intents, charges, nextToken, h⟩ := w.stepCharge_eq now c answer
      rw [h]
      exact .frame rfl rfl rfl
    · exact .frame rfl rfl rfl
  | chargeCrash call =>
    simp only [step]
    split
    · exact .frame rfl rfl rfl
    · exact .frame rfl rfl rfl
  | startCheckout b =>
    obtain ⟨checkouts, h⟩ := w.startCheckout_eq b
    show EntitlementStep w _ (w.startCheckout b)
    rw [h]
    exact .frame rfl rfl rfl
  | checkout call answer =>
    simp only [step]
    split
    · rename_i c _
      obtain ⟨payments, intents, sharedSecrets, checkouts, h⟩ := w.stepCheckout_eq c answer
      rw [h]
      exact .frame rfl rfl rfl
    · exact .frame rfl rfl rfl
  | checkoutCrash call =>
    simp only [step]
    split
    · exact .frame rfl rfl rfl
    · exact .frame rfl rfl rfl
  | moveIntent intentId status => exact .frame rfl rfl rfl
  | paymentSucceeded now intentId =>
    simp only [step]
    split
    · rename_i i hi
      obtain rfl : i.id = intentId := Table.key_of_find? hi
      split
      · rename_i hsucceeded
        exact .delivered now i rfl hi hsucceeded rfl
      · exact .frame rfl rfl rfl
    · exact .frame rfl rfl rfl
  | insertEntitlement handler =>
    simp only [step]
    split
    · rename_i h hh
      obtain rfl : h.id = handler := Table.key_of_find? hh
      exact .inserted h hh rfl
    · exact .frame rfl rfl rfl
  | entitlementCrash handler => exact .crashed handler rfl
  | paymentFailed intentId lastPaymentError =>
    simp only [step]
    split
    · split
      · exact .frame rfl rfl rfl
      · exact .frame rfl rfl rfl
    · exact .frame rfl rfl rfl
  | disputeCreated dispute =>
    simp only [step]
    split
    · split
      · obtain ⟨bookings, payouts, disputes, h⟩ := onDisputeCreated_eq dispute w.db
        simp only [Tx.exec]
        rw [h]
        exact .frame rfl rfl rfl
      · exact .frame rfl rfl rfl
    · exact .frame rfl rfl rfl
  | adminRefund b amountMinor reason =>
    obtain ⟨refundCalls, h⟩ := w.adminRefund_eq b amountMinor reason
    show EntitlementStep w _ (w.adminRefund b amountMinor reason)
    rw [h]
    exact .frame rfl rfl rfl
  | refund call answer =>
    simp only [step]
    split
    · rename_i c _
      obtain ⟨refunds, stripeRefunds, refundCalls, h⟩ := w.stepRefund_eq c answer
      rw [h]
      exact .frame rfl rfl rfl
    · exact .frame rfl rfl rfl
  | refundCrash call =>
    simp only [step]
    split
    · exact .frame rfl rfl rfl
    · exact .frame rfl rfl rfl
  | settleRefund stripeRefundId status => exact .frame rfl rfl rfl
  | refundEvent stripeRefundId =>
    simp only [step]
    split
    · rename_i r _
      obtain ⟨bookings, payments, refunds, payouts, ledgerEntries, h⟩ := onRefundEvent_eq r.object w.db
      rw [h]
      exact .frame rfl rfl rfl
    · exact .frame rfl rfl rfl
  | refundFailed stripeRefundId =>
    simp only [step]
    split
    · split
      · exact .frame rfl rfl rfl
      · exact .frame rfl rfl rfl
    · exact .frame rfl rfl rfl
  | startDiscard b guestId => exact .frame rfl rfl rfl
  | discard now call =>
    obtain ⟨db, discards, h, hdb⟩ := w.discard_eq now call
    rw [h]
    exact entitlementStep_of_sameMoney hdb rfl rfl rfl
  | discardCrash call =>
    obtain ⟨discards, h⟩ := w.discardCrash_eq call
    rw [h]
    exact .frame rfl rfl rfl

end World

/-! ## One delivery -/

/-- The step is a delivery that moves booking `b` from `pending_payment` to `confirmed`. -/
def Confirms (w : World) (l : Label) (b : BookingId) : Prop :=
  (∃ now i, l = .paymentSucceeded now i) ∧ w.db.statusOf b = some .pendingPayment ∧
    (w.step l).db.statusOf b = some .confirmed

/-- The booking was moved to `confirmed` by a payment in the course of the run. -/
def ConfirmedByPayment (w : World) (ls : List Label) (b : BookingId) : Prop :=
  Did World.step Confirms w ls b

/-- The booking has an entitlement row. -/
def World.entitled (w : World) (b : BookingId) : Prop := ∃ e, w.db.entitlements.find? b = some e

/-- A delivery for a delayed-flow intent finds its booking waiting for payment, or
confirmed by an earlier delivery: then with its entitlement, or no longer `confirmed`. -/
def DeliveredInOrder (w : World) (C : BookingId → Prop) (l : Label) : Prop :=
  ∀ now i r, l = .paymentSucceeded now i → w.stripe.intents.find? i = some r →
    r.status = .succeeded → r.flow = .separateChargesDelayedV1 →
    w.db.statusOf r.bookingId = some .pendingPayment ∨
      C r.bookingId ∧ (w.entitled r.bookingId ∨ w.db.statusOf r.bookingId ≠ some .confirmed)

/-- What a delivery of a delayed-flow intent does, by the status it finds. -/
theorem World.paymentSucceeded_of_confirmed {w : World} {now : Int} {i : PaymentIntent}
    (hflow : i.flow = .separateChargesDelayedV1)
    (hst : w.db.statusOf i.bookingId = some .confirmed) :
    w.paymentSucceeded now i = { w with acknowledged := i.id :: w.acknowledged } := by
  obtain ⟨r, hr, hst⟩ := Db.statusOf_eq_some.mp hst
  rw [w.paymentSucceeded_delayed hflow]
  unfold onNewFlowPaymentSucceeded
  simp only [PaymentIntent.object_bookingId, Option.bind_some, hr, hst, if_true]

theorem World.paymentSucceeded_of_not_confirmed {w : World} {now : Int} {i : PaymentIntent}
    (hflow : i.flow = .separateChargesDelayedV1) {r : Booking} {pc : PriceComponents}
    (hr : w.db.bookings.find? i.bookingId = some r) (hst : r.status ≠ .confirmed)
    (hpc : w.db.priceComponents.find? i.bookingId = some pc) :
    w.paymentSucceeded now i =
      { w with
        db := confirmPendingBooking
          (markAttemptSucceeded w.db (i.object none).paymentAttemptId i.id) i.bookingId
        entitlementHandlers := w.entitlementHandlers.insertNew fun id =>
          ⟨id, i.id, entitlementInput now r pc⟩ } := by
  have hid : r.id = i.bookingId := Table.key_of_find? hr
  rw [w.paymentSucceeded_delayed hflow]
  unfold onNewFlowPaymentSucceeded
  simp only [PaymentIntent.object_bookingId, PaymentIntent.object_id, Option.bind_some, hr,
    if_neg hst, hid, hpc, Option.map_some]

/-! ## The invariant -/

/-- `C` are the bookings that a payment has confirmed. -/
structure EntitlementInv (w : World) (C : BookingId → Prop) : Prop where
  agree : w.FlowsAgree
  priced : w.db.Priced
  entitled : ∀ b, w.entitled b → C b
  handlers : ∀ h ∈ w.entitlementHandlers.rows, C h.input.bookingId ∧
    ∃ r, w.stripe.intents.find? h.intentId = some r ∧ r.bookingId = h.input.bookingId
  acknowledged : ∀ i ∈ w.acknowledged, ∃ r, w.stripe.intents.find? i = some r ∧
    (r.flow = .separateChargesDelayedV1 → C r.bookingId ∧ w.entitled r.bookingId)

theorem EntitlementInv.start {db : Db} (hbookings : db.bookings.rows = [])
    (hpayments : db.payments.rows = []) (hentitlements : db.entitlements.rows = []) :
    EntitlementInv (World.start db) fun _ => False where
  agree := .start hpayments
  priced := .of_no_bookings hbookings
  entitled b hb := by
    obtain ⟨e, he⟩ := hb
    have he' : db.entitlements.find? b = some e := he
    unfold Table.find? at he'
    rw [hentitlements] at he'
    cases he'
  handlers _ hh := absurd hh List.not_mem_nil
  acknowledged _ hi := absurd hi List.not_mem_nil

section

variable {w : World} {l : Label} {C : BookingId → Prop}

/-- Intents keep their booking and flow, so what was said of them stays true. -/
theorem intent_step (l : Label) {i : PaymentIntentId} {P : BookingId → PaymentFlowVersion → Prop}
    (h : ∃ r, w.stripe.intents.find? i = some r ∧ P r.bookingId r.flow) :
    ∃ r, (w.step l).stripe.intents.find? i = some r ∧ P r.bookingId r.flow := by
  obtain ⟨r, hr, hp⟩ := h
  obtain ⟨r', hr', hstays⟩ := w.intentStays l hr
  unfold PaymentIntent.bookingId PaymentIntent.flow at hp ⊢
  exact ⟨r', hr', by rw [hstays.params]; exact hp⟩

/-- The invariant over a step whose handlers and acknowledgements are the old ones
or satisfy it for a reason of their own. -/
theorem EntitlementInv.of_step (hinv : EntitlementInv w C) {C' : BookingId → Prop}
    (hC : ∀ b, C b → C' b) (hentitled : ∀ b, w.entitled b → (w.step l).entitled b)
    (hnew : ∀ b, (w.step l).entitled b → w.entitled b ∨ C' b)
    (hhandlers : ∀ h ∈ (w.step l).entitlementHandlers.rows, h ∈ w.entitlementHandlers.rows ∨
      C' h.input.bookingId ∧
        ∃ r, w.stripe.intents.find? h.intentId = some r ∧ r.bookingId = h.input.bookingId)
    (hack : ∀ i ∈ (w.step l).acknowledged, i ∈ w.acknowledged ∨
      ∃ r, w.stripe.intents.find? i = some r ∧
        (r.flow = .separateChargesDelayedV1 → C' r.bookingId ∧ (w.step l).entitled r.bookingId)) :
    EntitlementInv (w.step l) C' where
  agree := hinv.agree.step l
  priced := w.priced_step hinv.priced l
  entitled b hb := by
    rcases hnew b hb with hold | hC'
    · exact hC b (hinv.entitled b hold)
    · exact hC'
  handlers h hh := by
    rcases hhandlers h hh with hold | ⟨hC', hr⟩
    · obtain ⟨hCb, hr⟩ := hinv.handlers h hold
      exact ⟨hC _ hCb, intent_step l (P := fun b _ => b = h.input.bookingId) hr⟩
    · exact ⟨hC', intent_step l (P := fun b _ => b = h.input.bookingId) hr⟩
  acknowledged i hi := by
    refine intent_step l (P := fun b flow => flow = .separateChargesDelayedV1 →
      C' b ∧ (w.step l).entitled b) ?_
    rcases hack i hi with hold | hr
    · obtain ⟨r, hr, himp⟩ := hinv.acknowledged i hold
      exact ⟨r, hr, fun hflow => ⟨hC _ (himp hflow).1, hentitled _ (himp hflow).2⟩⟩
    · exact hr

/-- The bookings a payment has confirmed, one step later. -/
def ConfirmedWith (C : BookingId → Prop) (w : World) (l : Label) (b : BookingId) : Prop :=
  C b ∨ Confirms w l b

/-- A step that leaves the entitlements as they are. -/
theorem EntitlementInv.of_sameEntitlements (hinv : EntitlementInv w C)
    (hent : (w.step l).db.entitlements = w.db.entitlements)
    (hhandlers : ∀ h ∈ (w.step l).entitlementHandlers.rows, h ∈ w.entitlementHandlers.rows ∨
      ConfirmedWith C w l h.input.bookingId ∧
        ∃ r, w.stripe.intents.find? h.intentId = some r ∧ r.bookingId = h.input.bookingId)
    (hack : ∀ i ∈ (w.step l).acknowledged, i ∈ w.acknowledged ∨
      ∃ r, w.stripe.intents.find? i = some r ∧
        (r.flow = .separateChargesDelayedV1 → C r.bookingId ∧ w.entitled r.bookingId)) :
    EntitlementInv (w.step l) (ConfirmedWith C w l) := by
  have hsame : ∀ b, (w.step l).entitled b ↔ w.entitled b := by
    intro b
    unfold World.entitled
    rw [hent]
  refine hinv.of_step (fun b hb => .inl hb) (fun b hb => (hsame b).mpr hb) (fun b hb => .inl ((hsame b).mp hb))
    hhandlers fun j hj => ?_
  rcases hack j hj with hold | ⟨r, hr, himp⟩
  · exact .inl hold
  · refine .inr ⟨r, hr, fun hdelayed => ?_⟩
    obtain ⟨hCb, hentitled⟩ := himp hdelayed
    exact ⟨.inl hCb, (hsame _).mpr hentitled⟩

/-- The delivery of a legacy intent has nothing to do with entitlements. -/
theorem EntitlementInv.deliveredLegacy (hinv : EntitlementInv w C) {now : Int} {i : PaymentIntent}
    (hfind : w.stripe.intents.find? i.id = some i) (hflow : i.flow = .destinationChargeLegacy)
    (hstep : w.step l = w.paymentSucceeded now i) : EntitlementInv (w.step l) (ConfirmedWith C w l) := by
  rcases w.paymentSucceeded_legacy hflow with hsame | ⟨db, hok, hnew⟩
  · rw [hsame] at hstep
    refine hinv.of_sameEntitlements ?_ ?_ ?_
    · rw [hstep]
    · rw [hstep]
      exact fun h hh => .inl hh
    · rw [hstep]
      exact fun j hj => .inl hj
  · obtain ⟨bookings, payments, payouts, ledgerEntries, rfl⟩ := onLegacyPaymentSucceeded_eq hok
    rw [hnew] at hstep
    refine hinv.of_sameEntitlements ?_ ?_ ?_
    · rw [hstep]
    · rw [hstep]
      exact fun h hh => .inl hh
    · rw [hstep]
      intro j hj
      rcases List.mem_cons.mp hj with rfl | hj
      · refine .inr ⟨i, hfind, fun hdelayed => ?_⟩
        rw [hflow] at hdelayed
        cases hdelayed
      · exact .inl hj

/-- A delivery that finds its booking confirmed does nothing, so the entitlement has to be there. -/
theorem EntitlementInv.redelivered (hinv : EntitlementInv w C) {now : Int} {i : PaymentIntent}
    (hfind : w.stripe.intents.find? i.id = some i) (hflow : i.flow = .separateChargesDelayedV1)
    (hstep : w.step l = w.paymentSucceeded now i) (hconfirmed : w.db.statusOf i.bookingId = some .confirmed)
    (hready : C i.bookingId ∧ w.entitled i.bookingId) : EntitlementInv (w.step l) (ConfirmedWith C w l) := by
  rw [w.paymentSucceeded_of_confirmed hflow hconfirmed] at hstep
  refine hinv.of_sameEntitlements ?_ ?_ ?_
  · rw [hstep]
  · rw [hstep]
    exact fun h hh => .inl hh
  · intro j hj
    rw [hstep] at hj
    rcases List.mem_cons.mp hj with rfl | hj
    · exact .inr ⟨i, hfind, fun _ => hready⟩
    · exact .inl hj

/-- A delivery that confirms, or did so before, leaves an entitlement to insert. -/
theorem EntitlementInv.deliveredUnconfirmed (hinv : EntitlementInv w C) {now : Int} {i : PaymentIntent}
    (hlabel : l = .paymentSucceeded now i.id) (hfind : w.stripe.intents.find? i.id = some i)
    (hflow : i.flow = .separateChargesDelayedV1) (hstep : w.step l = w.paymentSucceeded now i) {r : Booking}
    (hr : w.db.bookings.find? i.bookingId = some r) (hst : r.status ≠ .confirmed)
    (horder : w.db.statusOf i.bookingId = some .pendingPayment ∨ C i.bookingId) :
    EntitlementInv (w.step l) (ConfirmedWith C w l) := by
  obtain ⟨pc, hpc⟩ := hinv.priced i.bookingId r hr
  rw [w.paymentSucceeded_of_not_confirmed hflow hr hst hpc] at hstep
  have hC' : ConfirmedWith C w l i.bookingId := by
    rcases horder with hpending | hCb
    · right
      refine ⟨⟨now, i.id, hlabel⟩, hpending, ?_⟩
      rw [hstep]
      show Db.statusOf (confirmPendingBooking _ i.bookingId) i.bookingId = some .confirmed
      rw [statusOf_confirmPendingBooking, markAttemptSucceeded_frame, if_pos]
      exact ⟨rfl, hpending⟩
    · exact .inl hCb
  refine hinv.of_sameEntitlements ?_ ?_ ?_
  · rw [hstep, markAttemptSucceeded_frame]
    rfl
  · intro h hh
    rw [hstep] at hh
    rcases List.mem_append.mp hh with hold | hnew
    · exact .inl hold
    · right
      rw [List.mem_singleton.mp hnew]
      have hid : r.id = i.bookingId := Table.key_of_find? hr
      refine ⟨?_, i, hfind, hid.symm⟩
      show ConfirmedWith C w l r.id
      rw [hid]
      exact hC'
  · rw [hstep]
    exact fun j hj => .inl hj

theorem EntitlementInv.delivered (hinv : EntitlementInv w C) {now : Int} {i : PaymentIntent}
    (hlabel : l = .paymentSucceeded now i.id) (hfind : w.stripe.intents.find? i.id = some i)
    (hsucceeded : i.status = .succeeded) (hstep : w.step l = w.paymentSucceeded now i)
    (hguard : DeliveredInOrder w C l) : EntitlementInv (w.step l) (ConfirmedWith C w l) := by
  cases hflow : i.flow with
  | destinationChargeLegacy => exact hinv.deliveredLegacy hfind hflow hstep
  | separateChargesDelayedV1 =>
    obtain ⟨r, hr, -⟩ := Option.map_eq_some_iff.mp (hinv.agree.intents i (Table.mem_of_find? hfind))
    have hstatus : w.db.statusOf i.bookingId = some r.status := Db.statusOf_eq_some.mpr ⟨r, hr, rfl⟩
    have horder := hguard now i.id i hlabel hfind hsucceeded hflow
    by_cases hconfirmed : r.status = .confirmed
    · rw [hconfirmed] at hstatus
      refine hinv.redelivered hfind hflow hstep hstatus ?_
      rcases horder with hpending | ⟨hCb, hentitled | hnot⟩
      · rw [hstatus] at hpending
        cases hpending
      · exact ⟨hCb, hentitled⟩
      · exact absurd hstatus hnot
    · exact hinv.deliveredUnconfirmed hlabel hfind hflow hstep hr hconfirmed (horder.imp_right And.left)

theorem EntitlementInv.step (hinv : EntitlementInv w C) (hguard : DeliveredInOrder w C l) :
    EntitlementInv (w.step l) (ConfirmedWith C w l) := by
  have hC : ∀ b, C b → ConfirmedWith C w l b := fun b hb => .inl hb
  cases w.entitlementStep l with
  | frame hentitlements hhandlers hacknowledged =>
    refine hinv.of_sameEntitlements hentitlements ?_ ?_
    · rw [hhandlers]
      exact fun h hh => .inl hh
    · rw [hacknowledged]
      exact fun i hi => .inl hi
  | delivered now i hlabel hfind hsucceeded h =>
    exact hinv.delivered hlabel hfind hsucceeded h hguard
  | inserted h hfind hstep =>
    obtain ⟨hCb, hr⟩ := hinv.handlers h (Table.mem_of_find? hfind)
    have hent : ∀ b, (w.step l).entitled b ↔ b = h.input.bookingId ∨ w.entitled b := by
      intro b
      unfold World.entitled
      rw [hstep, ← Option.isSome_iff_exists, ← Option.isSome_iff_exists]
      show ((createEntitlement h.input w.db).entitlements.find? b).isSome ↔ _
      rw [createEntitlement_isSome]
      simp
    refine hinv.of_step hC (fun b hb => (hent b).mpr (.inr hb)) ?_ ?_ ?_
    · intro b hb
      rcases (hent b).mp hb with rfl | hold
      · exact .inr (hC _ hCb)
      · exact .inl hold
    · rw [hstep]
      exact fun h' hh' => .inl (List.mem_filter.mp hh').1
    · intro i hi
      rw [hstep] at hi
      rcases List.mem_cons.mp hi with rfl | hi
      · right
        obtain ⟨r, hfindr, hrb⟩ := hr
        refine ⟨r, hfindr, fun _ => ?_⟩
        rw [hrb]
        exact ⟨hC _ hCb, (hent _).mpr (.inl rfl)⟩
      · exact .inl hi
  | crashed handler hstep =>
    refine hinv.of_sameEntitlements ?_ ?_ ?_
    · rw [hstep]
    · rw [hstep]
      exact fun h hh => .inl (List.mem_filter.mp hh).1
    · rw [hstep]
      exact fun i hi => .inl hi

end

/-! ## Whole runs -/

/-- The number of entitlement rows of the booking. -/
def Db.entitlementCount (db : Db) (b : BookingId) : Nat :=
  (db.entitlements.select fun e => e.bookingId == b).length

theorem Db.entitlementCount_eq (db : Db) (b : BookingId) :
    db.entitlementCount b = if (db.entitlements.find? b).isSome then 1 else 0 := by
  unfold Db.entitlementCount
  rw [show (db.entitlements.select fun e => e.bookingId == b) = _ from Table.select_key _ b]
  cases db.entitlements.find? b with
  | none => rfl
  | some e => rfl

/-- Every acknowledged payment of a delayed-flow booking: one entitlement if a
payment confirmed the booking, and none if not. -/
def EntitledOnce (w : World) (ls : List Label) : Prop :=
  ∀ i ∈ (run World.step w ls).acknowledged, ∀ r, (run World.step w ls).stripe.intents.find? i = some r →
    r.flow = .separateChargesDelayedV1 →
    (ConfirmedByPayment w ls r.bookingId → (run World.step w ls).db.entitlementCount r.bookingId = 1) ∧
      (¬ ConfirmedByPayment w ls r.bookingId →
        (run World.step w ls).db.entitlementCount r.bookingId = 0)

/-- From an empty database, a run whose deliveries all come in order entitles the
host exactly once. -/
theorem entitledOnce_run {db : Db} (hbookings : db.bookings.rows = [])
    (hpayments : db.payments.rows = []) (hentitlements : db.entitlements.rows = []) {ls : List Label}
    (hguard : ∀ pre l suf, ls = pre ++ l :: suf →
      DeliveredInOrder (run World.step (World.start db) pre)
        (ConfirmedByPayment (World.start db) pre) l) :
    EntitledOnce (World.start db) ls := by
  have hinv : EntitlementInv (run World.step (World.start db) ls)
      (ConfirmedByPayment (World.start db) ls) :=
    run_invariant_did (G := fun w C l => DeliveredInOrder w C l)
      (.start hbookings hpayments hentitlements) (fun _ _ _ hinv hguard => hinv.step hguard) hguard
  intro i hi r hr hflow
  obtain ⟨r', hr', himp⟩ := hinv.acknowledged i hi
  rw [hr] at hr'
  cases hr'
  obtain ⟨hconfirmed, e, he⟩ := himp hflow
  refine ⟨fun _ => ?_, fun hnot => absurd hconfirmed hnot⟩
  rw [Db.entitlementCount_eq, he]
  rfl

theorem deliveredInOrder_of_guarded {w : World} {ls : List Label}
    (h : Guarded World.step (fun w l => ∀ now i, l = .paymentSucceeded now i →
      ∀ r, w.stripe.intents.find? i = some r → w.db.statusOf r.bookingId = some .pendingPayment) w ls)
    (pre : List Label) (l : Label) (suf : List Label) (hls : ls = pre ++ l :: suf) :
    DeliveredInOrder (run World.step w pre) (ConfirmedByPayment w pre) l :=
  fun now i r hl hr _ _ => .inl (guarded_iff.mp h pre l suf hls now i hl r hr)

/-- A run in order stays so when one more step is. -/
theorem deliveredInOrder_concat {w : World} {ls : List Label} {l : Label}
    (h : ∀ pre l' suf, ls = pre ++ l' :: suf →
      DeliveredInOrder (run World.step w pre) (ConfirmedByPayment w pre) l')
    (hl : DeliveredInOrder (run World.step w ls) (ConfirmedByPayment w ls) l) (pre : List Label)
    (l' : Label) (suf : List Label) (hls : ls ++ [l] = pre ++ l' :: suf) :
    DeliveredInOrder (run World.step w pre) (ConfirmedByPayment w pre) l' := by
  rcases List.eq_nil_or_concat suf with rfl | ⟨suf', last, rfl⟩
  · obtain ⟨rfl, hlast⟩ := List.append_inj' hls rfl
    cases hlast
    exact hl
  · rw [List.concat_eq_append, ← List.cons_append, ← List.append_assoc] at hls
    exact h pre l' suf' (List.append_inj' hls rfl).1

/-- The payment is announced once, and its handler gets through. -/
def handledAtOnce : List Label :=
  chargedAtOnce ++ [.paymentSucceeded (60 * msPerDay) 1, .insertEntitlement 1]

/-- The payment is announced again afterwards. -/
def deliveredTwice : List Label := handledAtOnce ++ [.paymentSucceeded (60 * msPerDay) 1]

theorem deliveredTwice_entitledOnce : EntitledOnce (World.start sampleDb) deliveredTwice := by
  have hbooking : ∀ ls : List Label, ((run World.step (World.start sampleDb) ls).stripe.intents.find? 1).map
      PaymentIntent.bookingId = some 1 → ∀ r,
      (run World.step (World.start sampleDb) ls).stripe.intents.find? 1 = some r → r.bookingId = 1 := by
    intro ls hmap r hr
    rw [hr] at hmap
    exact Option.some.inj hmap
  refine entitledOnce_run rfl rfl rfl (deliveredInOrder_concat (deliveredInOrder_of_guarded ?_) ?_)
  · refine ⟨nofun, nofun, nofun, nofun, nofun, nofun, nofun, nofun, ?_, nofun, trivial⟩
    intro now i hl r hr
    cases hl
    rw [hbooking chargedAtOnce (by decide) r hr]
    decide
  · intro now i r hl hr _ _
    cases hl
    rw [hbooking handledAtOnce (by decide) r hr]
    exact .inr ⟨⟨chargedAtOnce, .paymentSucceeded (60 * msPerDay) 1, _, rfl, ⟨_, _, rfl⟩, by decide, by decide⟩,
      .inl ⟨_, rfl⟩⟩

/-- The process crashes after the confirming commit, and the event is delivered again. -/
def crashedInBetween : List Label :=
  chargedAtOnce ++
    [ .paymentSucceeded (60 * msPerDay) 1,
      .entitlementCrash 1,
      .paymentSucceeded (60 * msPerDay) 1 ]

/-- The second delivery is acknowledged, and the host is entitled to nothing. -/
theorem crashedInBetween_notEntitled : ¬ EntitledOnce (World.start sampleDb) crashedInBetween := by
  intro h
  have hconfirmed : ConfirmedByPayment (World.start sampleDb) crashedInBetween 1 :=
    ⟨chargedAtOnce, .paymentSucceeded (60 * msPerDay) 1, _, rfl, ⟨_, _, rfl⟩, by decide, by decide⟩
  have hcount := (h 1 (by decide) (.requested (.offSession 1 1 20000 "GBP" 1 1) (some ⟨1, 1⟩)
    .succeeded 1) (by decide) rfl).1 hconfirmed
  exact absurd hcount (by decide)

end HostPlatform
