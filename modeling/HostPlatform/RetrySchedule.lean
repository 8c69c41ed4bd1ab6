-- SUMMARY: What any step can do to the status of an attempt, and that a failed one leaves a scheduled retry.
import HostPlatform.Safety.AttemptDiscipline
import HostPlatform.Safety.OneRequest

namespace HostPlatform

open Lib (Table)
open Lib.Transition

/-! ## Outcomes under way -/

theorem chargeOutcome_ne_cancelled (response : ChargeResponse) : (chargeOutcome response).1 ≠ .cancelled := by
  cases response with
  | intent id status lastPaymentError => cases status <;> exact nofun
  | idempotencyError message => exact nofun
  | apiError message => exact nofun

/-- The calls a step leaves are the old ones, or one just started, or one that just moved. -/
inductive ChargesMove (w : World) : Table ChargeCall → Prop
  | same : ChargesMove w w.charges
  | started (b : BookingId) (amountMinor : Int) (currency : String) :
      ChargesMove w (w.addCharge b amountMinor currency).charges
  | ended (call : ChargeCall) : ChargesMove w (w.endCharge call).charges
  | moved (call : ChargeCall) (phase : ChargePhase) (hcall : w.charges.find? call.id = some call)
      (hphase : ∀ claim status details, phase = .recording claim status details →
        call.phase = .calling claim ∧ status ≠ .cancelled) :
      ChargesMove w (w.setChargePhase call phase).charges

theorem World.stepCharge_chargesMove (w : World) (now : Int) (call : ChargeCall)
    (hcall : w.charges.find? call.id = some call) (answer : ChargeAnswer) :
    ChargesMove w (w.stepCharge now call answer).charges := by
  unfold stepCharge
  split
  · simp only
    split
    · exact .moved call _ hcall nofun
    · exact .ended call
  · rename_i claim hphase
    refine .moved call _ hcall fun claim' status details h => ?_
    cases h
    exact ⟨hphase, chargeOutcome_ne_cancelled _⟩
  · exact .ended call

theorem World.chargesMove (w : World) (l : Label) : ChargesMove w (w.step l).charges := by
  cases l with
  | transaction t =>
    obtain ⟨db, h, -⟩ := w.transaction_eq t
    rw [h]
    exact .same
  | cancelBookingAndRefund now input =>
    obtain ⟨db, refundCalls, h, -⟩ := w.cancelBookingAndRefund_eq now input
    show ChargesMove w (w.cancelBookingAndRefund now input).charges
    rw [h]
    exact .same
  | sweepCharge now b =>
    show ChargesMove w (w.sweepCharge now b).charges
    rcases w.sweepCharge_eq now b with h | ⟨amountMinor, currency, h⟩
    · rw [h]
      exact .same
    · rw [h]
      exact .started b amountMinor currency
  | setupIntentSucceeded b paymentMethodId =>
    obtain ⟨db, handlers, h, -⟩ := w.setupIntentSucceeded_eq b paymentMethodId
    show ChargesMove w (w.setupIntentSucceeded b paymentMethodId).charges
    rw [h]
    exact .same
  | setupIntentContinue now b =>
    show ChargesMove w (w.setupIntentContinue now b).charges
    obtain ⟨db, handlers, -, h | ⟨amountMinor, currency, h⟩⟩ := w.setupIntentContinue_eq now b
    · rw [h]
      exact .same
    · rw [h]
      exact .started b amountMinor currency
  | charge now call answer =>
    simp only [step]
    split
    · rename_i c hc
      obtain rfl : c.id = call := Table.key_of_find? hc
      exact w.stepCharge_chargesMove now c hc answer
    · exact .same
  | chargeCrash call =>
    simp only [step]
    split
    · exact .ended _
    · exact .same
  | startCheckout b =>
    obtain ⟨checkouts, h⟩ := w.startCheckout_eq b
    show ChargesMove w (w.startCheckout b).charges
    rw [h]
    exact .same
  | checkout call answer =>
    simp only [step]
    split
    · rename_i c _
      obtain ⟨payments, intents, sharedSecrets, checkouts, h⟩ := w.stepCheckout_eq c answer
      rw [h]
      exact .same
    · exact .same
  | checkoutCrash call =>
    simp only [step]
    split <;> exact .same
  | moveIntent intentId status => exact .same
  | paymentSucceeded now intentId =>
    simp only [step]
    split
    · split
      · unfold paymentSucceeded
        split <;> exact .same
      · exact .same
    · exact .same
  | insertEntitlement handler =>
    simp only [step]
    split <;> exact .same
  | entitlementCrash handler => exact .same
  | paymentFailed intentId lastPaymentError =>
    simp only [step]
    split
    · split <;> exact .same
    · exact .same
  | disputeCreated dispute =>
    simp only [step]
    split
    · split <;> exact .same
    · exact .same
  | adminRefund b amountMinor reason =>
    obtain ⟨refundCalls, h⟩ := w.adminRefund_eq b amountMinor reason
    show ChargesMove w (w.adminRefund b amountMinor reason).charges
    rw [h]
    exact .same
  | refund call answer =>
    simp only [step]
    split
    · rename_i c _
      obtain ⟨refunds, stripeRefunds, refundCalls, h⟩ := w.stepRefund_eq c answer
      rw [h]
      exact .same
    · exact .same
  | refundCrash call =>
    simp only [step]
    split <;> exact .same
  | settleRefund stripeRefundId status => exact .same
  | refundEvent stripeRefundId =>
    simp only [step]
    split <;> exact .same
  | refundFailed stripeRefundId =>
    simp only [step]
    split
    · split <;> exact .same
    · exact .same
  | startDiscard b guestId => exact .same
  | discard now call =>
    obtain ⟨db, discards, h, hdb⟩ := w.discard_eq now call
    rw [h]
    exact .same
  | discardCrash call =>
    obtain ⟨discards, h⟩ := w.discardCrash_eq call
    rw [h]
    exact .same

/-- Outcomes under way are of the attempts that their calls claimed. -/
structure World.OutcomesFixed (w : World) : Prop where
  fixed : w.RequestsFixed
  recording : ∀ c ∈ w.charges.rows, ∀ claim status details, c.phase = .recording claim status details →
    w.ClaimOf c claim ∧ status ≠ .cancelled

theorem World.OutcomesFixed.start {db : Db} (hattempts : db.paymentAttempts.rows = []) :
    (World.start db).OutcomesFixed where
  fixed := .start hattempts
  recording _ h := absurd h List.not_mem_nil

theorem World.OutcomesFixed.step {w : World} (hinv : w.OutcomesFixed) (l : Label) : (w.step l).OutcomesFixed := by
  refine ⟨hinv.fixed.step l, fun c hc claim status details hphase => ?_⟩
  have hold : c ∈ w.charges.rows → (w.step l).ClaimOf c claim ∧ status ≠ .cancelled := by
    intro hc
    obtain ⟨hclaim, hstatus⟩ := hinv.recording c hc claim status details hphase
    exact ⟨hclaim.step l, hstatus⟩
  have hmove := w.chargesMove l
  generalize (w.step l).charges = charges at hmove hc
  cases hmove with
  | same => exact hold hc
  | started b amountMinor currency =>
    rcases List.mem_append.mp hc with hmem | hnew
    · exact hold hmem
    · rw [List.mem_singleton.mp hnew] at hphase
      cases hphase
  | ended call => exact hold (List.mem_filter.mp hc).1
  | moved call phase hcall hmoved =>
    rcases Table.mem_modify_of_find? (by intro r; rfl) hcall hc with ⟨hmem, -⟩ | rfl
    · exact hold hmem
    · obtain ⟨hcalling, hstatus⟩ := hmoved claim status details hphase
      exact ⟨(hinv.fixed.claimed call (Table.mem_of_find? hcall) claim hcalling).step l, hstatus⟩

/-! ## Statuses of attempts -/

/-- What a step can do to attempts, with the outcome it records. -/
inductive AttemptsStep (w : World) (l : Label) : Db → Prop
  | kept {db' : Db} (h : Table.Rowwise (fun a a' : PaymentAttempt => a.SameSlot a' ∧
      (a'.status = a.status ∨ a'.status = .succeeded)) w.db.paymentAttempts db'.paymentAttempts) :
      AttemptsStep w l db'
  | reserved {db' : Db} (c : ChargeCall) (h : Reserves w l c) : AttemptsStep w l db'
  | recorded (now : Int) (call : ChargeCall) (claim : ChargeClaim) (status : AttemptStatus)
      (details : OutcomeDetails) (hcall : w.charges.find? call.id = some call)
      (hphase : call.phase = .recording claim status details) :
      AttemptsStep w l (recordChargeOutcome now call.bookingId claim.attemptId claim.claimToken status
        details w.db).2

theorem AttemptsStep.of_eq {w : World} {l : Label} {db' : Db}
    (h : db'.paymentAttempts = w.db.paymentAttempts) : AttemptsStep w l db' := by
  refine .kept ?_
  rw [h]
  exact .refl (fun a => ⟨.refl a, .inl rfl⟩) _

theorem AttemptsStep.of_sameMoney {w : World} {l : Label} {db' : Db} (h : w.db.SameMoney db') :
    AttemptsStep w l db' := .of_eq h.paymentAttempts

theorem attemptsStep_decideCharge {w : World} {l : Label} {now : Int} {c : ChargeCall}
    (hdecides : Decides w l now c) : AttemptsStep w l (w.decision now c).2 := by
  cases hdecision : (w.decision now c).1 with
  | charge claim =>
    obtain ⟨-, -, -, ⟨latest, -, -, -, -, hdb⟩ | ⟨hnone, -⟩⟩ := decideCharge_eq_charge hdecision
    · refine .kept ?_
      rw [show (w.decision now c).2 = _ from hdb]
      exact .modify (fun a => ⟨.refl a, .inl rfl⟩) (by intro a; rfl) fun a _ => ⟨⟨rfl, rfl, rfl⟩, .inl rfl⟩
    · exact .reserved c ⟨now, claim, hdecides, hdecision, hnone⟩
  | _ =>
    apply AttemptsStep.of_eq
    exact congrArg Db.paymentAttempts (decideCharge_of_ne_charge fun claim h => by
      rw [show (decideCharge now w.nextToken c.bookingId c.amountMinor c.currency w.db).1 = _ from hdecision] at h
      cases h)

theorem attemptsStep_paymentSucceeded {w : World} {l : Label} {now : Int} {intent : PaymentIntentObject} {db : Db}
    {input : Option EntitlementInput} (h : onPaymentSucceeded now intent w.db = .ok (input, db)) :
    AttemptsStep w l db := by
  obtain rfl | rfl | ⟨b, -, u, hlegacy⟩ := onPaymentSucceeded_eq_ok h
  · exact .of_eq rfl
  · unfold onNewFlowPaymentSucceeded
    split
    · exact .of_eq rfl
    · split
      · exact .of_eq rfl
      · refine .kept ?_
        show Table.Rowwise _ _ (markAttemptSucceeded w.db intent.paymentAttemptId intent.id).paymentAttempts
        unfold markAttemptSucceeded
        split
        · exact .refl (fun a => ⟨.refl a, .inl rfl⟩) _
        · exact .modify (fun a => ⟨.refl a, .inl rfl⟩) (by intro a; rfl) fun a _ => ⟨⟨rfl, rfl, rfl⟩, .inr rfl⟩
  · obtain ⟨bookings, payments, payouts, ledgerEntries, rfl⟩ := onLegacyPaymentSucceeded_eq hlegacy
    exact .of_eq rfl

theorem World.attemptsStep (w : World) (l : Label) : AttemptsStep w l (w.step l).db := by
  rcases w.runStep l with h | ⟨t, hruns, h⟩
  · exact .of_eq (congrArg Db.paymentAttempts h)
  · rw [h]
    cases hruns with
    | transaction t halone => exact .of_sameMoney (Tx.standsAlone_sameMoney halone w.db)
    | cancelBooking now input =>
      exact Lib.commit_of (P := fun db => AttemptsStep w _ db) (.of_eq rfl) fun r db hok =>
        .of_sameMoney (cancelBooking_sameMoney hok)
    | savePaymentMethod b paymentMethodId => exact .of_sameMoney (savePaymentMethod_sameMoney b paymentMethodId w.db)
    | clearHold now b booking hhandler hbooking hdeferred => exact .of_eq rfl
    | decideCharge now call answer hcall hphase =>
      exact attemptsStep_decideCharge ⟨call.id, answer, rfl, hcall, hphase⟩
    | recordChargeOutcome now call answer claim status details hcall hphase =>
      exact .recorded now call claim status details hcall hphase
    | upsertPayment call answer booking intentId hcall hphase =>
      refine Lib.commit_of (P := fun db => AttemptsStep w _ db) (.of_eq rfl) fun u db hok => ?_
      obtain ⟨-, -, -, -, -, -, hframe⟩ := upsertPayment_eq_ok hok
      rw [hframe]
      exact .of_eq rfl
    | paymentSucceeded now i hfind hsucceeded =>
      exact Lib.commit_of (P := fun db => AttemptsStep w _ db) (.of_eq rfl) fun input db hok =>
        attemptsStep_paymentSucceeded hok
    | createEntitlement handler hhandler =>
      show AttemptsStep w _ (HostPlatform.createEntitlement handler.input w.db)
      rw [createEntitlement_frame]
      exact .of_eq rfl
    | paymentFailed i lastPaymentError hfind hdeclined => exact .of_eq rfl
    | disputeCreated dispute =>
      obtain ⟨bookings, payouts, disputes, hdispute⟩ := onDisputeCreated_eq dispute w.db
      show AttemptsStep w _ (onDisputeCreated dispute w.db)
      rw [hdispute]
      exact .of_eq rfl
    | insertRefund call answer hcall hphase => exact .of_eq rfl
    | linkRefund call answer refundRowId stripeRefundId hcall hphase => exact .of_eq rfl
    | refundEvent r hfind =>
      obtain ⟨bookings, payments, refunds, payouts, ledgerEntries, hrefund⟩ := onRefundEvent_eq r.object w.db
      rw [hrefund]
      exact .of_eq rfl
    | refundFailed r hfind hfailed => exact .of_eq rfl
    | discardUnpaidBooking now call booking hcall hphase =>
      exact .of_sameMoney (discardUnpaidBooking_sameMoney now booking w.db)

/-- An outcome is recorded for the attempt of the claim, or not at all. -/
theorem recordChargeOutcome_rows (now : Int) (b : BookingId) (attemptId : AttemptId) (claimToken : Nat)
    (status : AttemptStatus) (details : OutcomeDetails) {db : Db} {a : PaymentAttempt}
    (ha : db.paymentAttempts.find? a.id = some a) :
    ∃ a', (recordChargeOutcome now b attemptId claimToken status details db).2.paymentAttempts.find? a.id =
        some a' ∧ a.SameSlot a' ∧
      (a'.status = a.status ∨
        a.id = attemptId ∧ recordable db attemptId claimToken ∧ a'.status = status) := by
  unfold recordChargeOutcome
  cases hrecordable : recordable db attemptId claimToken with
  | false => exact ⟨a, ha, .refl a, .inl rfl⟩
  | true =>
    have hrow := Table.find?_modify db.paymentAttempts attemptId (fun a => { a with
      status := status
      providerPaymentIntentId := details.providerPaymentIntentId.or a.providerPaymentIntentId
      failureCode := details.failureCode
      failureMessage := details.failureMessage
      claimToken := none
      leaseExpiresAt := none }) (by intro r; rfl) a.id
    simp only [if_true]
    have hattempts : ∀ db₁ : Db, ∀ p q : Prop, [Decidable p] → [Decidable q] →
        (if p then updatePendingBooking (if q then updatePendingBooking db₁ b (establishGracePeriod now) else db₁) b
          (scheduleNextRetry now) else (if q then updatePendingBooking db₁ b (establishGracePeriod now) else db₁)
        ).paymentAttempts = db₁.paymentAttempts := by
      intro db₁ p q _ _
      split <;> split <;> rfl
    rw [hattempts]
    by_cases hid : a.id = attemptId
    · rw [if_pos hid, ← hid, ha, Option.map_some] at hrow
      rw [← hid]
      exact ⟨_, hrow, ⟨rfl, rfl, rfl⟩, .inr ⟨rfl, trivial, rfl⟩⟩
    · rw [if_neg hid, ha] at hrow
      exact ⟨a, hrow, .refl a, .inl rfl⟩

/-- A failure that is recorded while the booking waits for payment leaves a scheduled retry. -/
theorem recordChargeOutcome_schedules {now : Int} {b : BookingId} {attemptId : AttemptId} {claimToken : Nat}
    {details : OutcomeDetails} {db : Db} (hrecordable : recordable db attemptId claimToken) {r : Booking}
    (hr : (recordChargeOutcome now b attemptId claimToken .failed details db).2.bookings.find? b = some r)
    (hpending : r.status = .pendingPayment) : r.nextRetryAt ≠ none := by
  unfold recordChargeOutcome at hr
  simp only [hrecordable, if_true] at hr
  obtain ⟨s, hs, rfl⟩ := Option.map_eq_some_iff.mp
    ((find?_updatePendingBooking _ b (scheduleNextRetry now) (fun _ => rfl) b).symm.trans hr)
  have hid : s.id = b := Table.key_of_find? hs
  by_cases hs' : s.status = .pendingPayment
  · rw [if_pos (decide_eq_true ⟨hid, hs'⟩)]
    rintro ⟨⟩
  · rw [if_neg (by simp [hs'])] at hpending
    exact absurd hpending hs'

/-! ## The latest attempt -/

/-- The attempt is the latest of booking `b`. -/
structure Db.Latest (db : Db) (b : BookingId) (a : PaymentAttempt) : Prop where
  mem : a ∈ db.paymentAttempts.rows
  booking : a.bookingId = b
  number : a.attemptNumber = db.maxAttemptNumber b

theorem Db.SlotsTaken.latestAttempt_eq {db : Db} (h : db.SlotsTaken) {b : BookingId} {a : PaymentAttempt}
    (ha : db.Latest b a) : db.latestAttempt b = some a := by
  cases hlatest : db.latestAttempt b with
  | none =>
    have hempty : db.attemptsOf b = [] := List.argmax_eq_none.mp hlatest
    have hmem := Db.mem_attemptsOf.mpr ⟨ha.mem, ha.booking⟩
    rw [hempty] at hmem
    cases hmem
  | some a' =>
    obtain ⟨hmem, hb, hnumber⟩ := Db.latestAttempt_eq_some hlatest
    rw [h.number a' hmem a ha.mem (hb.trans ha.booking.symm) (hnumber.trans ha.number.symm)]

theorem Db.Latest.of_sameSlot {db db' : Db} {b : BookingId} {a a' : PaymentAttempt} (h : db.Latest b a)
    (hrowwise : Table.Rowwise PaymentAttempt.SameSlot db.paymentAttempts db'.paymentAttempts)
    (ha' : a' ∈ db'.paymentAttempts.rows) (hslot : a.SameSlot a') : db'.Latest b a' where
  mem := ha'
  booking := hslot.bookingId.trans h.booking
  number := by rw [hslot.attemptNumber, h.number, Db.maxAttemptNumber_congr hrowwise b]

theorem recordChargeOutcome_sameSlot (now : Int) (b : BookingId) (attemptId : AttemptId) (claimToken : Nat)
    (status : AttemptStatus) (details : OutcomeDetails) (db : Db) :
    Table.Rowwise PaymentAttempt.SameSlot db.paymentAttempts
      (recordChargeOutcome now b attemptId claimToken status details db).2.paymentAttempts :=
  (recordChargeOutcome_rowwise now b attemptId claimToken status details db).mono fun _ _ h => h.toSameSlot

/-- The latest attempt after a step: if it failed, it had failed before, or its failure left a
scheduled retry. -/
theorem World.latest_step {w : World} (hinv : w.OutcomesFixed) (l : Label) {b : BookingId} {a : PaymentAttempt}
    (ha : w.db.Latest b a) :
    ∃ a', (w.step l).db.Latest b a' ∧ (a'.status = .failed → a.status = .failed ∨
      ∀ r, (w.step l).db.bookings.find? b = some r → r.status = .pendingPayment → r.nextRetryAt ≠ none) := by
  have hfind : w.db.paymentAttempts.find? a.id = some a := Table.find?_of_mem ha.mem
  have hstep := w.attemptsStep l
  generalize hdb : (w.step l).db = db' at hstep ⊢
  cases hstep with
  | kept h =>
    obtain ⟨a', ha', hslot, hstatus⟩ := h.of_find? hfind
    refine ⟨a', ha.of_sameSlot (h.mono fun _ _ hr => hr.1) (Table.mem_of_find? ha') hslot, fun hfailed => .inl ?_⟩
    rcases hstatus with hsame | hsucceeded
    · rw [← hsame, hfailed]
    · rw [hsucceeded] at hfailed
      cases hfailed
  | reserved c h =>
    obtain ⟨row, hb, hnumber, -, hpending, hrows⟩ := h.attempts
    rw [hdb] at hrows
    have hmax := maxAttemptNumber_reserved hb hnumber hrows b
    by_cases hbc : b = c.bookingId
    · refine ⟨row, ⟨by rw [hrows]; exact List.mem_append_right _ (List.mem_singleton.mpr rfl), hb.trans hbc.symm, ?_⟩,
        fun hfailed => ?_⟩
      · rw [hmax, if_pos hbc, hnumber]
      · rw [hpending] at hfailed
        cases hfailed
    · refine ⟨a, ⟨by rw [hrows]; exact List.mem_append_left _ ha.mem, ha.booking, ?_⟩, .inl⟩
      rw [hmax, if_neg hbc, ha.number]
  | recorded now call claim status details hcall hphase =>
    obtain ⟨a', ha', hslot, hstatus⟩ := recordChargeOutcome_rows now call.bookingId claim.attemptId
      claim.claimToken status details hfind
    have hrowwise := recordChargeOutcome_sameSlot now call.bookingId claim.attemptId claim.claimToken status details w.db
    refine ⟨a', ha.of_sameSlot hrowwise (Table.mem_of_find? ha') hslot, fun hfailed => ?_⟩
    rcases hstatus with hsame | ⟨hid, hrecordable, hstatus⟩
    · exact .inl (by rw [← hsame, hfailed])
    · right
      rw [hfailed] at hstatus
      subst hstatus
      obtain ⟨⟨hb, a₀, ha₀, hkey⟩, -⟩ := hinv.recording call (Table.mem_of_find? hcall) claim _ details hphase
      rw [← hid, hfind] at ha₀
      cases ha₀
      have hbooking : b = call.bookingId := by
        rw [← hb, ← hkey, hinv.fixed.slots.key a ha.mem, ha.booking]
      intro r hr
      rw [hbooking] at hr
      exact recordChargeOutcome_schedules hrecordable hr

/-- No attempt is `cancelled`: no outcome is. -/
def World.NoneCancelled (w : World) : Prop := ∀ a ∈ w.db.paymentAttempts.rows, a.status ≠ .cancelled

theorem World.NoneCancelled.step {w : World} (h : w.NoneCancelled) (hinv : w.OutcomesFixed) (l : Label) :
    (w.step l).NoneCancelled := by
  intro a' ha' hcancelled
  have hstep := w.attemptsStep l
  generalize hdb : (w.step l).db = db' at hstep ha'
  cases hstep with
  | kept hrowwise =>
    obtain ⟨a, ha, -, hsame | hsucceeded⟩ := hrowwise.to_find? (Table.find?_of_mem ha')
    · exact h a (Table.mem_of_find? ha) (by rw [← hsame, hcancelled])
    · rw [hsucceeded] at hcancelled
      cases hcancelled
  | reserved c hreserves =>
    obtain ⟨row, -, -, -, hpending, hrows⟩ := hreserves.attempts
    rw [← hdb, hrows] at ha'
    rcases List.mem_append.mp ha' with hold | hnew
    · exact h a' hold hcancelled
    · rw [List.mem_singleton.mp hnew, hpending] at hcancelled
      cases hcancelled
  | recorded now call claim status details hcall hphase =>
    obtain ⟨a, ha, -⟩ := (recordChargeOutcome_sameSlot now call.bookingId claim.attemptId claim.claimToken status
      details w.db).to_find? (Table.find?_of_mem ha')
    have hid : a.id = a'.id := Table.key_of_find? ha
    have hfind : w.db.paymentAttempts.find? a.id = some a := Table.find?_of_mem (Table.mem_of_find? ha)
    obtain ⟨a'', ha'', -, hstatus⟩ := recordChargeOutcome_rows now call.bookingId claim.attemptId claim.claimToken
      status details hfind
    rw [hid] at ha''
    obtain rfl : a' = a'' := Option.some.inj ((Table.find?_of_mem ha').symm.trans ha'')
    rcases hstatus with hsame | ⟨-, -, hstatus⟩
    · exact h a (Table.mem_of_find? ha) (by rw [← hsame, hcancelled])
    · rw [hcancelled] at hstatus
      exact (hinv.recording call (Table.mem_of_find? hcall) claim status details hphase).2 hstatus.symm

end HostPlatform
