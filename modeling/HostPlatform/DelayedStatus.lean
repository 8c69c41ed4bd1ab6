-- SUMMARY: How the status of a delayed-flow booking moves, and that a confirmed one has a succeeded attempt.
import HostPlatform.Safety.HostEntitlement
import HostPlatform.Safety.OneRequest

/-!
# Statuses of delayed-flow bookings

Refunds and disputes reach a booking through its payments row, and a delayed-flow booking has none.
So its status makes four moves only, and the one to `confirmed` is made by the webhook that marks
its attempt succeeded.
-/

namespace HostPlatform

open Lib (Table)
open Lib.Transition

/-! ## Moves -/

/-- How transaction `t` may change the status of a delayed-flow booking `b`. -/
inductive DelayedMove (t : Tx) (b : BookingId) : BookingStatus → BookingStatus → Prop
  | same (st : BookingStatus) : DelayedMove t b st st
  | paid (now : Int) (intent : PaymentIntentObject) (ht : t = .paymentSucceeded now intent)
      (hb : intent.bookingId = some b) : DelayedMove t b .pendingPayment .confirmed
  | completed : DelayedMove t b .confirmed .completed
  | released (st : BookingStatus) (hlive : st.live) : DelayedMove t b st .cancelled

/-- The payments rows are of legacy bookings. -/
def Db.PaymentsLegacy (db : Db) : Prop :=
  ∀ p ∈ db.payments.rows, db.flowOf p.bookingId = some .destinationChargeLegacy

theorem World.Linked.paymentsLegacy {w : World} (h : w.Linked) : w.db.PaymentsLegacy :=
  fun p hp => (h.payments p hp).flow

section

variable {t : Tx} {db db' : Db} {b : BookingId} {st : BookingStatus}

theorem DelayedMove.of_statusOf (hst : db.statusOf b = some st) (h : db'.statusOf b = db.statusOf b) :
    ∃ st', db'.statusOf b = some st' ∧ DelayedMove t b st st' :=
  ⟨st, h.trans hst, .same st⟩

theorem DelayedMove.of_bookings (hst : db.statusOf b = some st) (h : db'.bookings = db.bookings) :
    ∃ st', db'.statusOf b = some st' ∧ DelayedMove t b st st' := by
  apply DelayedMove.of_statusOf hst
  unfold Db.statusOf
  rw [h]

theorem DelayedMove.of_calendarFrame (hst : db.statusOf b = some st) (h : db.CalendarFrame db') :
    ∃ st', db'.statusOf b = some st' ∧ DelayedMove t b st st' := by
  apply DelayedMove.of_bookings hst
  rw [h]

theorem DelayedMove.of_rowwise (hst : db.statusOf b = some st)
    (h : Table.Rowwise (fun r r' => DelayedMove t r.id r.status r'.status) db.bookings db'.bookings) :
    ∃ st', db'.statusOf b = some st' ∧ DelayedMove t b st st' := by
  obtain ⟨r, hr, rfl⟩ := Db.statusOf_eq_some.mp hst
  obtain ⟨r', hr', hmove⟩ := h.of_find? hr
  obtain rfl : r.id = b := Table.key_of_find? hr
  exact ⟨r'.status, Db.statusOf_eq_some.mpr ⟨r', hr', rfl⟩, hmove⟩

theorem DelayedMove.of_sameStatus (hst : db.statusOf b = some st)
    (h : Table.Rowwise Booking.SameStatus db.bookings db'.bookings) :
    ∃ st', db'.statusOf b = some st' ∧ DelayedMove t b st st' := by
  refine DelayedMove.of_rowwise hst (h.mono fun r r' hsame => ?_)
  rw [hsame.2]
  exact .same _

/-- A release cancels the live booking it found. -/
theorem DelayedMove.of_releaseNights {today : Int} {c : BookingId} {r : Booking} {which : AvailabilityBlock → Bool}
    {set : Booking → Booking} {hset} (hst : db.statusOf b = some st) (hfind : db.bookings.find? c = some r)
    (hlive : r.status.live) (hcancel : ∀ r, (set r).status = .cancelled) :
    ∃ st', (releaseNights db today r which set hset).statusOf b = some st' ∧ DelayedMove t b st st' := by
  obtain rfl : r.id = c := Table.key_of_find? hfind
  obtain ⟨s, hs, rfl⟩ := Db.statusOf_eq_some.mp hst
  by_cases hb : b = r.id
  · subst hb
    obtain rfl : r = s := Option.some.inj (hfind.symm.trans hs)
    refine ⟨.cancelled, Db.statusOf_eq_some.mpr ⟨set r, ?_, hcancel r⟩, .released _ hlive⟩
    rw [releaseNights_find?, if_pos rfl, hs]
    rfl
  · refine ⟨s.status, Db.statusOf_eq_some.mpr ⟨s, ?_, rfl⟩, .same _⟩
    rw [releaseNights_find?, if_neg hb, hs]

/-- A status written through a payments row is another booking's. -/
theorem DelayedMove.of_setBookingStatus {p : Payment} {written : BookingStatus} (hst : db.statusOf b = some st)
    (hlegacy : db.flowOf p.bookingId = some .destinationChargeLegacy)
    (hflow : db.flowOf b = some .separateChargesDelayedV1)
    (h : db'.bookings = (db.setBookingStatus p.bookingId written).bookings) :
    ∃ st', db'.statusOf b = some st' ∧ DelayedMove t b st st' := by
  have hne : b ≠ p.bookingId := by
    rintro rfl
    rw [hlegacy] at hflow
    cases hflow
  apply DelayedMove.of_statusOf hst
  have hset := db.statusOf_setBookingStatus p.bookingId written b
  rw [if_neg hne] at hset
  rw [← hset]
  unfold Db.statusOf
  rw [h]

theorem DelayedMove.of_commit {α : Type} {result : Except BookingError (α × Db)} (hst : db.statusOf b = some st)
    (h : ∀ a db', result = .ok (a, db') → ∃ st', db'.statusOf b = some st' ∧ DelayedMove t b st st') :
    ∃ st', (Lib.commit db result).statusOf b = some st' ∧ DelayedMove t b st st' :=
  Lib.commit_of (P := fun db' : Db => ∃ st', db'.statusOf b = some st' ∧ DelayedMove t b st st')
    (DelayedMove.of_bookings hst rfl) h

end

theorem paymentByIntent_rows {db : Db} {i : Option PaymentIntentId} {p : Payment}
    (h : i.bind db.paymentByIntent = some p) : p ∈ db.payments.rows := by
  obtain ⟨i, -, hp⟩ := Option.bind_eq_some_iff.mp h
  exact List.mem_of_find?_eq_some hp

/-- The booking a paid intent confirms, if any. -/
theorem onPaymentSucceeded_moves {now : Int} {intent : PaymentIntentObject} {db db' : Db}
    {input : Option EntitlementInput} (h : onPaymentSucceeded now intent db = .ok (input, db')) :
    db'.bookings = db.bookings ∨ ∃ b, intent.bookingId = some b ∧
      db'.bookings = (confirmPendingBooking db b).bookings := by
  obtain rfl | rfl | ⟨b, hb, u, hlegacy⟩ := onPaymentSucceeded_eq_ok h
  · exact .inl rfl
  · unfold onNewFlowPaymentSucceeded
    split
    · exact .inl rfl
    · rename_i r hr
      obtain ⟨b, hb, hfind⟩ := Option.bind_eq_some_iff.mp hr
      obtain rfl : r.id = b := Table.key_of_find? hfind
      split
      · exact .inl rfl
      · rw [markAttemptSucceeded_frame]
        exact .inr ⟨r.id, hb, rfl⟩
  · rcases onLegacyPaymentSucceeded_eq_ok hlegacy with hdb | ⟨-, hdb⟩ | ⟨booking, pc, -, -, -, hdb⟩
    · exact .inl (by rw [hdb])
    · exact .inl (by rw [hdb]; rfl)
    · exact .inr ⟨b, hb, by rw [hdb]; rfl⟩

/-- Any transaction moves a delayed-flow booking in one of the four ways. -/
theorem Tx.delayedMove (t : Tx) {db : Db} (hlegacy : db.PaymentsLegacy) {b : BookingId} {st : BookingStatus}
    (hst : db.statusOf b = some st) (hflow : db.flowOf b = some .separateChargesDelayedV1) :
    ∃ st', (t.exec db).statusOf b = some st' ∧ DelayedMove t b st st' := by
  cases t with
  | createBooking now isDelayedFlow input =>
    refine DelayedMove.of_commit hst fun created db' h => ?_
    rcases createBooking_row h with hsame | ⟨hostId, rules, hnew⟩
    · exact DelayedMove.of_bookings hst hsame
    · apply DelayedMove.of_statusOf hst
      obtain ⟨r, hr, -⟩ := Db.statusOf_eq_some.mp hst
      have hne := Table.ne_freshKey_of_find? hr
      unfold Db.statusOf
      rw [hnew]
      exact congrArg (Option.map Booking.status)
        ((Table.find?_insertNew _ _ (fun _ => rfl) b).trans (if_neg hne))
  | cancelBooking now input =>
    refine DelayedMove.of_commit hst fun cancelled db' h => ?_
    obtain ⟨r, bpc, hfind, -, hlive, -, rfl⟩ := cancelBooking_eq_ok h
    exact DelayedMove.of_releaseNights hst hfind hlive fun _ => rfl
  | releaseExpiredHold now c =>
    show ∃ st', (HostPlatform.releaseExpiredHold now c db).2.statusOf b = some st' ∧ _
    unfold HostPlatform.releaseExpiredHold
    split
    · exact DelayedMove.of_bookings hst rfl
    · rename_i r hr
      obtain ⟨hfind, hpending, -⟩ := expiredHold_eq_some hr
      exact DelayedMove.of_releaseNights hst hfind (by rw [hpending]; rfl) fun _ => rfl
  | discardUnpaidBooking now booking =>
    show ∃ st', (discardLocked now booking db).statusOf b = some st' ∧ _
    refine discardLocked_of (P := fun db' : Db => ∃ st', db'.statusOf b = some st' ∧ DelayedMove _ b st st')
      (DelayedMove.of_bookings hst rfl) fun hheld => ?_
    exact DelayedMove.of_releaseNights hst hheld (by rw [booking.pending]; rfl) fun _ => rfl
  | completeStays today =>
    refine DelayedMove.of_rowwise hst (Table.Rowwise.updateWhere (fun r => .same r.status) (by intro r; rfl) fun r _ hover => ?_)
    simp only [decide_eq_true_eq] at hover
    rw [hover.1]
    exact .completed
  | createCalendarFeed p name feedUrl => exact DelayedMove.of_calendarFrame hst (Tx.calendarFrame rfl db)
  | setCalendarFeedActive today p feedId isActive =>
    exact DelayedMove.of_calendarFrame hst (Tx.calendarFrame rfl db)
  | deleteCalendarFeed today p feedId => exact DelayedMove.of_calendarFrame hst (Tx.calendarFrame rfl db)
  | replaceFeedEvents today p feedId events etag lastModified =>
    exact DelayedMove.of_calendarFrame hst (Tx.calendarFrame rfl db)
  | saveSetupIntent c customerId setupIntentId =>
    exact DelayedMove.of_rowwise hst
      (Table.Rowwise.modify (fun r => .same r.status) (by intro r; rfl) fun r _ => .same r.status)
  | savePaymentMethod c paymentMethodId =>
    refine DelayedMove.of_commit hst fun changed db' h => ?_
    unfold HostPlatform.savePaymentMethod at h
    split at h
    · cases h
    · cases h
      exact DelayedMove.of_rowwise hst
        (Table.Rowwise.modify (fun r => .same r.status) (by intro r; rfl) fun r _ => .same r.status)
  | clearHold c =>
    exact DelayedMove.of_rowwise hst
      (updatePendingBooking_rowwise (fun r => .same r.status) fun r _ _ => .same r.status)
  | configureTaxTreatment c taxTreatment =>
    exact DelayedMove.of_rowwise hst
      (Table.Rowwise.modify (fun r => .same r.status) (by intro r; rfl) fun r _ => .same r.status)
  | decideCharge now token c amountMinor currency =>
    obtain ⟨attempts, h⟩ := decideCharge_eq now token c amountMinor currency db
    rw [h]
    exact DelayedMove.of_bookings hst rfl
  | recordChargeOutcome now c attemptId claimToken status details =>
    exact DelayedMove.of_sameStatus hst (recordChargeOutcome_bookings now c attemptId claimToken status details db)
  | upsertPayment c intentId guestTotalMinor currency =>
    refine DelayedMove.of_commit hst fun u db' h => ?_
    obtain ⟨-, -, -, -, -, -, hframe⟩ := upsertPayment_eq_ok h
    rw [hframe]
    exact DelayedMove.of_bookings hst rfl
  | paymentSucceeded now intent =>
    refine DelayedMove.of_commit hst fun input db' h => ?_
    rcases onPaymentSucceeded_moves h with hsame | ⟨c, hc, hconfirm⟩
    · exact DelayedMove.of_bookings hst hsame
    · refine DelayedMove.of_rowwise hst ?_
      rw [hconfirm]
      refine updatePendingBooking_rowwise (fun r => .same r.status) fun r hr hpending => ?_
      obtain rfl : r.id = c := Table.key_of_find? hr
      rw [hpending]
      exact .paid now intent rfl hc
  | createEntitlement input =>
    show ∃ st', (HostPlatform.createEntitlement input db).statusOf b = some st' ∧ _
    rw [createEntitlement_frame]
    exact DelayedMove.of_bookings hst rfl
  | refundEvent refund =>
    refine DelayedMove.of_commit hst fun u db' h => ?_
    rcases onRefundEvent_eq_ok h with rfl | ⟨payment, marked, -, hpayment, hmarked, hrecord⟩
    · exact DelayedMove.of_bookings hst rfl
    · apply DelayedMove.of_setBookingStatus hst (hlegacy payment (paymentByIntent_rows hpayment)) hflow
      rw [recordRefund_frame hrecord, (markRefundSucceeded_eq_some hmarked).2]
      rfl
  | disputeCreated dispute =>
    show ∃ st', (onDisputeCreated dispute db).statusOf b = some st' ∧ _
    unfold onDisputeCreated
    split
    · exact DelayedMove.of_bookings hst rfl
    · rename_i payment hpayment
      exact DelayedMove.of_setBookingStatus hst (hlegacy payment (paymentByIntent_rows hpayment)) hflow rfl
  | _ => exact DelayedMove.of_bookings hst rfl

/-! ## Paid bookings -/

/-- A success is not lost. -/
theorem World.hasSucceededAttempt_step {w : World} {b : BookingId} (h : w.db.hasSucceededAttempt b)
    (l : Label) : (w.step l).db.hasSucceededAttempt b := by
  obtain ⟨a, ha, hb, hsucceeded⟩ := Db.hasSucceededAttempt_iff.mp h
  apply Db.hasSucceededAttempt_iff.mpr
  cases w.attemptsGrow_step l with
  | updated hrowwise =>
    obtain ⟨a', ha', hkept⟩ := hrowwise.of_find? (Table.find?_of_mem ha)
    exact ⟨a', Table.mem_of_find? ha', hkept.bookingId.trans hb, hkept.succeeded hsucceeded⟩
  | inserted row hkey hfree hrows =>
    rw [hrows]
    exact ⟨a, List.mem_append_left _ ha, hb, hsucceeded⟩

/-- The intent names an attempt of its booking. -/
def World.NamesAttempt (w : World) (r : PaymentIntent) : Prop :=
  ∃ attemptId key, (r.object none).paymentAttemptId = some attemptId ∧
    w.db.AttemptOf attemptId key ∧ key.bookingId = r.bookingId

/-- Delayed-flow intents name attempts, and a confirmed delayed-flow booking has one that
succeeded. -/
structure World.AttemptsNamed (w : World) : Prop where
  agree : w.FlowsAgree
  priced : w.db.Priced
  fixed : w.RequestsFixed
  named : ∀ r ∈ w.stripe.intents.rows, r.flow = .separateChargesDelayedV1 → w.NamesAttempt r
  paid : ∀ b, w.db.flowOf b = some .separateChargesDelayedV1 → w.db.statusOf b = some .confirmed →
    w.db.hasSucceededAttempt b

theorem World.AttemptsNamed.start {db : Db} (hbookings : db.bookings.rows = [])
    (hpayments : db.payments.rows = []) (hattempts : db.paymentAttempts.rows = []) :
    (World.start db).AttemptsNamed where
  agree := .start hpayments
  priced := .of_no_bookings hbookings
  fixed := .start hattempts
  named _ hr := absurd hr List.not_mem_nil
  paid b _ hst := by
    obtain ⟨r, hr, -⟩ := Db.statusOf_eq_some.mp hst
    have hmem : r ∈ db.bookings.rows := Table.mem_of_find? hr
    rw [hbookings] at hmem
    cases hmem

theorem World.NamesAttempt.step {w : World} {r r' : PaymentIntent} (h : w.NamesAttempt r)
    (hparams : r'.params = r.params) (l : Label) : (w.step l).NamesAttempt r' := by
  obtain ⟨attemptId, key, hnamed, hattempt, hb⟩ := h
  refine ⟨attemptId, key, ?_, w.attemptOf_step hattempt l, ?_⟩
  · unfold PaymentIntent.object at hnamed ⊢
    rw [hparams]
    cases hp : r.params with
    | destinationCharge b amount currency revenue account => rw [hp] at hnamed; exact hnamed
    | offSession b attemptId' amount currency customerId paymentMethodId => rw [hp] at hnamed; exact hnamed
  · unfold PaymentIntent.bookingId at hb ⊢
    rw [hparams]
    exact hb

/-- The delivery that confirms a booking marks the attempt it names. -/
theorem World.AttemptsNamed.delivered {w : World} (hinv : w.AttemptsNamed) {now : Int} {i : PaymentIntent}
    (hfind : w.stripe.intents.find? i.id = some i) (hsucceeded : i.status = .succeeded)
    (hflow : w.db.flowOf i.bookingId = some .separateChargesDelayedV1)
    (hpending : w.db.statusOf i.bookingId = some .pendingPayment) :
    (w.step (.paymentSucceeded now i.id)).db.hasSucceededAttempt i.bookingId := by
  have hmem := Table.mem_of_find? hfind
  have hdelayed : i.flow = .separateChargesDelayedV1 := by
    have h := hinv.agree.intents i hmem
    rw [hflow] at h
    exact (Option.some.inj h).symm
  obtain ⟨r, hr, hst⟩ := Db.statusOf_eq_some.mp hpending
  obtain ⟨pc, hpc⟩ := hinv.priced i.bookingId r hr
  obtain ⟨attemptId, key, hnamed, ⟨a, ha, hkey⟩, hb⟩ := hinv.named i hmem hdelayed
  have hstep : w.step (.paymentSucceeded now i.id) = w.paymentSucceeded now i := by
    simp only [World.step, hfind, hsucceeded, if_true]
  rw [hstep, w.paymentSucceeded_of_not_confirmed hdelayed hr (by rw [hst]; decide) hpc, hnamed]
  apply Db.hasSucceededAttempt_iff.mpr
  have hmark := Table.find?_modify w.db.paymentAttempts attemptId
    (fun a => { a with status := .succeeded, providerPaymentIntentId := some i.id }) (by intro r; rfl) attemptId
  rw [ha, if_pos rfl, Option.map_some] at hmark
  refine ⟨_, Table.mem_of_find? hmark, ?_, rfl⟩
  show a.bookingId = i.bookingId
  rw [← hb, ← hkey, hinv.fixed.slots.key a (Table.mem_of_find? ha)]

theorem World.delayedMove_step (w : World) (l : Label) (hinv : w.FlowsAgree) {b : BookingId}
    {st : BookingStatus} (hst : w.db.statusOf b = some st)
    (hflow : w.db.flowOf b = some .separateChargesDelayedV1) :
    ∃ st', (w.step l).db.statusOf b = some st' ∧ (st' = st ∨ ∃ t, Runs w l t ∧ DelayedMove t b st st') := by
  rcases w.runStep l with h | ⟨t, hruns, h⟩
  · rw [h]
    exact ⟨st, hst, .inl rfl⟩
  · rw [h]
    obtain ⟨st', hst', hmove⟩ := t.delayedMove hinv.linked.paymentsLegacy hst hflow
    exact ⟨st', hst', .inr ⟨t, hruns, hmove⟩⟩

/-- A status of a delayed-flow booking after a step: that of a new booking, or an old one moved. -/
theorem World.delayed_cases (w : World) (l : Label) (hinv : w.FlowsAgree) {b : BookingId} {st' : BookingStatus}
    (hflow : (w.step l).db.flowOf b = some .separateChargesDelayedV1)
    (hst' : (w.step l).db.statusOf b = some st') :
    st' = .pendingPayment ∨ ∃ st, w.db.statusOf b = some st ∧
      w.db.flowOf b = some .separateChargesDelayedV1 ∧
      (st' = st ∨ ∃ t, Runs w l t ∧ DelayedMove t b st st') := by
  obtain ⟨r', hr', rfl⟩ := Db.statusOf_eq_some.mp hst'
  rcases w.row_cases l hr' with ⟨r, hr, -⟩ | ⟨-, now, isDelayedFlow, input, hostId, rules, -, rfl⟩
  · right
    have hrow : w.db.flowOf b = some r.paymentFlowVersion := by
      unfold Db.flowOf
      rw [hr, Option.map_some]
    have hold : w.db.flowOf b = some .separateChargesDelayedV1 := by
      have hnew := (w.grows_step l).flow b _ hrow
      rw [hflow] at hnew
      rw [hrow, hnew]
    have hst : w.db.statusOf b = some r.status := Db.statusOf_eq_some.mpr ⟨r, hr, rfl⟩
    obtain ⟨st, hst₂, hmove⟩ := w.delayedMove_step l hinv hst hold
    rw [hst'] at hst₂
    cases hst₂
    exact ⟨r.status, hst, hold, hmove⟩
  · exact .inl rfl

/-- Cancelled is final. -/
theorem World.cancelled_step (w : World) (l : Label) (hinv : w.FlowsAgree) {b : BookingId}
    (hst : w.db.statusOf b = some .cancelled)
    (hflow : w.db.flowOf b = some .separateChargesDelayedV1) :
    (w.step l).db.statusOf b = some .cancelled := by
  obtain ⟨st', hst', hmove⟩ := w.delayedMove_step l hinv hst hflow
  rw [hst']
  rcases hmove with rfl | ⟨t, -, hmove⟩
  · rfl
  · cases hmove with
    | same => rfl
    | released hlive => rfl

theorem World.AttemptsNamed.step {w : World} (hinv : w.AttemptsNamed) (l : Label) :
    (w.step l).AttemptsNamed := by
  constructor
  case agree => exact hinv.agree.step l
  case priced => exact w.priced_step hinv.priced l
  case fixed => exact hinv.fixed.step l
  case named =>
    intro r hr hflow
    cases w.intentOrigin l hr with
    | old s hs hid hparams hkey hstatus =>
      refine (hinv.named s hs ?_).step hparams l
      unfold PaymentIntent.flow at hflow ⊢
      rw [← hparams]
      exact hflow
    | checkout call cb hcall hphase hid hparams hkey hstatus =>
      unfold PaymentIntent.flow at hflow
      rw [hparams] at hflow
      cases hflow
    | charge call claim hcall hphase hnew hid hparams hkey =>
      obtain ⟨hb, hattempt⟩ := hinv.fixed.claimed call (Table.mem_of_find? hcall) claim hphase
      refine ⟨claim.attemptId, claim.idempotencyKey, ?_, w.attemptOf_step hattempt l, ?_⟩
      · unfold PaymentIntent.object
        rw [hparams]
        rfl
      · unfold PaymentIntent.bookingId
        rw [hparams]
        exact hb
  case paid =>
    intro b hflow hconfirmed
    rcases w.delayed_cases l hinv.agree hflow hconfirmed with hpending | ⟨st, hst, hold, hmove⟩
    · cases hpending
    · rcases hmove with rfl | ⟨t, hruns, hmove⟩
      · exact w.hasSucceededAttempt_step (hinv.paid b hold hst) l
      · cases hmove with
        | same => exact w.hasSucceededAttempt_step (hinv.paid b hold hst) l
        | paid now intent ht hb =>
          subst ht
          cases hruns with
          | transaction t halone => cases halone
          | paymentSucceeded now i hfind hsucceeded =>
            rw [PaymentIntent.object_bookingId] at hb
            cases hb
            exact hinv.delivered hfind hsucceeded hold hst

end HostPlatform
