-- SUMMARY: When every received legacy payment has its ledger rows and its payout.
import HostPlatform.Safety.LegacyCheckout
import HostPlatform.WebhookState

/-!
# Received money is booked

The legacy handler marks the payment paid and then confirms the booking, which
writes the ledger rows and the payout. It returns without them when the booking no
longer waits for payment, as after an expired hold or a cancellation.
-/

namespace HostPlatform

open Lib (Table)
open Lib.Transition

/-! ## Charges in the ledger -/

/-- The row was written for a payment. -/
def LedgerEntry.isCharge (e : LedgerEntry) : Bool :=
  match e.externalReference with
  | .paymentIntent _ => true
  | .refund _ => false

/-- The charge rows of a booking. -/
def Db.chargesOf (db : Db) (b : BookingId) : List LedgerEntry :=
  db.ledgerEntries.filter fun e => decide (e.bookingId = b) && e.isCharge

/-- The charge rows of a PaymentIntent. -/
def Db.chargeEntries (db : Db) (i : PaymentIntentId) : List LedgerEntry :=
  db.ledgerEntries.filter fun e => decide (e.externalReference = .paymentIntent i)

def Db.payoutCount (db : Db) (b : BookingId) : Nat :=
  db.payouts.rows.countP fun p => decide (p.bookingId = b)

theorem mem_paymentLedgerRows {booking : Booking} {pc : PriceComponents} {i : PaymentIntentId}
    {e : LedgerEntry} (he : e ∈ paymentLedgerRows booking pc i) :
    e.bookingId = booking.id ∧ e.externalReference = .paymentIntent i := by
  unfold paymentLedgerRows ledgerEntry at he
  simp only [List.mem_cons, List.not_mem_nil, or_false] at he
  rcases he with rfl | rfl | rfl | rfl | rfl | rfl | rfl | rfl
  all_goals exact ⟨rfl, rfl⟩

theorem paymentLedgerRows_ne_nil (booking : Booking) (pc : PriceComponents) (i : PaymentIntentId) :
    paymentLedgerRows booking pc i ≠ [] := nofun

/-- The rows depend on the stay alone. -/
theorem paymentLedgerRows_sameStay {booking booking' : Booking} (h : booking.SameStay booking')
    (pc : PriceComponents) (i : PaymentIntentId) :
    paymentLedgerRows booking' pc i = paymentLedgerRows booking pc i := by
  unfold paymentLedgerRows ledgerEntry
  rw [h.id, h.propertyId, h.hostId]

theorem paymentLedgerRows_chargesOf (booking : Booking) (pc : PriceComponents) (i : PaymentIntentId)
    (b : BookingId) :
    (paymentLedgerRows booking pc i).filter (fun e => decide (e.bookingId = b) && e.isCharge) =
      if b = booking.id then paymentLedgerRows booking pc i else [] := by
  split
  · rename_i hb
    apply List.filter_eq_self.mpr
    intro e he
    obtain ⟨hbooking, href⟩ := mem_paymentLedgerRows he
    simp only [LedgerEntry.isCharge, href, hbooking, hb, decide_true, Bool.and_self]
  · rename_i hb
    apply List.filter_eq_nil_iff.mpr
    intro e he hcharge
    have hbooking := (mem_paymentLedgerRows he).1
    simp only [Bool.and_eq_true, decide_eq_true_eq] at hcharge
    exact hb (hcharge.1.symm.trans hbooking)

/-! ## What a transaction can book -/

/-- A transaction leaves charges and payouts as they are, or books a booking that
waited for its payment. -/
inductive ChargeEffect (db db' : Db) : Prop
  | kept (hcharges : ∀ b, db'.chargesOf b = db.chargesOf b)
      (hpayouts : ∀ b, db'.payoutCount b = db.payoutCount b)
  | booked (booking : Booking) (pc : PriceComponents) (i : PaymentIntentId)
      (hbooking : db.bookings.find? booking.id = some booking) (hpending : booking.status = .pendingPayment)
      (hpc : db.priceComponents.find? booking.id = some pc)
      (hstatus : db'.statusOf booking.id ≠ some .pendingPayment)
      (hcharges : ∀ b, db'.chargesOf b =
        db.chargesOf b ++ if b = booking.id then paymentLedgerRows booking pc i else [])
      (hpayouts : ∀ b, db'.payoutCount b = db.payoutCount b + if b = booking.id then 1 else 0)

theorem ChargeEffect.of_same {db db' : Db} (hledger : db'.ledgerEntries = db.ledgerEntries)
    (hpayouts : db'.payouts = db.payouts) : ChargeEffect db db' := by
  apply kept
  · intro b
    simp only [Db.chargesOf, hledger]
  · intro b
    simp only [Db.payoutCount, hpayouts]

theorem ChargeEffect.of_sameMoney {db db' : Db} (h : db.SameMoney db') : ChargeEffect db db' :=
  .of_same h.ledgerEntries h.payouts

/-- An update of payouts keeps whose they are. -/
theorem payoutCount_updateWhere (db : Db) (q : Payout → Bool) (f : Payout → Payout) (hf)
    (hb : ∀ p, (f p).bookingId = p.bookingId) (b : BookingId) :
    Db.payoutCount { db with payouts := db.payouts.updateWhere q f hf } b = db.payoutCount b := by
  simp only [Db.payoutCount, Table.rows_updateWhere, List.countP_map]
  apply List.countP_congr
  intro p _
  simp only [Function.comp]
  split
  · rw [hb p]
  · rfl

theorem payoutCount_settlePayouts (db : Db) (b : BookingId) (fullyRefunded : Bool) (reversal : Int)
    (b' : BookingId) :
    (settlePayouts db b fullyRefunded reversal).payoutCount b' = db.payoutCount b' := by
  unfold settlePayouts
  split
  · exact payoutCount_updateWhere db _ _ _ (by intro p; rfl) b'
  · split
    · exact payoutCount_updateWhere db _ _ _ (by intro p; rfl) b'
    · rfl

theorem refundLedgerRows_chargesOf (refund : RefundObject) (booking : Booking) (pc : PriceComponents)
    (reversal : RefundReversalResult) (b : BookingId) :
    (refundLedgerRows refund booking pc reversal).filter
      (fun e => decide (e.bookingId = b) && e.isCharge) = [] := by
  apply List.filter_eq_nil_iff.mpr
  intro e he hcharge
  obtain ⟨row, -, rfl⟩ := List.mem_map.mp he
  simp [LedgerEntry.isCharge, ledgerEntry] at hcharge

theorem chargesOf_append {db db' : Db} {rows : List LedgerEntry}
    (h : db'.ledgerEntries = db.ledgerEntries ++ rows) (b : BookingId) :
    db'.chargesOf b = db.chargesOf b ++
      rows.filter fun e => decide (e.bookingId = b) && e.isCharge := by
  simp only [Db.chargesOf, h, List.filter_append]

theorem payoutCount_append {db db' : Db} {p : Payout} (h : db'.payouts.rows = db.payouts.rows ++ [p])
    (b : BookingId) : db'.payoutCount b = db.payoutCount b + if b = p.bookingId then 1 else 0 := by
  simp only [Db.payoutCount, h, List.countP_append, List.countP_singleton, decide_eq_true_eq,
    eq_comm (a := b)]

theorem onLegacyPaymentSucceeded_chargeEffect {now : Int} {b : BookingId} {i : PaymentIntentId}
    {db db' : Db} {u : Unit} (h : onLegacyPaymentSucceeded now b i db = .ok (u, db')) :
    ChargeEffect db db' := by
  rcases onLegacyPaymentSucceeded_eq_ok h with rfl | ⟨-, rfl⟩ | ⟨booking, pc, hbooking, hpending, hpc, rfl⟩
  · exact .of_same rfl rfl
  · exact .of_same rfl rfl
  · obtain rfl : booking.id = b := Table.key_of_find? hbooking
    refine .booked booking pc i hbooking hpending hpc ?_ ?_ ?_
    · intro hst
      have hconfirmed : (confirmPendingBooking (updatePaymentByIntent db i fun p =>
          { p with status := .paid }) booking.id).statusOf booking.id = some .pendingPayment := hst
      rw [statusOf_confirmPendingBooking] at hconfirmed
      split at hconfirmed
      · cases hconfirmed
      · rename_i hnot
        exact hnot ⟨rfl, hconfirmed⟩
    · intro b
      rw [← paymentLedgerRows_chargesOf]
      exact chargesOf_append rfl b
    · intro b
      exact payoutCount_append (p := payoutRow now booking pc db.payouts.freshKey) rfl b

theorem onRefundEvent_chargeEffect {refund : RefundObject} {db db' : Db} {u : Unit}
    (h : onRefundEvent refund db = .ok (u, db')) : ChargeEffect db db' := by
  rcases onRefundEvent_eq_ok h with rfl | ⟨payment, marked, -, -, hmarked, hrecord⟩
  · exact .of_same rfl rfl
  · have hdb := (markRefundSucceeded_eq_some hmarked).2
    rcases recordRefund_eq_ok hrecord with ⟨-, rfl⟩ | ⟨pc, booking, reversal, -, -, -, rfl⟩
    · rw [hdb]
      exact .of_same rfl rfl
    · apply ChargeEffect.kept
      · intro b
        rw [settlePayouts_frame]
        simp only [Db.chargesOf, List.filter_append, refundLedgerRows_chargesOf, List.append_nil]
        rw [hdb]
      · intro b
        rw [payoutCount_settlePayouts, hdb]
        rfl

theorem Tx.chargeEffect (t : Tx) (db : Db) : ChargeEffect db (t.exec db) := by
  have hsame : ChargeEffect db db := .of_same rfl rfl
  cases t with
  | createBooking now isDelayedFlow input => exact .of_sameMoney (createBooking_sameMoney now isDelayedFlow input db)
  | cancelBooking now input =>
    refine Lib.commit_of (P := fun db' : Db => ChargeEffect db db') hsame fun r db' h => ?_
    exact .of_sameMoney (cancelBooking_sameMoney h)
  | releaseExpiredHold now b => exact .of_sameMoney (releaseExpiredHold_sameMoney now b db)
  | discardUnpaidBooking now booking => exact .of_sameMoney (discardUnpaidBooking_sameMoney now booking db)
  | createCalendarFeed p name feedUrl => exact .of_sameMoney (Tx.calendarFrame rfl db).sameMoney
  | setCalendarFeedActive today p feedId isActive => exact .of_sameMoney (Tx.calendarFrame rfl db).sameMoney
  | deleteCalendarFeed today p feedId => exact .of_sameMoney (Tx.calendarFrame rfl db).sameMoney
  | replaceFeedEvents today p feedId events etag lastModified =>
    exact .of_sameMoney (Tx.calendarFrame rfl db).sameMoney
  | savePaymentMethod b paymentMethodId => exact .of_sameMoney (savePaymentMethod_sameMoney b paymentMethodId db)
  | decideCharge now token b amountMinor currency =>
    obtain ⟨attempts, hdb⟩ := decideCharge_eq now token b amountMinor currency db
    rw [hdb]
    exact .of_same rfl rfl
  | recordChargeOutcome now b attemptId claimToken status details =>
    obtain ⟨bookings, attempts, hdb⟩ := recordChargeOutcome_eq now b attemptId claimToken status details db
    rw [hdb]
    exact .of_same rfl rfl
  | upsertPayment b intentId guestTotalMinor currency =>
    refine Lib.commit_of (P := fun db' : Db => ChargeEffect db db') hsame fun u db' h => ?_
    obtain ⟨-, -, -, -, -, -, hframe⟩ := upsertPayment_eq_ok h
    rw [hframe]
    exact .of_same rfl rfl
  | paymentSucceeded now intent =>
    refine Lib.commit_of (P := fun db' : Db => ChargeEffect db db') hsame fun input db' h => ?_
    obtain rfl | rfl | ⟨b, -, u, hlegacy⟩ := onPaymentSucceeded_eq_ok h
    · exact hsame
    · obtain ⟨bookings, attempts, hdb⟩ := onNewFlowPaymentSucceeded_eq now intent db
      rw [hdb]
      exact .of_same rfl rfl
    · exact onLegacyPaymentSucceeded_chargeEffect hlegacy
  | createEntitlement input =>
    show ChargeEffect db (HostPlatform.createEntitlement input db)
    rw [createEntitlement_frame]
    exact .of_same rfl rfl
  | refundEvent refund =>
    refine Lib.commit_of (P := fun db' : Db => ChargeEffect db db') hsame fun u db' h => ?_
    exact onRefundEvent_chargeEffect h
  | disputeCreated dispute =>
    show ChargeEffect db (onDisputeCreated dispute db)
    unfold onDisputeCreated
    split
    · exact hsame
    · apply ChargeEffect.kept
      · intro b
        rfl
      · intro b
        exact payoutCount_updateWhere _ _ _ _ (by intro p; rfl) b
  | _ => exact .of_same rfl rfl

/-! ## Booked at most once -/

/-- A booking has no charge and no payout, or the rows of one payment and one payout. -/
inductive BookedOnce (db : Db) (b : BookingId) : Prop
  | unbooked (hcharges : db.chargesOf b = []) (hpayouts : db.payoutCount b = 0)
  | booked (booking : Booking) (pc : PriceComponents) (i : PaymentIntentId)
      (hbooking : db.bookings.find? b = some booking) (hpc : db.priceComponents.find? b = some pc)
      (hstatus : db.statusOf b ≠ some .pendingPayment)
      (hcharges : db.chargesOf b = paymentLedgerRows booking pc i) (hpayouts : db.payoutCount b = 1)

theorem Tx.price_stays (t : Tx) {db : Db} {b : BookingId} {r : Booking} {pc : PriceComponents}
    (hr : db.bookings.find? b = some r) (hpc : db.priceComponents.find? b = some pc) :
    (t.exec db).priceComponents.find? b = some pc := by
  by_cases ht : ∃ now isDelayedFlow input, t = .createBooking now isDelayedFlow input
  · obtain ⟨now, isDelayedFlow, input, rfl⟩ := ht
    refine Lib.commit_of (P := fun db' : Db => db'.priceComponents.find? b = some pc) hpc fun c db' h => ?_
    rcases createBooking_eq_ok h with rfl | ⟨row, -, hrow⟩
    · exact hpc
    · obtain ⟨_, -, hfind⟩ := hrow.priced
      rw [hfind, if_neg ?_]
      · exact hpc
      · rintro rfl
        rw [hrow.id_fresh, Table.find?_freshKey] at hr
        cases hr
  · rw [Tx.priceComponents_eq fun now isDelayedFlow input h => ht ⟨now, isDelayedFlow, input, h⟩]
    exact hpc

/-- What is booked stays booked while the charges and payouts of the booking stay. -/
theorem BookedOnce.stays {db : Db} {b : BookingId} (h : BookedOnce db b) (t : Tx)
    (hcharges : (t.exec db).chargesOf b = db.chargesOf b)
    (hpayouts : (t.exec db).payoutCount b = db.payoutCount b) : BookedOnce (t.exec db) b := by
  cases h with
  | unbooked hnone hzero => exact .unbooked (hcharges.trans hnone) (hpayouts.trans hzero)
  | booked booking pc i hbooking hpc hstatus hrows hone =>
    obtain ⟨booking', hbooking', hstay⟩ := (t.bookingsGrow db).stay b booking hbooking
    refine .booked booking' pc i hbooking' (t.price_stays hbooking hpc) ?_ ?_ (hpayouts.trans hone)
    · intro hpending
      obtain ⟨r, hr, hst⟩ := Db.statusOf_eq_some.mp hpending
      have hwas := (t.bookingsGrow db).pending b booking r hbooking hr hst
      exact hstatus (Db.statusOf_eq_some.mpr ⟨booking, hbooking, hwas⟩)
    · rw [hcharges, hrows, paymentLedgerRows_sameStay hstay]

theorem BookedOnce.exec {db : Db} (h : ∀ b, BookedOnce db b) (t : Tx) (b : BookingId) :
    BookedOnce (t.exec db) b := by
  cases t.chargeEffect db with
  | kept hcharges hpayouts => exact (h b).stays t (hcharges b) (hpayouts b)
  | booked booking pc i hbooking hpending hpc hstatus hcharges hpayouts =>
    have hcharges := hcharges b
    have hpayouts := hpayouts b
    by_cases hb : b = booking.id
    · subst hb
      rw [if_pos rfl] at hcharges hpayouts
      cases h booking.id with
      | unbooked hnone hzero =>
        obtain ⟨booking', hbooking', hstay⟩ := (t.bookingsGrow db).stay _ booking hbooking
        refine .booked booking' pc i hbooking' (t.price_stays hbooking hpc) hstatus ?_ ?_
        · rw [hcharges, hnone, List.nil_append, paymentLedgerRows_sameStay hstay]
        · rw [hpayouts, hzero]
      | booked _ _ _ _ _ hnot _ _ =>
        exact absurd (Db.statusOf_eq_some.mpr ⟨booking, hbooking, hpending⟩) hnot
    · rw [if_neg hb, List.append_nil] at hcharges
      rw [if_neg hb, Nat.add_zero] at hpayouts
      exact (h b).stays t hcharges hpayouts

/-! ## Charges and intents -/

/-- The charge rows of an intent belong to the booking the intent was created for. -/
def World.ChargesLinked (w : World) : Prop :=
  ∀ e ∈ w.db.ledgerEntries, ∀ i, e.externalReference = .paymentIntent i →
    w.view.legacyIntent e.bookingId i

/-- The ledger only grows, by charges of a succeeded legacy intent or by refund rows. -/
theorem World.ledger_grows (w : World) (l : Label) :
    ∃ rows, (w.step l).db.ledgerEntries = w.db.ledgerEntries ++ rows ∧
      ∀ e ∈ rows, ∀ i, e.externalReference = .paymentIntent i → w.view.legacyIntent e.bookingId i := by
  have hsame : (w.step l).refundView.ledgerEntries = w.db.ledgerEntries →
      ∃ rows, (w.step l).db.ledgerEntries = w.db.ledgerEntries ++ rows ∧
        ∀ e ∈ rows, ∀ i, e.externalReference = .paymentIntent i → w.view.legacyIntent e.bookingId i :=
    fun hledger => ⟨[], by rw [List.append_nil]; exact hledger, nofun⟩
  cases w.refundStep l with
  | confirmed s payment marked hlabel hfind hsucceeded hpayment hmarked hrecord h =>
    have hdb := (markRefundSucceeded_eq_some hmarked).2
    rcases recordRefund_eq_ok hrecord with ⟨-, hnone⟩ | ⟨pc, booking, reversal, -, -, -, hrows⟩
    · apply hsame
      show (w.step l).db.ledgerEntries = _
      rw [hnone, hdb]
      rfl
    · refine ⟨refundLedgerRows s.object booking pc reversal, ?_, fun e he i href => ?_⟩
      · rw [hrows, settlePayouts_frame, hdb]
      · obtain ⟨row, -, rfl⟩ := List.mem_map.mp he
        cases href
  | paid booking pc j h hlabel hfind hflow hbooking =>
    refine ⟨paymentLedgerRows booking pc j.id, congrArg Refunds.ledgerEntries h, fun e he i href => ?_⟩
    obtain ⟨hb, href'⟩ := mem_paymentLedgerRows he
    rw [href'] at href
    cases href
    rw [hb, hbooking]
    exact ⟨j, hfind, rfl, hflow⟩
  | frame h => exact hsame (congrArg Refunds.ledgerEntries h)
  | started input phase hinput hphase h => exact hsame (congrArg Refunds.ledgerEntries h)
  | ended call h => exact hsame (congrArg Refunds.ledgerEntries h)
  | read call phase hcall hread h => exact hsame (congrArg Refunds.ledgerEntries h)
  | inserted call hlabel hcall hphase h => exact hsame (congrArg Refunds.ledgerEntries h)
  | created call k paymentIntent hcall hphase hkey h => exact hsame (congrArg Refunds.ledgerEntries h)
  | createdLost call k paymentIntent hcall hphase hkey h => exact hsame (congrArg Refunds.ledgerEntries h)
  | linked call k i hlabel hcall hphase h => exact hsame (congrArg Refunds.ledgerEntries h)
  | settled j status h => exact hsame (congrArg Refunds.ledgerEntries h)
  | failed s hfind hfailed h => exact hsame (congrArg Refunds.ledgerEntries h)

theorem World.ChargesLinked.step {w : World} (h : w.ChargesLinked) (l : Label) :
    (w.step l).ChargesLinked := by
  obtain ⟨rows, hledger, hrows⟩ := w.ledger_grows l
  intro e he i href
  rw [hledger] at he
  apply (w.grows_step l).intent
  cases List.mem_append.mp he with
  | inl hold => exact h e hold i href
  | inr hnew => exact hrows e hnew i href

theorem World.chargeEntries_grow (w : World) (l : Label) {i : PaymentIntentId}
    (h : w.db.chargeEntries i ≠ []) : (w.step l).db.chargeEntries i ≠ [] := by
  obtain ⟨rows, hledger, -⟩ := w.ledger_grows l
  unfold Db.chargeEntries
  rw [hledger, List.filter_append]
  exact List.append_ne_nil_of_left_ne_nil h _

theorem Checkouts.legacyIntent_inj {v : Checkouts} {b b' : BookingId} {i : PaymentIntentId}
    (h : v.legacyIntent b i) (h' : v.legacyIntent b' i) : b = b' := by
  obtain ⟨r, hr, hb, -⟩ := h
  obtain ⟨r', hr', hb', -⟩ := h'
  rw [hr] at hr'
  cases hr'
  exact hb.symm.trans hb'

/-- The ledger holds one set of charge rows of the intent, and the booking has one payout. -/
def ChargeRecorded (db : Db) (b : BookingId) (i : PaymentIntentId) : Prop :=
  ∃ booking pc, db.bookings.find? b = some booking ∧ db.priceComponents.find? b = some pc ∧
    db.chargeEntries i = paymentLedgerRows booking pc i ∧ db.payoutCount b = 1

/-- The database books no charge twice, and every charge under the booking of its intent. -/
structure World.BooksOnce (w : World) : Prop where
  once : ∀ b, BookedOnce w.db b
  linked : w.ChargesLinked

/-- A charge of which the ledger has any row is recorded, once. -/
theorem World.BooksOnce.recorded {w : World} (h : w.BooksOnce) {b : BookingId} {i : PaymentIntentId}
    (hintent : w.view.legacyIntent b i) (hne : w.db.chargeEntries i ≠ []) : ChargeRecorded w.db b i := by
  obtain ⟨e, he⟩ := List.exists_mem_of_ne_nil _ hne
  obtain ⟨hledger, href⟩ := List.mem_filter.mp he
  have href := of_decide_eq_true href
  obtain rfl : e.bookingId = b := Checkouts.legacyIntent_inj (h.linked e hledger i href) hintent
  have hcharge : e ∈ w.db.chargesOf e.bookingId := by
    apply List.mem_filter.mpr
    simp only [hledger, LedgerEntry.isCharge, href, decide_true, Bool.and_self, and_self]
  cases h.once e.bookingId with
  | unbooked hnone _ =>
    rw [hnone] at hcharge
    cases hcharge
  | booked booking pc j hbooking hpc _ hrows hone =>
    -- The rows of the booking are those of one intent, which is the one of `e`.
    rw [hrows] at hcharge
    obtain rfl : i = j := by
      have hj := (mem_paymentLedgerRows hcharge).2
      rw [href] at hj
      cases hj
      rfl
    refine ⟨booking, pc, hbooking, hpc, ?_, hone⟩
    rw [← hrows]
    apply List.filter_congr
    intro e' he'
    cases href' : e'.externalReference with
    | refund s => simp [LedgerEntry.isCharge, href']
    | paymentIntent j =>
      by_cases hb : e'.bookingId = e.bookingId
      · have hmem : e' ∈ w.db.chargesOf e.bookingId := by
          apply List.mem_filter.mpr
          simp only [he', hb, LedgerEntry.isCharge, href', decide_true, Bool.and_self, and_self]
        rw [hrows] at hmem
        have hj := (mem_paymentLedgerRows hmem).2
        rw [href'] at hj
        simp [LedgerEntry.isCharge, href', hb, hj]
      · have hj : j ≠ i := by
          rintro rfl
          exact hb (Checkouts.legacyIntent_inj (h.linked e' he' j href') hintent)
        simp [LedgerEntry.isCharge, href', hb, hj]

theorem World.BooksOnce.step {w : World} (h : w.BooksOnce) (l : Label) : (w.step l).BooksOnce := by
  refine ⟨?_, h.linked.step l⟩
  rcases w.dbStep l with hsame | ⟨t, ht⟩
  · rw [hsame]
    exact h.once
  · rw [ht]
    exact BookedOnce.exec h.once t

/-! ## Where received money comes from -/

/-- A received payment was received before, is paid by a delivery, or is refunded. -/
inductive Receives (w : World) (l : Label) (p : Payment) : Prop
  | before (q : Payment) (hq : q ∈ w.db.payments.rows) (hreceived : q.status.received)
      (hsame : p.providerPaymentIntentId = q.providerPaymentIntentId)
  | paid (q : Payment) (i : PaymentIntent) (hq : q ∈ w.db.payments.rows)
      (hnamed : q.providerPaymentIntentId = some i.id)
      (hsame : p.providerPaymentIntentId = q.providerPaymentIntentId)
      (hlabel : ∃ now, l = .paymentSucceeded now i.id) (hfind : w.stripe.intents.find? i.id = some i)
      (hsucceeded : i.status = .succeeded)
  | refunded (s : StripeRefund) (hfind : w.stripe.refunds.find? s.id = some s)
      (hnamed : p.providerPaymentIntentId = some s.paymentIntent)

theorem World.receives (w : World) (l : Label) {p : Payment} (hp : p ∈ (w.step l).db.payments.rows)
    (hreceived : p.status.received) : Receives w l p := by
  have hp : p ∈ (w.step l).view.payments.rows := hp
  have hold : p ∈ w.view.payments.rows → Receives w l p := fun hp => .before p hp hreceived rfl
  cases w.checkoutStep l with
  | frame h => rw [h] at hp; exact hold hp
  | started b hflow h => rw [h] at hp; exact hold hp
  | ended call h => rw [h] at hp; exact hold hp
  | read call phase hcall hread h => rw [h] at hp; exact hold hp
  | reused call cb i hcall hphase h => rw [h] at hp; exact hold hp
  | created call cb hlabel hcall hphase hpos h => rw [h] at hp; exact hold hp
  | createdLost call cb hcall hphase h => rw [h] at hp; exact hold hp
  | upserted call cb i db hcall hphase hupsert h =>
    rw [h] at hp
    rcases mem_upsertPayment hupsert hp with ⟨hp, -⟩ | ⟨-, -, hst, -⟩
    · exact hold hp
    · rw [hst] at hreceived
      cases hreceived
  | moved i status hfind hmove h => rw [h] at hp; exact hold hp
  | charged call claim status hcall hphase hnew h => rw [h] at hp; exact hold hp
  | paid i hfind hsucceeded hflow hstatus h hlabel =>
    rw [h] at hp
    obtain ⟨q, hq, rfl⟩ := (Table.mem_updateWhere (by intro r; rfl)).mp hp
    split
    · rename_i hnamed
      exact .paid q i hq (by simpa using hnamed) rfl hlabel hfind hsucceeded
    · rename_i hnamed
      rw [if_neg hnamed] at hreceived
      exact .before q hq hreceived rfl
  | failed intent h =>
    rw [h] at hp
    obtain ⟨q, hq, rfl⟩ := (Table.mem_updateWhere (by intro r; rfl)).mp hp
    split at hreceived
    · cases hreceived
    · rename_i hnamed
      rw [if_neg hnamed]
      exact .before q hq hreceived rfl
  | refunded b fullyRefunded hstatus h hrefund =>
    rw [h] at hp
    obtain ⟨q, hq, rfl⟩ := (Table.mem_updateWhere (by intro r; rfl)).mp hp
    split
    · rename_i hb
      obtain ⟨s, payment, hfind, hpayment, hpb⟩ := hrefund
      obtain ⟨hmem, hnamed⟩ : payment ∈ w.db.payments.rows ∧
          payment.providerPaymentIntentId = some s.paymentIntent :=
        ⟨List.mem_of_find?_eq_some hpayment, by simpa using List.find?_some hpayment⟩
      obtain rfl : q = payment := Table.key_inj hq hmem ((beq_iff_eq.mp hb).trans hpb.symm)
      exact .refunded s hfind hnamed
    · rename_i hb
      rw [if_neg hb] at hreceived
      exact .before q hq hreceived rfl

/-- A refund call pays back what an old one does, or a received payment. -/
theorem World.refundCall_input (w : World) (l : Label) {c : RefundCall}
    (hc : c ∈ (w.step l).refundCalls.rows) :
    (∃ d ∈ w.refundCalls.rows, d.input = c.input) ∨
      ∃ p ∈ w.db.payments.rows, p.status.received ∧
        c.input.providerPaymentIntentId = p.providerPaymentIntentId := by
  have hc : c ∈ (w.step l).refundView.calls.rows := hc
  have hold : c ∈ w.refundView.calls.rows → ∃ d ∈ w.refundCalls.rows, d.input = c.input :=
    fun hc => ⟨c, hc, rfl⟩
  have hset : ∀ {call : RefundCall} {phase : RefundPhase}, w.refundCalls.find? call.id = some call →
      c ∈ (w.refundView.setPhase call phase).calls.rows → ∃ d ∈ w.refundCalls.rows, d.input = c.input := by
    intro call phase hcall hc
    cases Refunds.mem_setPhase hcall hc with
    | inl hc => exact ⟨c, hc, rfl⟩
    | inr hset => exact ⟨call, Table.mem_of_find? hcall, by rw [hset]⟩
  cases w.refundStep l with
  | frame h => rw [h] at hc; exact .inl (hold hc)
  | started input phase hinput hphase h hpaid =>
    rw [h] at hc
    cases List.mem_append.mp hc with
    | inl hc => exact .inl (hold hc)
    | inr hnew =>
      obtain ⟨p, hp, hreceived, hsame⟩ := hpaid
      rw [List.mem_singleton.mp hnew]
      exact .inr ⟨p, Table.mem_of_find? hp, hreceived, hsame⟩
  | ended call h => rw [h] at hc; exact .inl (hold (Refunds.mem_endCall hc))
  | read call phase hcall hread h => rw [h] at hc; exact .inl (hset hcall hc)
  | inserted call hlabel hcall hphase h => rw [h] at hc; exact .inl (hset hcall hc)
  | created call k paymentIntent hcall hphase hkey h => rw [h] at hc; exact .inl (hset hcall hc)
  | createdLost call k paymentIntent hcall hphase hkey h =>
    rw [h] at hc
    exact .inl (hold (Refunds.mem_endCall hc))
  | linked call k i hlabel hcall hphase h => rw [h] at hc; exact .inl (hold (Refunds.mem_endCall hc))
  | settled j status h => rw [h] at hc; exact .inl (hold hc)
  | confirmed s payment marked hlabel hfind hsucceeded hpayment hmarked hrecord h =>
    rw [h] at hc
    exact .inl (hold hc)
  | failed s hfind hfailed h => rw [h] at hc; exact .inl (hold hc)
  | paid booking pc i h => rw [h] at hc; exact .inl (hold hc)

/-- A refund at Stripe pays back an intent that an old one does, or a refund call. -/
theorem World.stripeRefund_intent (w : World) (l : Label) {s : StripeRefund}
    (hs : s ∈ (w.step l).stripe.refunds.rows) :
    (∃ r ∈ w.stripe.refunds.rows, r.paymentIntent = s.paymentIntent) ∨
      ∃ c ∈ w.refundCalls.rows, c.input.providerPaymentIntentId = some s.paymentIntent := by
  have hs : s ∈ (w.step l).refundView.stripeRefunds.rows := hs
  have hold : s ∈ w.refundView.stripeRefunds.rows →
      ∃ r ∈ w.stripe.refunds.rows, r.paymentIntent = s.paymentIntent := fun hs => ⟨s, hs, rfl⟩
  cases w.refundStep l with
  | frame h => rw [h] at hs; exact .inl (hold hs)
  | started input phase hinput hphase h => rw [h] at hs; exact .inl (hold hs)
  | ended call h => rw [h] at hs; exact .inl (hold hs)
  | read call phase hcall hread h => rw [h] at hs; exact .inl (hold hs)
  | inserted call hlabel hcall hphase h => rw [h] at hs; exact .inl (hold hs)
  | created call k paymentIntent hcall hphase hkey h hintent =>
    rw [h] at hs
    cases List.mem_append.mp hs with
    | inl hs => exact .inl (hold hs)
    | inr hnew =>
      rw [List.mem_singleton.mp hnew]
      exact .inr ⟨call, Table.mem_of_find? hcall, hintent⟩
  | createdLost call k paymentIntent hcall hphase hkey h hintent =>
    rw [h] at hs
    cases List.mem_append.mp hs with
    | inl hs => exact .inl (hold hs)
    | inr hnew =>
      rw [List.mem_singleton.mp hnew]
      exact .inr ⟨call, Table.mem_of_find? hcall, hintent⟩
  | linked call k i hlabel hcall hphase h => rw [h] at hs; exact .inl (hold hs)
  | settled j status h =>
    rw [h] at hs
    obtain ⟨r, hr, rfl⟩ := (Table.mem_updateWhere (by intro r; rfl)).mp hs
    refine .inl ⟨r, hr, ?_⟩
    split
    · rfl
    · rfl
  | confirmed r payment marked hlabel hfind hsucceeded hpayment hmarked hrecord h =>
    rw [h] at hs
    exact .inl (hold hs)
  | failed r hfind hfailed h => rw [h] at hs; exact .inl (hold hs)
  | paid booking pc i h => rw [h] at hs; exact .inl (hold hs)

/-! ## Received money -/

/-- Every received payment of a legacy booking has one set of ledger rows and one payout. -/
def MoneyBooked (db : Db) : Prop :=
  ∀ p ∈ db.payments.rows, db.flowOf p.bookingId = some .destinationChargeLegacy → p.status.received →
    ∃ i, p.providerPaymentIntentId = some i ∧ ChargeRecorded db p.bookingId i

/-- A delivery that is about to mark a payment paid finds its booking waiting for it,
or its charge in the ledger. -/
def BooksCharge (w : World) (l : Label) : Prop :=
  ∀ now i p, l = .paymentSucceeded now i →
    (∃ r, w.stripe.intents.find? i = some r ∧ r.status = .succeeded) →
    w.db.paymentByIntent i = some p → p.status ≠ .paid →
      w.db.statusOf p.bookingId = some .pendingPayment ∨ w.db.chargeEntries i ≠ []

/-- Whatever money came from, the ledger has its charge. -/
structure World.MoneyTraced (w : World) : Prop where
  payments : ∀ p ∈ w.db.payments.rows, p.status.received →
    ∃ i, p.providerPaymentIntentId = some i ∧ w.db.chargeEntries i ≠ []
  calls : ∀ c ∈ w.refundCalls.rows, ∀ i, c.input.providerPaymentIntentId = some i →
    w.db.chargeEntries i ≠ []
  refunds : ∀ s ∈ w.stripe.refunds.rows, w.db.chargeEntries s.paymentIntent ≠ []

/-! ### The delivery that pays -/

section

variable {w : World} {now : Int} {i : PaymentIntent} {p : Payment}

/-- A legacy delivery whose transaction commits. -/
theorem World.step_paymentSucceeded {db : Db} (hfind : w.stripe.intents.find? i.id = some i)
    (hsucceeded : i.status = .succeeded) (hflow : i.flow = .destinationChargeLegacy)
    (h : onLegacyPaymentSucceeded now i.bookingId i.id w.db = .ok ((), db)) :
    (w.step (.paymentSucceeded now i.id)).db = db := by
  have hnew : (i.object none).paymentFlowVersion ≠ some .separateChargesDelayedV1 := by
    rw [Ne, PaymentIntent.object_paymentFlowVersion, hflow]
    decide
  simp only [step, hfind, hsucceeded, if_true, paymentSucceeded, onPaymentSucceeded,
    PaymentIntent.object_bookingId, PaymentIntent.object_id, if_neg hnew, h, Except.map]

/-- The booking no longer waits for payment: the payment is marked, and nothing is booked. -/
theorem World.step_paymentSucceeded_late (hfind : w.stripe.intents.find? i.id = some i)
    (hsucceeded : i.status = .succeeded) (hflow : i.flow = .destinationChargeLegacy)
    (hp : w.db.paymentByIntent i.id = some p) (hunpaid : p.status ≠ .paid)
    (hlate : w.db.statusOf i.bookingId ≠ some .pendingPayment) :
    (w.step (.paymentSucceeded now i.id)).db =
      updatePaymentByIntent w.db i.id fun p => { p with status := .paid } := by
  have hfilter : (w.db.bookings.find? i.bookingId).filter
      (fun b => decide (b.status = .pendingPayment)) = none := by
    apply Option.filter_eq_none_iff.mpr
    intro booking hbooking hpending
    exact hlate (Db.statusOf_eq_some.mpr ⟨booking, hbooking, of_decide_eq_true hpending⟩)
  apply w.step_paymentSucceeded hfind hsucceeded hflow
  simp only [onLegacyPaymentSucceeded, if_neg (not_anyPaid (unpaid_of_eq_some hp hunpaid)), hfilter]

/-- The booking waits for payment: its charge is in the ledger. -/
theorem World.step_paymentSucceeded_pending (hpriced : w.db.Priced)
    (hfind : w.stripe.intents.find? i.id = some i) (hsucceeded : i.status = .succeeded)
    (hflow : i.flow = .destinationChargeLegacy) (hp : w.db.paymentByIntent i.id = some p)
    (hunpaid : p.status ≠ .paid) (hpending : w.db.statusOf i.bookingId = some .pendingPayment) :
    (w.step (.paymentSucceeded now i.id)).db.chargeEntries i.id ≠ [] := by
  obtain ⟨booking, hbooking, hst⟩ := Db.statusOf_eq_some.mp hpending
  obtain ⟨pc, hpc⟩ := hpriced i.bookingId booking hbooking
  have hok : ∃ db, onLegacyPaymentSucceeded now i.bookingId i.id w.db = .ok ((), db) ∧
      db.ledgerEntries = w.db.ledgerEntries ++ paymentLedgerRows booking pc i.id :=
    ⟨_, onLegacyPaymentSucceeded_pending (unpaid_of_eq_some hp hunpaid) hbooking hst hpc, rfl⟩
  obtain ⟨db, hok, hledger⟩ := hok
  rw [w.step_paymentSucceeded hfind hsucceeded hflow hok]
  unfold Db.chargeEntries
  rw [hledger, List.filter_append]
  apply List.append_ne_nil_of_right_ne_nil
  rw [List.filter_eq_self.mpr fun e he => decide_eq_true (mem_paymentLedgerRows he).2]
  exact paymentLedgerRows_ne_nil booking pc i.id

end

/-! ### Guarded runs -/

/-- What the argument needs of the reached states. -/
structure World.MoneyReady (w : World) : Prop where
  linked : w.Linked
  priced : w.db.Priced
  books : w.BooksOnce

theorem World.MoneyReady.step {w : World} (h : w.MoneyReady) (l : Label) : (w.step l).MoneyReady :=
  ⟨h.linked.step l, w.priced_step h.priced l, h.books.step l⟩

theorem World.MoneyTraced.start {db : Db} (hpayments : db.payments.rows = []) : (World.start db).MoneyTraced where
  payments := by
    intro p hp
    have hp : p ∈ db.payments.rows := hp
    rw [hpayments] at hp
    cases hp
  calls := fun c hc => absurd hc List.not_mem_nil
  refunds := fun s hs => absurd hs List.not_mem_nil

theorem World.MoneyTraced.step {w : World} (hready : w.MoneyReady) (h : w.MoneyTraced) {l : Label}
    (hguard : BooksCharge w l) : (w.step l).MoneyTraced where
  payments := by
    intro p hp hreceived
    cases w.receives l hp hreceived with
    | before q hq hreceived hsame =>
      obtain ⟨i, hi, hentries⟩ := h.payments q hq hreceived
      exact ⟨i, hsame.trans hi, w.chargeEntries_grow l hentries⟩
    | paid q i hq hnamed hsame hlabel hfind hsucceeded =>
      refine ⟨i.id, hsame.trans hnamed, ?_⟩
      obtain ⟨now, rfl⟩ := hlabel
      obtain ⟨r, hr, hb, hflow⟩ := (hready.linked.payments q hq).intent i.id hnamed
      have hr : w.stripe.intents.find? i.id = some r := hr
      rw [hfind] at hr
      cases hr
      have hq' : w.db.paymentByIntent i.id = some q := by
        cases hfound : w.db.paymentByIntent i.id with
        | none =>
          have hnone := List.find?_eq_none.mp hfound q hq
          simp [hnamed] at hnone
        | some q' =>
          have hnamed' : q'.providerPaymentIntentId = some i.id := by simpa using List.find?_some hfound
          rw [hready.linked.named q' (List.mem_of_find?_eq_some hfound) q hq i.id hnamed' hnamed]
      by_cases hunpaid : q.status = .paid
      · obtain ⟨j, hj, hentries⟩ := h.payments q hq (by rw [hunpaid]; rfl)
        rw [hnamed] at hj
        cases hj
        exact w.chargeEntries_grow _ hentries
      · cases hguard now i.id q rfl ⟨i, hfind, hsucceeded⟩ hq' hunpaid with
        | inl hpending =>
          rw [← hb] at hpending
          exact World.step_paymentSucceeded_pending hready.priced hfind hsucceeded hflow hq' hunpaid hpending
        | inr hentries => exact w.chargeEntries_grow _ hentries
    | refunded s hfind hnamed =>
      exact ⟨s.paymentIntent, hnamed, w.chargeEntries_grow l (h.refunds s (Table.mem_of_find? hfind))⟩
  calls := by
    intro c hc i hi
    apply w.chargeEntries_grow l
    rcases w.refundCall_input l hc with ⟨d, hd, hsame⟩ | ⟨p, hp, hreceived, hsame⟩
    · exact h.calls d hd i (by rw [hsame]; exact hi)
    · obtain ⟨j, hj, hentries⟩ := h.payments p hp hreceived
      rw [hsame, hj] at hi
      cases hi
      exact hentries
  refunds := by
    intro s hs
    apply w.chargeEntries_grow l
    rcases w.stripeRefund_intent l hs with ⟨r, hr, hsame⟩ | ⟨c, hc, hi⟩
    · rw [← hsame]
      exact h.refunds r hr
    · exact h.calls c hc s.paymentIntent hi

theorem World.MoneyTraced.moneyBooked {w : World} (hready : w.MoneyReady) (h : w.MoneyTraced) :
    MoneyBooked w.db := by
  intro p hp _ hreceived
  obtain ⟨i, hi, hentries⟩ := h.payments p hp hreceived
  exact ⟨i, hi, hready.books.recorded ((hready.linked.payments p hp).intent i hi) hentries⟩

/-- An unguarded delivery leaves a paid payment without ledger rows. -/
theorem World.booksCharge_of_moneyBooked {w : World} (hready : w.MoneyReady) {l : Label}
    (h : MoneyBooked (w.step l).db) : BooksCharge w l := by
  rintro now j p rfl ⟨i, hfind, hsucceeded⟩ hp hunpaid
  obtain rfl : i.id = j := Table.key_of_find? hfind
  by_contra hnot
  obtain ⟨hpending, hentries⟩ := not_or.mp hnot
  have hnil : w.db.chargeEntries i.id = [] := not_not.mp hentries
  have hmem : p ∈ w.db.payments.rows := List.mem_of_find?_eq_some hp
  have hnamed : p.providerPaymentIntentId = some i.id := by simpa using List.find?_some hp
  obtain ⟨r, hr, hb, hflow⟩ := (hready.linked.payments p hmem).intent i.id hnamed
  have hr : w.stripe.intents.find? i.id = some r := hr
  rw [hfind] at hr
  cases hr
  rw [← hb] at hpending
  have hdb : (w.step (.paymentSucceeded now i.id)).db =
      updatePaymentByIntent w.db i.id fun p => { p with status := .paid } :=
    World.step_paymentSucceeded_late hfind hsucceeded hflow hp hunpaid hpending
  have hpaid : ({ p with status := .paid } : Payment) ∈ (w.step (.paymentSucceeded now i.id)).db.payments.rows := by
    rw [hdb]
    refine (Table.mem_updateWhere (by intro r; rfl)).mpr ⟨p, hmem, ?_⟩
    rw [if_pos (by simpa using hnamed)]
  have hflow' : (w.step (.paymentSucceeded now i.id)).db.flowOf p.bookingId = some .destinationChargeLegacy :=
    (w.bookingsGrow_step _).flowOf (hready.linked.payments p hmem).flow
  obtain ⟨k, hk, booking, pc, -, -, hrows, -⟩ := h _ hpaid hflow' rfl
  obtain rfl : i.id = k := by
    rw [show ({ p with status := .paid } : Payment).providerPaymentIntentId = some i.id from hnamed] at hk
    cases hk
    rfl
  rw [hdb] at hrows
  exact paymentLedgerRows_ne_nil booking pc i.id (hrows.symm.trans hnil)

/-- From an empty database, every received payment is booked in every state of a run
exactly if every delivery finds the booking waiting for it, or its charge booked. -/
theorem moneyBooked_run_iff {db : Db} (hbookings : db.bookings.rows = [])
    (hpayments : db.payments.rows = []) (hpayouts : db.payouts.rows = [])
    (hledger : db.ledgerEntries = []) (ls : List Label) :
    (∀ pre suf, ls = pre ++ suf → MoneyBooked (run World.step (World.start db) pre).db) ↔
      Guarded World.step BooksCharge (World.start db) ls := by
  have hstart : (World.start db).MoneyReady := by
    refine ⟨.start hpayments, .of_no_bookings hbookings, fun b => .unbooked ?_ ?_, ?_⟩
    · simp only [Db.chargesOf, World.start, hledger, List.filter_nil]
    · simp only [Db.payoutCount, World.start, hpayouts, List.countP_nil]
    · intro e he
      have he : e ∈ db.ledgerEntries := he
      rw [hledger] at he
      cases he
  have hready : ∀ pre, (run World.step (World.start db) pre).MoneyReady :=
    run_invariant' (I := World.MoneyReady) (fun w l h => h.step l) hstart
  constructor
  · intro h
    refine guarded_iff.mpr fun pre l suf hls => ?_
    apply World.booksCharge_of_moneyBooked (hready pre)
    rw [← run_concat World.step]
    exact h (pre ++ [l]) suf (by rw [hls]; simp)
  · rintro hguard pre suf rfl
    have htraced : (run World.step (World.start db) pre).MoneyReady ∧
        (run World.step (World.start db) pre).MoneyTraced := by
      exact run_invariant (I := fun w : World => w.MoneyReady ∧ w.MoneyTraced)
        (fun w l h hl => ⟨h.1.step l, h.2.step h.1 hl⟩) ⟨hstart, .start hpayments⟩ (guarded_append.mp hguard).1
    exact htraced.2.moneyBooked htraced.1

/-! ## Runs -/

/-- The webhook arrives in time, and the payment is refunded in part. -/
def bookedThenRefunded : List Label :=
  checkedOutOnce ++
    [ .adminRefund 1 5000 .adminGoodwill,
      .refund 1 .refused,
      .refund 1 .refused,
      .refund 1 .refused,
      .refund 1 (.created true),
      .refund 1 .refused,
      .settleRefund 1 .succeeded,
      .refundEvent 1 ]

theorem bookedThenRefunded_moneyBooked :
    MoneyBooked (run World.step (World.start sampleDb) bookedThenRefunded).db := by
  refine (moneyBooked_run_iff rfl rfl rfl rfl bookedThenRefunded).mpr ?_ _ [] (List.append_nil _).symm
  have hother : ∀ {w : World} {l : Label}, (∀ now i, l ≠ .paymentSucceeded now i) → BooksCharge w l :=
    fun hl now i _ h => absurd h (hl now i)
  refine ⟨hother nofun, hother nofun, hother nofun, hother nofun, hother nofun, hother nofun,
    hother nofun, ?_, hother nofun, hother nofun, hother nofun, hother nofun, hother nofun,
    hother nofun, hother nofun, hother nofun, trivial⟩
  intro now i p hl _ hp _
  cases hl
  have hb : ((run World.step (World.start sampleDb) checkedOutOnce.dropLast).db.paymentByIntent 1).map
      Payment.bookingId = some 1 := by decide
  rw [show (run World.step (World.start sampleDb) checkedOutOnce.dropLast).db.paymentByIntent 1 = some p
    from hp] at hb
  rw [Option.some.inj hb]
  left
  decide

/-- The hold expires between the payment and its webhook. -/
def expiredBeforePaid : List Label :=
  checkedOutOnce.dropLast ++
    [ .transaction (.releaseExpiredHold msPerDay 1),
      .paymentSucceeded msPerDay 1 ]

/-- The payment is paid, and neither the ledger nor the payouts know of it. -/
theorem expiredBeforePaid_unbooked :
    ¬ ∀ pre suf, expiredBeforePaid = pre ++ suf →
      MoneyBooked (run World.step (World.start sampleDb) pre).db := by
  intro h
  have hbooked := h expiredBeforePaid [] (by simp)
  obtain ⟨i, hi, booking, pc, -, -, hrows, -⟩ :=
    hbooked ⟨1, some 1, .paid, 20000, "GBP", none, none⟩ (by decide) (by decide) rfl
  have hledger : (run World.step (World.start sampleDb) expiredBeforePaid).db.ledgerEntries = [] := by
    decide
  unfold Db.chargeEntries at hrows
  rw [hledger] at hrows
  exact paymentLedgerRows_ne_nil booking pc i hrows.symm

end HostPlatform
