-- SUMMARY: When a refund that Stripe confirmed is recorded, and when its confirmation is lost.
import HostPlatform.RefundLinks
import HostPlatform.Safety.RefundCap

/-!
# Refund confirmations

The webhook finds the refunds row by the Stripe id it carries, and `initiateRefund`
stores that id after Stripe has created the refund. An event that arrives in between
finds no row, and is acknowledged like one that was handled before.
-/

namespace HostPlatform

open Lib (Table)
open Lib.Transition

/-! ## Statements -/

/-- `initiateRefund` returns with Stripe refund `i`. -/
def Returns (w : World) (l : Label) (i : StripeRefundId) : Prop :=
  ∃ call answer c refundRowId, l = .refund call answer ∧ w.refundCalls.find? call = some c ∧
    c.phase = .linking refundRowId i

/-- An event with status `succeeded` is delivered for Stripe refund `i`. -/
def Announces (w : World) (l : Label) (i : StripeRefundId) : Prop :=
  l = .refundEvent i ∧ ∃ r, w.stripe.refunds.find? i = some r ∧ r.status = .succeeded

/-- The refunds row that carries Stripe refund `i` has succeeded. -/
def World.refundSucceeded (w : World) (i : StripeRefundId) : Prop :=
  ∃ r ∈ w.db.refunds.rows, r.providerRefundId = some i ∧ r.status = .succeeded

/-- The step records Stripe refund `i`: row, ledger reversal and payout reduction. -/
def Records (i : StripeRefundId) (w : World) (l : Label) : Prop :=
  l = .refundEvent i ∧ ∃ r payment pc booking reversal marked, r.id = i ∧ r.status = .succeeded ∧
    w.stripe.refunds.find? i = some r ∧
    RefundRecorded r.object payment pc booking reversal w.db marked (w.step l).db

/-- The ledger rows that refer to Stripe refund `i`. -/
def World.refundEntries (w : World) (i : StripeRefundId) : List LedgerEntry :=
  w.db.ledgerEntries.filter fun e => decide (e.externalReference = .refund i)

/-- One ledger row for the refund and one for each category. -/
def reversalTypes : List LedgerType := .refund :: Category.all.map Category.ledgerType

/-- At the end of the run the refund is recorded exactly once: one delivery of its
events wrote everything, and no other delivery wrote anything. -/
structure ConfirmedOnce (w : World) (ls : List Label) (i : StripeRefundId) : Prop where
  succeeded : (run World.step w ls).refundSucceeded i
  ledger : ((run World.step w ls).refundEntries i).map LedgerEntry.type = reversalTypes
  once : ∃ pre suf, ls = pre ++ .refundEvent i :: suf ∧
    Records i (run World.step w pre) (.refundEvent i) ∧
    ∀ pre' suf', ls = pre' ++ .refundEvent i :: suf' → pre' ≠ pre →
      ((run World.step w pre').step (.refundEvent i)).db = (run World.step w pre').db

def NoRefundLost (w : World) (ls : List Label) (i : StripeRefundId) : Prop :=
  Did World.step Returns w ls i → Did World.step Announces w ls i → ConfirmedOnce w ls i

/-- The event finds what it needs: a refunds row that carries the id, a payments row
that names the PaymentIntent, and no more refunded than was paid. -/
def FindsRefund (w : World) (l : Label) (i : StripeRefundId) : Prop :=
  l = .refundEvent i ∧ ∃ r, w.stripe.refunds.find? i = some r ∧ r.status = .succeeded ∧
    (∃ row ∈ w.db.refunds.rows, row.providerRefundId = some i) ∧
    ∃ payment, w.db.paymentByIntent r.paymentIntent = some payment ∧
      cumulativeAfter r.object payment.bookingId w.db ≤ payment.amountMinor

/-! ## The rows of a recorded refund -/

theorem refundLedgerRows_types {refund : RefundObject} {booking : Booking} {pc : PriceComponents}
    {original alreadyReversed : Category → Int} {amount cumulative charge : Int}
    {reversal : RefundReversalResult}
    (h : computeRefundReversalEntries original alreadyReversed amount cumulative charge = .ok reversal) :
    (refundLedgerRows refund booking pc reversal).map LedgerEntry.type = reversalTypes := by
  obtain ⟨-, -, rfl⟩ := computeRefundReversalEntries_eq_ok.mp h
  rfl

theorem refundLedgerRows_filter (refund : RefundObject) (booking : Booking) (pc : PriceComponents)
    (reversal : RefundReversalResult) (i : StripeRefundId) :
    (refundLedgerRows refund booking pc reversal).filter
        (fun e => decide (e.externalReference = .refund i)) =
      if refund.id = i then refundLedgerRows refund booking pc reversal else [] := by
  have href : ∀ e ∈ refundLedgerRows refund booking pc reversal,
      e.externalReference = .refund refund.id := by
    intro e he
    obtain ⟨row, -, rfl⟩ := List.mem_map.mp he
    rfl
  split
  · rename_i hid
    refine List.filter_eq_self.mpr fun e he => ?_
    rw [href e he, hid]
    exact decide_eq_true rfl
  · rename_i hid
    refine List.filter_eq_nil_iff.mpr fun e he => ?_
    rw [href e he]
    intro h
    exact hid (ExternalReference.refund.inj (of_decide_eq_true h))

theorem paymentLedgerRows_filter (booking : Booking) (pc : PriceComponents) (intentId : PaymentIntentId)
    (i : StripeRefundId) : (paymentLedgerRows booking pc intentId).filter
      (fun e => decide (e.externalReference = .refund i)) = [] := by
  refine List.filter_eq_nil_iff.mpr fun e he => ?_
  have href : e.externalReference = .paymentIntent intentId := by
    unfold paymentLedgerRows at he
    simp only [List.mem_cons, List.not_mem_nil, or_false] at he
    rcases he with rfl | rfl | rfl | rfl | rfl | rfl | rfl | rfl <;> rfl
  rw [href]
  exact fun h => ExternalReference.noConfusion (of_decide_eq_true h)

/-! ## One step -/

/-- The links a recording rests on. -/
structure World.RefundsReady (w : World) : Prop where
  linked : w.Linked
  refunds : w.RefundsLinked
  priced : w.db.Priced

theorem World.RefundsReady.step {w : World} (h : w.RefundsReady) (l : Label) :
    (w.step l).RefundsReady :=
  ⟨h.linked.step l, h.refunds.step l, w.priced_step h.priced l⟩

section

variable {w : World}

theorem World.RefundsReady.payment_booking (h : w.RefundsReady) {p : Payment}
    (hp : p ∈ w.db.payments.rows) : ∃ booking pc, w.db.bookings.find? p.bookingId = some booking ∧
      w.db.priceComponents.find? p.bookingId = some pc := by
  obtain ⟨booking, hb, -⟩ := Option.map_eq_some_iff.mp (h.linked.payments p hp).flow
  obtain ⟨pc, hpc⟩ := h.priced p.bookingId booking hb
  exact ⟨booking, pc, hb, hpc⟩

/-- A delivery records its refund or leaves the database alone. -/
theorem World.RefundsReady.refundEvent_db (h : w.RefundsReady) (i : StripeRefundId) :
    (w.step (.refundEvent i)).db = w.db ∨ Records i w (.refundEvent i) := by
  cases hr : w.stripe.refunds.find? i with
  | none =>
    left
    simp only [World.step, hr]
  | some r =>
    obtain rfl : r.id = i := Table.key_of_find? hr
    have hdb : (w.step (.refundEvent r.id)).db = (Tx.refundEvent r.object).exec w.db := by
      simp only [World.step, hr]
    cases hok : onRefundEvent r.object w.db with
    | error e =>
      left
      rw [hdb]
      simp only [Tx.exec, hok, Lib.commit]
    | ok p =>
      have hdb' : (w.step (.refundEvent r.id)).db = p.2 := by
        rw [hdb]
        simp only [Tx.exec, hok, Lib.commit]
      have hpriced : ∀ p ∈ w.db.payments.rows, ∃ pc, w.db.priceComponents.find? p.bookingId = some pc :=
        fun p hp => by
          obtain ⟨-, pc, -, hpc⟩ := h.payment_booking hp
          exact ⟨pc, hpc⟩
      rcases onRefundEvent_recorded hpriced hok with hsame | ⟨hst, payment, pc, booking, reversal, marked, hrec⟩
      · left
        rw [hdb', hsame]
      · right
        refine ⟨rfl, r, payment, pc, booking, reversal, marked, rfl, hst, hr, ?_⟩
        rw [hdb']
        exact hrec

/-- Two rows that carry one Stripe refund are one row. -/
theorem World.RefundsLinked.row_inj (hinv : w.RefundsLinked) {r r' : Refund} {i : StripeRefundId}
    (hr : r ∈ w.db.refunds.rows) (hr' : r' ∈ w.db.refunds.rows) (hi : r.providerRefundId = some i)
    (hi' : r'.providerRefundId = some i) : r = r' := by
  obtain ⟨s, hs, hk⟩ := (hinv.rows r hr).stripe i hi
  obtain ⟨s', hs', hk'⟩ := (hinv.rows r' hr').stripe i hi'
  rw [hs] at hs'
  cases hs'
  exact Table.key_inj hr hr' (hk.symm.trans hk')

theorem World.RefundsLinked.refundSucceeded_step (hinv : w.RefundsLinked) {i : StripeRefundId}
    (h : w.refundSucceeded i) (l : Label) : (w.step l).refundSucceeded i := by
  obtain ⟨r, hr, hi, hst⟩ := h
  obtain ⟨r', hr', hmove⟩ := hinv.row_moves l (Table.find?_of_mem hr)
  refine ⟨r', Table.mem_of_find? hr', ?_⟩
  cases hmove with
  | same => exact ⟨hi, hst⟩
  | linked j hfor =>
    have hj := hinv.createdFor_inj hfor ((hinv.rows r hr).stripe i hi)
    exact ⟨congrArg some hj, hst⟩
  | succeeded s hlabel hfind hsettled hconfirms => exact ⟨hi, rfl⟩
  | failed s hfind hsettled hconfirms => exact absurd hst (of_decide_eq_true hconfirms).2

/-- A row starts to have succeeded in the step that records its refund. -/
theorem World.RefundsReady.records_of_succeeded (h : w.RefundsReady) {i : StripeRefundId} {l : Label}
    (hnot : ¬ w.refundSucceeded i) (hsucceeded : (w.step l).refundSucceeded i) : Records i w l := by
  obtain ⟨r', hr', hi, hst⟩ := hsucceeded
  rcases h.refunds.row_origin l hr' with ⟨r, hr, hmove⟩ | ⟨c, -, -, -, -, hpending⟩
  · cases hmove with
    | same => exact absurd ⟨r', hr, hi, hst⟩ hnot
    | linked j hfor =>
      cases hi
      cases (h.refunds.rows r hr).resolved with
      | pending hstatus => exact absurd (hstatus.symm.trans hst) nofun
      | succeeded s hstatus hid hfind hsettled =>
        have hs := h.refunds.createdFor_inj hfor ((h.refunds.rows r hr).stripe s.id hid)
        exact absurd ⟨r, hr, by rw [hs]; exact hid, hstatus⟩ hnot
      | failed s hstatus hid hfind hsettled => exact absurd (hstatus.symm.trans hst) nofun
    | succeeded s hlabel hfind hsettled hconfirms =>
      have hid := (of_decide_eq_true hconfirms).1
      obtain rfl : s.id = i := Option.some.inj (hid.symm.trans hi)
      subst hlabel
      rcases h.refundEvent_db s.id with hsame | hrecords
      · -- The row is as it was, so it had succeeded before.
        rw [hsame] at hr'
        exact absurd ⟨_, hr', hi, hst⟩ hnot
      · exact hrecords
    | failed s hfind hsettled hconfirms => cases hst
  · rw [hst] at hpending
    cases hpending

theorem World.RefundsReady.records_iff (h : w.RefundsReady) (i : StripeRefundId) (l : Label) :
    Records i w l ↔ ¬ w.refundSucceeded i ∧ (w.step l).refundSucceeded i := by
  refine ⟨fun hrecords => ?_, fun hraised => h.records_of_succeeded hraised.1 hraised.2⟩
  obtain ⟨-, r, payment, pc, booking, reversal, marked, rfl, hst, hfind, hrec⟩ := hrecords
  obtain ⟨hany, hmarked⟩ := markRefundSucceeded_eq_some hrec.marks
  obtain ⟨row, hrow, hconfirms⟩ := List.any_eq_true.mp hany
  obtain ⟨hid, hne⟩ := of_decide_eq_true hconfirms
  constructor
  · rintro ⟨row', hrow', hid', hst'⟩
    have hsame := h.refunds.row_inj hrow hrow' hid hid'
    rw [hsame] at hne
    exact hne hst'
  · refine ⟨{ row with status := .succeeded }, ?_, hid, rfl⟩
    rw [hrec.refunds, hmarked]
    exact (Table.mem_updateWhere (by intro r; rfl)).mpr ⟨row, hrow, if_pos hconfirms⟩

/-- An event that finds what it needs leaves the row succeeded. -/
theorem World.RefundsReady.succeeded_of_finds (h : w.RefundsReady) {l : Label} {i : StripeRefundId}
    (hfinds : FindsRefund w l i) : (w.step l).refundSucceeded i := by
  obtain ⟨rfl, r, hr, hst, ⟨row, hrow, hid⟩, payment, hpayment, hcap⟩ := hfinds
  obtain rfl : r.id = i := Table.key_of_find? hr
  by_cases hdone : row.status = .succeeded
  · exact h.refunds.refundSucceeded_step ⟨row, hrow, hid, hdone⟩ _
  have hconfirms : confirmsRow r.id row := decide_eq_true ⟨hid, hdone⟩
  obtain ⟨marked, hmarked⟩ :=
    markRefundSucceeded_of_any (List.any_eq_true.mpr ⟨row, hrow, hconfirms⟩)
  have hdb := (markRefundSucceeded_eq_some hmarked).2
  have hmem := List.mem_of_find?_eq_some hpayment
  obtain ⟨booking, pc, hbooking, -⟩ := h.payment_booking hmem
  have hafter : cumulativeAfter r.object payment.bookingId w.db =
      marked.cumulativeRefunded payment.bookingId := by
    unfold cumulativeAfter
    rw [show markRefundSucceeded r.object.id w.db = some marked from hmarked]
  rw [hafter] at hcap
  obtain ⟨db', hrecord⟩ : ∃ db', recordRefund r.object payment marked = .ok ((), db') := by
    have hb : marked.bookings.find? payment.bookingId = some booking := by
      rw [hdb]
      exact hbooking
    exact recordRefund_total hb
      (.inr ⟨(h.linked.payments payment hmem).amount, h.refunds.cumulativeRefunded_nonneg hmarked _, hcap⟩)
  have hstep : (w.step (.refundEvent r.id)).db = db' := by
    simp only [World.step, hr, Tx.exec, Lib.commit,
      onRefundEvent_eq_recordRefund (show r.object.status = .succeeded from hst) hpayment hmarked, hrecord]
  refine ⟨{ row with status := .succeeded }, ?_, hid, rfl⟩
  rw [hstep, recordRefund_frame hrecord, hdb]
  exact (Table.mem_updateWhere (by intro r; rfl)).mpr ⟨row, hrow, if_pos hconfirms⟩

/-! ## The ledger -/

/-- What a step appends to the ledger. -/
theorem World.RefundsReady.ledger_step (h : w.RefundsReady) (l : Label) :
    (∃ rows, (w.step l).db.ledgerEntries = w.db.ledgerEntries ++ rows ∧
      ∀ i : StripeRefundId, rows.filter (fun e => decide (e.externalReference = .refund i)) = []) ∨
      ∃ i, Records i w l := by
  have hsame : (w.step l).refundView.ledgerEntries = w.db.ledgerEntries →
      ∃ rows, (w.step l).db.ledgerEntries = w.db.ledgerEntries ++ rows ∧
        ∀ i : StripeRefundId, rows.filter (fun e => decide (e.externalReference = .refund i)) = [] :=
    fun hledger => ⟨[], by rw [List.append_nil]; exact hledger, fun _ => rfl⟩
  cases w.refundStep l with
  | frame hview => exact .inl (hsame (congrArg Refunds.ledgerEntries hview))
  | started input phase hinput hphase hview => exact .inl (hsame (congrArg Refunds.ledgerEntries hview))
  | ended call hview => exact .inl (hsame (congrArg Refunds.ledgerEntries hview))
  | read call phase hcall hread hview => exact .inl (hsame (congrArg Refunds.ledgerEntries hview))
  | inserted call hlabel hcall hphase hview => exact .inl (hsame (congrArg Refunds.ledgerEntries hview))
  | created call k paymentIntent hcall hphase hkey hview =>
    exact .inl (hsame (congrArg Refunds.ledgerEntries hview))
  | createdLost call k paymentIntent hcall hphase hkey hview =>
    exact .inl (hsame (congrArg Refunds.ledgerEntries hview))
  | linked call k i hlabel hcall hphase hview =>
    exact .inl (hsame (congrArg Refunds.ledgerEntries hview))
  | settled j status hview => exact .inl (hsame (congrArg Refunds.ledgerEntries hview))
  | confirmed s payment marked hlabel hfind hsucceeded hpayment hmarked hrecord hview =>
    subst hlabel
    rcases h.refundEvent_db s.id with hdb | hrecords
    · exact .inl (hsame (congrArg Db.ledgerEntries hdb))
    · exact .inr ⟨s.id, hrecords⟩
  | failed s hfind hfailed hview => exact .inl (hsame (congrArg Refunds.ledgerEntries hview))
  | paid booking pc i hview =>
    exact .inl ⟨_, congrArg Refunds.ledgerEntries hview, paymentLedgerRows_filter booking pc i.id⟩

/-- The ledger refers to a refund as often as its row has succeeded: once or never. -/
structure RefundLedger (w : World) : Prop where
  ready : w.RefundsReady
  recorded : ∀ i, w.refundSucceeded i → (w.refundEntries i).map LedgerEntry.type = reversalTypes
  unrecorded : ∀ i, ¬ w.refundSucceeded i → w.refundEntries i = []

theorem RefundLedger.start {db : Db} (hbookings : db.bookings.rows = [])
    (hpayments : db.payments.rows = []) (hrefunds : db.refunds.rows = [])
    (hledger : db.ledgerEntries = []) : RefundLedger (World.start db) where
  ready := ⟨.start hpayments, .start hrefunds, .of_no_bookings hbookings⟩
  recorded i h := by
    obtain ⟨r, hr, -⟩ := h
    have hr' : r ∈ db.refunds.rows := hr
    rw [hrefunds] at hr'
    cases hr'
  unrecorded i _ := by
    show db.ledgerEntries.filter _ = []
    rw [hledger]
    rfl

theorem World.refundEntries_append {l : Label} {rows : List LedgerEntry}
    (h : (w.step l).db.ledgerEntries = w.db.ledgerEntries ++ rows) (i : StripeRefundId) :
    (w.step l).refundEntries i =
      w.refundEntries i ++ rows.filter fun e => decide (e.externalReference = .refund i) := by
  unfold refundEntries
  rw [h, List.filter_append]

theorem RefundLedger.step (h : RefundLedger w) (l : Label) : RefundLedger (w.step l) := by
  have hready := h.ready.step l
  -- A refund this step does not record keeps its status and its ledger rows.
  have hkeep : ∀ i, ¬ Records i w l → (w.step l).refundEntries i = w.refundEntries i →
      ((w.step l).refundSucceeded i →
        ((w.step l).refundEntries i).map LedgerEntry.type = reversalTypes) ∧
      (¬ (w.step l).refundSucceeded i → (w.step l).refundEntries i = []) := by
    intro i hnot hentries
    rw [hentries]
    by_cases hi : w.refundSucceeded i
    · exact ⟨fun _ => h.recorded i hi, fun hno => absurd (h.ready.refunds.refundSucceeded_step hi l) hno⟩
    · refine ⟨fun hnow => absurd (h.ready.records_of_succeeded hi hnow) hnot, fun _ => h.unrecorded i hi⟩
  have hall : ∀ i, ((w.step l).refundSucceeded i →
        ((w.step l).refundEntries i).map LedgerEntry.type = reversalTypes) ∧
      (¬ (w.step l).refundSucceeded i → (w.step l).refundEntries i = []) := by
    intro i
    by_cases hrecords : Records i w l
    · obtain ⟨hnot, hnow⟩ := (h.ready.records_iff i l).mp hrecords
      refine ⟨fun _ => ?_, fun hno => absurd hnow hno⟩
      obtain ⟨-, r, payment, pc, booking, reversal, marked, rfl, -, -, hrec⟩ := hrecords
      rw [World.refundEntries_append hrec.ledgerEntries, h.unrecorded r.id hnot, refundLedgerRows_filter,
        if_pos (show r.object.id = r.id from rfl)]
      exact refundLedgerRows_types hrec.computed
    · rcases h.ready.ledger_step l with ⟨rows, hrows, hnone⟩ | ⟨j, hj⟩
      · refine hkeep i hrecords ?_
        rw [World.refundEntries_append hrows, hnone i, List.append_nil]
      · have hne : j ≠ i := fun hji => hrecords (hji ▸ hj)
        obtain ⟨-, r, payment, pc, booking, reversal, marked, rfl, -, -, hrec⟩ := hj
        refine hkeep i hrecords ?_
        rw [World.refundEntries_append hrec.ledgerEntries, refundLedgerRows_filter,
          if_neg (show r.object.id ≠ i from hne), List.append_nil]
  exact ⟨hready, fun i => (hall i).1, fun i => (hall i).2⟩

end

/-! ## Whole runs -/

section

variable {db : Db} {ls : List Label} {i : StripeRefundId}

theorem RefundLedger.run (hbookings : db.bookings.rows = []) (hpayments : db.payments.rows = [])
    (hrefunds : db.refunds.rows = []) (hledger : db.ledgerEntries = []) (ls : List Label) :
    RefundLedger (run World.step (World.start db) ls) :=
  run_invariant' (fun _ l h => h.step l) (.start hbookings hpayments hrefunds hledger) ls

/-- A row that has succeeded was confirmed by exactly one delivery. -/
theorem RefundLedger.confirmedOnce {w : World} (hw : RefundLedger w) (hnot : ¬ w.refundSucceeded i)
    (h : (Lib.Transition.run World.step w ls).refundSucceeded i) : ConfirmedOnce w ls i := by
  have hall : ∀ ls, RefundLedger (Lib.Transition.run World.step w ls) :=
    run_invariant' (fun _ l h => h.step l) hw
  refine ⟨h, (hall ls).recorded i h, ?_⟩
  obtain ⟨pre, l, suf, hls, hrecords, honly⟩ := run_latch (R := Records i)
    (fun _ l hI => RefundLedger.step hI l) (fun s l hI => hI.ready.records_iff i l)
    (fun s l hI hS => hI.ready.refunds.refundSucceeded_step hS l) hw hnot h
  obtain rfl : l = .refundEvent i := hrecords.1
  refine ⟨pre, suf, hls, hrecords, fun pre' suf' hls' hne => ?_⟩
  rcases (hall pre').ready.refundEvent_db i with hsame | hrecords'
  · exact hsame
  · exact absurd (honly pre' _ suf' hls' hrecords') hne

end

theorem not_refundSucceeded_start {db : Db} (hrefunds : db.refunds.rows = []) (i : StripeRefundId) :
    ¬ (World.start db).refundSucceeded i := by
  rintro ⟨r, hr, -⟩
  have hr' : r ∈ db.refunds.rows := hr
  rw [hrefunds] at hr'
  cases hr'

/-- What a recording found is what an event needs to find. -/
theorem Records.finds {w : World} {l : Label} {i : StripeRefundId} (h : Records i w l) :
    FindsRefund w l i := by
  obtain ⟨hlabel, r, payment, pc, booking, reversal, marked, rfl, hst, hfind, hrec⟩ := h
  obtain ⟨hany, -⟩ := markRefundSucceeded_eq_some hrec.marks
  obtain ⟨row, hrow, hconfirms⟩ := List.any_eq_true.mp hany
  refine ⟨hlabel, r, hfind, hst, ⟨row, hrow, (of_decide_eq_true hconfirms).1⟩, payment, hrec.found, ?_⟩
  unfold cumulativeAfter
  rw [hrec.marks]
  exact (computeRefundReversalEntries_eq_ok.mp hrec.computed).2.1.2

/-- A confirmation is recorded exactly if one of its deliveries finds what it needs. -/
theorem noRefundLost_iff {db : Db} (hbookings : db.bookings.rows = [])
    (hpayments : db.payments.rows = []) (hrefunds : db.refunds.rows = [])
    (hledger : db.ledgerEntries = []) (ls : List Label) (i : StripeRefundId) :
    NoRefundLost (World.start db) ls i ↔
      (Did World.step Returns (World.start db) ls i → Did World.step Announces (World.start db) ls i →
        Did World.step FindsRefund (World.start db) ls i) := by
  have hstart : RefundLedger (World.start db) := .start hbookings hpayments hrefunds hledger
  constructor
  · intro hlost hreturns hannounces
    obtain ⟨pre, suf, hls, hrecords, -⟩ := (hlost hreturns hannounces).once
    exact ⟨pre, _, suf, hls, hrecords.finds⟩
  · intro hfinds hreturns hannounces
    obtain ⟨pre, l, suf, rfl, hfound⟩ := hfinds hreturns hannounces
    refine hstart.confirmedOnce (not_refundSucceeded_start hrefunds i) ?_
    have hpre := RefundLedger.run hbookings hpayments hrefunds hledger pre
    rw [run_append, run_cons]
    exact (run_invariant' (I := fun w => RefundLedger w ∧ w.refundSucceeded i)
      (fun w l h => ⟨h.1.step l, h.1.ready.refunds.refundSucceeded_step h.2 l⟩)
      ⟨hpre.step l, hpre.ready.succeeded_of_finds hfound⟩ suf).2

/-- One refund, created at Stripe and settled there. -/
def refundedAtStripe : List Label := refundedOnce ++
  [ .refund 1 (.created true),
    .settleRefund 1 .succeeded ]

/-- The event arrives after `initiateRefund` has stored the id. -/
def confirmedAfterLink : List Label := refundedAtStripe ++ [.refund 1 .refused, .refundEvent 1]

theorem confirmedAfterLink_noRefundLost : NoRefundLost (World.start sampleDb) confirmedAfterLink 1 :=
  (noRefundLost_iff rfl rfl rfl rfl confirmedAfterLink 1).mpr fun _ _ =>
    ⟨refundedAtStripe ++ [.refund 1 .refused], .refundEvent 1, [], rfl, rfl, _, rfl, rfl,
      ⟨_, List.mem_singleton.mpr rfl, rfl⟩, _, rfl, by decide⟩

/-- The event arrives first: it finds no row, and nothing asks again. -/
def confirmedBeforeLink : List Label := refundedAtStripe ++ [.refundEvent 1, .refund 1 .refused]

theorem confirmedBeforeLink_lost : ¬ NoRefundLost (World.start sampleDb) confirmedBeforeLink 1 := by
  intro hlost
  have hconfirmed := hlost
    ⟨refundedAtStripe ++ [.refundEvent 1], .refund 1 .refused, [], rfl, 1, .refused, _, 1, rfl, rfl, rfl⟩
    ⟨refundedAtStripe, .refundEvent 1, [.refund 1 .refused], rfl, rfl, _, rfl, rfl⟩
  obtain ⟨r, hr, -, hst⟩ := hconfirmed.succeeded
  have hpending : ∀ r ∈ (run World.step (World.start sampleDb) confirmedBeforeLink).db.refunds.rows,
      r.status = .pending := by decide
  rw [hpending r hr] at hst
  cases hst

end HostPlatform
