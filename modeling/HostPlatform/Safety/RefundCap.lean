-- SUMMARY: How much of a payment is refunded, and which refunds take more than was paid.
import HostPlatform.RefundLinks
import HostPlatform.Safety.LegacyCheckout

/-!
# The refund cap

The admin route checks what remains of a payment long before its refunds row is
inserted, and a cancellation checks nothing. Only the insert makes the total grow:
every other step resolves a row that counted already, or gives it up.
-/

namespace HostPlatform

open Lib (Table)
open Lib.Transition

/-- The refund call whose refunds row the label inserts. -/
def World.inserting (w : World) : Label → Option RefundCall
  | .refund call _ => (w.refundCalls.find? call).filter fun c => decide (c.phase = .inserting)
  | _ => none

/-- The refunds of the booking are within its payment, and so is the total any event
would have `computeRefundReversalEntries` reverse. -/
structure RefundCap (w : World) (b : BookingId) : Prop where
  refunds : ∀ p, w.db.payments.find? b = some p → w.db.alreadyRefunded b ≤ p.amountMinor
  reversals : ∀ r payment marked, w.stripe.refunds.find? r.id = some r → r.status = .succeeded →
    w.db.paymentByIntent r.paymentIntent = some payment → payment.bookingId = b →
    markRefundSucceeded r.id w.db = some marked → marked.cumulativeRefunded b ≤ payment.amountMinor

/-- A row of the booking is inserted only if it fits in what is left of the payment. -/
def FitsRemaining (b : BookingId) (w : World) (l : Label) : Prop :=
  ∀ c ∈ w.inserting l, c.input.bookingId = b → ∀ p ∈ w.db.payments.find? b,
    c.input.amountMinor ≤ p.amountMinor - w.db.alreadyRefunded b

instance (b : BookingId) (w : World) (l : Label) : Decidable (FitsRemaining b w l) :=
  inferInstanceAs (Decidable (∀ c ∈ w.inserting l, c.input.bookingId = b →
    ∀ p ∈ w.db.payments.find? b, c.input.amountMinor ≤ p.amountMinor - w.db.alreadyRefunded b))

theorem World.inserting_eq_some {w : World} {call : Nat} {answer : CreateAnswer} {c : RefundCall} :
    w.inserting (.refund call answer) = some c ↔
      w.refundCalls.find? call = some c ∧ c.phase = .inserting := by
  unfold inserting
  rw [Option.filter_eq_some_iff, decide_eq_true_iff]

theorem World.inserting_label {w : World} {l : Label} {c : RefundCall} (h : w.inserting l = some c) :
    ∃ call answer, l = .refund call answer ∧ w.refundCalls.find? call = some c ∧ c.phase = .inserting := by
  unfold inserting at h
  split at h
  · rename_i call answer
    have hinserting : w.inserting (.refund call answer) = some c := h
    exact ⟨call, answer, rfl, inserting_eq_some.mp hinserting⟩
  · cases h

/-! ## What a step adds -/

theorem insertRefund_alreadyRefunded (input : InitiateRefundInput) (db : Db) (b : BookingId) :
    (insertRefund input db).2.alreadyRefunded b =
      db.alreadyRefunded b + if input.bookingId = b then input.amountMinor else 0 := by
  refine (Table.sumWhere_insertNew _ _ (fun _ => rfl) _ _).trans ?_
  congr 1
  by_cases hb : input.bookingId = b
  · simp [hb]
  · simp [hb]

theorem linkRefund_alreadyRefunded (k : RefundId) (i : StripeRefundId) (db : Db) (b : BookingId) :
    (linkRefund k i db).alreadyRefunded b ≤ db.alreadyRefunded b :=
  Table.sumWhere_updateWhere_le _ _ _ (by intro r; rfl) _ _ fun _ _ _ => le_rfl

section

variable {w : World}

/-- A row the event confirms was still pending: a failed one has a failed refund. -/
theorem World.RefundsLinked.pending_of_confirms (hinv : w.RefundsLinked) {s : StripeRefund}
    (hfind : w.stripe.refunds.find? s.id = some s) (hsucceeded : s.status = .succeeded) {r : Refund}
    (hr : r ∈ w.db.refunds.rows) (hconfirms : confirmsRow s.id r) : r.status = .pending := by
  obtain ⟨hid, hne⟩ := of_decide_eq_true hconfirms
  cases (hinv.rows r hr).resolved with
  | pending hstatus => exact hstatus
  | succeeded s' hstatus hid' hfind' hsettled => exact absurd hstatus hne
  | failed s' hstatus hid' hfind' hsettled =>
    rw [hid] at hid'
    have hsame : w.stripe.refunds.find? s.id = some s' := (Option.some.inj hid') ▸ hfind'
    rw [hfind] at hsame
    cases hsame
    rw [hsucceeded] at hsettled
    cases hsettled

theorem World.RefundsLinked.marked_alreadyRefunded (hinv : w.RefundsLinked) {s : StripeRefund}
    (hfind : w.stripe.refunds.find? s.id = some s) (hsucceeded : s.status = .succeeded) {marked : Db}
    (hmarked : markRefundSucceeded s.id w.db = some marked) (b : BookingId) :
    marked.alreadyRefunded b ≤ w.db.alreadyRefunded b := by
  rw [(markRefundSucceeded_eq_some hmarked).2]
  refine Table.sumWhere_updateWhere_le _ _ _ (by intro r; rfl) _ _ fun r hr hconfirms => ?_
  have hpending := hinv.pending_of_confirms hfind hsucceeded hr hconfirms
  simp [hpending]

theorem World.RefundsLinked.failed_alreadyRefunded (hinv : w.RefundsLinked) (s : StripeRefund)
    (b : BookingId) : (onRefundFailed s.object w.db).alreadyRefunded b ≤ w.db.alreadyRefunded b := by
  refine Table.sumWhere_updateWhere_le _ _ _ (by intro r; rfl) _ _ fun r hr _ => ?_
  have hamount := (hinv.rows r hr).amount
  split
  · rename_i hcounts
    simp at hcounts
  · split
    · exact hamount.le
    · exact le_rfl

/-- The total grows by an insert of the booking, and by nothing else. -/
theorem World.RefundsLinked.alreadyRefunded_step (hinv : w.RefundsLinked) (l : Label) (b : BookingId) :
    (w.step l).db.alreadyRefunded b ≤ w.db.alreadyRefunded b ∨
      ∃ c, w.inserting l = some c ∧ c.input.bookingId = b ∧
        (w.step l).db.alreadyRefunded b = w.db.alreadyRefunded b + c.input.amountMinor := by
  have hsum : ∀ {db : Db}, (w.step l).refundView.rows = db.refunds →
      (w.step l).db.alreadyRefunded b = db.alreadyRefunded b := by
    intro db h
    have hrows : (w.step l).db.refunds = db.refunds := h
    unfold Db.alreadyRefunded
    rw [hrows]
  have hsame : (w.step l).refundView.rows = w.db.refunds →
      (w.step l).db.alreadyRefunded b ≤ w.db.alreadyRefunded b := fun h => (hsum h).le
  cases w.refundStep l with
  | frame h => exact .inl (hsame (congrArg Refunds.rows h))
  | started input phase hinput hphase h => exact .inl (hsame (congrArg Refunds.rows h))
  | ended call h => exact .inl (hsame (congrArg Refunds.rows h))
  | read call phase hcall hread h => exact .inl (hsame (congrArg Refunds.rows h))
  | inserted call hlabel hcall hphase h =>
    obtain ⟨answer, hlabel⟩ := hlabel
    have hadd := (hsum (congrArg Refunds.rows h)).trans (insertRefund_alreadyRefunded _ _ b)
    by_cases hb : call.input.bookingId = b
    · rw [if_pos hb] at hadd
      refine .inr ⟨call, ?_, hb, hadd⟩
      rw [hlabel, inserting_eq_some]
      exact ⟨hcall, hphase⟩
    · rw [if_neg hb, add_zero] at hadd
      exact .inl hadd.le
  | created call k paymentIntent hcall hphase hkey h => exact .inl (hsame (congrArg Refunds.rows h))
  | createdLost call k paymentIntent hcall hphase hkey h => exact .inl (hsame (congrArg Refunds.rows h))
  | linked call k i hlabel hcall hphase h =>
    exact .inl ((hsum (congrArg Refunds.rows h)).trans_le (linkRefund_alreadyRefunded k i w.db b))
  | settled j status h => exact .inl (hsame (congrArg Refunds.rows h))
  | confirmed s payment marked hlabel hfind hsucceeded hpayment hmarked hrecord h =>
    exact .inl ((hsum (congrArg Refunds.rows h)).trans_le
      (hinv.marked_alreadyRefunded hfind hsucceeded hmarked b))
  | failed s hfind hfailed h =>
    exact .inl ((hsum (congrArg Refunds.rows h)).trans_le (hinv.failed_alreadyRefunded s b))
  | paid booking pc i h => exact .inl (hsame (congrArg Refunds.rows h))

/-- What an insert adds, whatever it was to fit in. -/
theorem World.alreadyRefunded_inserting {l : Label} {c : RefundCall} (h : w.inserting l = some c) :
    (w.step l).db.alreadyRefunded c.input.bookingId =
      w.db.alreadyRefunded c.input.bookingId + c.input.amountMinor := by
  obtain ⟨call, answer, rfl, hcall, hphase⟩ := inserting_label h
  have hstep : (w.step (.refund call answer)).db = (insertRefund c.input w.db).2 := by
    simp only [step, hcall, stepRefund, hphase]
    rfl
  rw [hstep, insertRefund_alreadyRefunded, if_pos rfl]

/-! ## The cap -/

/-- The total a payment is capped by, in the database alone. -/
def World.WithinPayment (w : World) (b : BookingId) : Prop :=
  ∀ p, w.db.payments.find? b = some p → w.db.alreadyRefunded b ≤ p.amountMinor

/-- No refund has a negative amount, before or after the event. -/
theorem World.RefundsLinked.marked_amounts (hinv : w.RefundsLinked) {i : StripeRefundId} {marked : Db}
    (hmarked : markRefundSucceeded i w.db = some marked) : ∀ r ∈ marked.refunds.rows, 0 ≤ r.amountMinor := by
  rw [(markRefundSucceeded_eq_some hmarked).2]
  intro r hr
  obtain ⟨q, hq, rfl⟩ := (Table.mem_updateWhere (by intro r; rfl)).mp hr
  have hamount := (hinv.rows q hq).amount
  split
  · exact hamount.le
  · exact hamount.le

theorem World.RefundsLinked.cumulativeRefunded_nonneg (hinv : w.RefundsLinked) {i : StripeRefundId}
    {marked : Db} (hmarked : markRefundSucceeded i w.db = some marked) (b : BookingId) :
    0 ≤ marked.cumulativeRefunded b := by
  exact Table.sumWhere_nonneg fun r hr _ => hinv.marked_amounts hmarked r hr

theorem World.RefundsLinked.cumulativeRefunded_le (hinv : w.RefundsLinked) {s : StripeRefund}
    (hfind : w.stripe.refunds.find? s.id = some s) (hsucceeded : s.status = .succeeded) {marked : Db}
    (hmarked : markRefundSucceeded s.id w.db = some marked) (b : BookingId) :
    marked.cumulativeRefunded b ≤ w.db.alreadyRefunded b := by
  refine le_trans ?_ (hinv.marked_alreadyRefunded hfind hsucceeded hmarked b)
  refine Table.sumWhere_le_of_imp _ (fun r hr _ => hinv.marked_amounts hmarked r hr) fun r _ hr => ?_
  obtain ⟨hb, hstatus⟩ := of_decide_eq_true hr
  exact decide_eq_true ⟨hb, .inr hstatus⟩

theorem World.WithinPayment.cap {b : BookingId} (h : w.WithinPayment b) (hinv : w.RefundsLinked) :
    RefundCap w b where
  refunds := h
  reversals r payment marked hfind hsucceeded hpayment hb hmarked := by
    have hp : w.db.payments.find? b = some payment := by
      rw [← hb]
      exact Table.find?_of_mem (List.mem_of_find?_eq_some hpayment)
    exact (hinv.cumulativeRefunded_le hfind hsucceeded hmarked b).trans (h payment hp)

/-- Without a payment there is nothing to refund. -/
theorem World.RefundsLinked.alreadyRefunded_of_unpaid (hinv : w.RefundsLinked) {b : BookingId}
    (hp : w.db.payments.find? b = none) : w.db.alreadyRefunded b = 0 := by
  refine Table.sumWhere_eq_zero fun r hr hcounts => ?_
  obtain ⟨p, hpay⟩ := (hinv.rows r hr).payment
  rw [(of_decide_eq_true hcounts).1, hp] at hpay
  cases hpay

theorem World.WithinPayment.step {b : BookingId} (h : w.WithinPayment b) (hinv : w.RefundsLinked)
    (hlinked : w.Linked) {l : Label} (hfits : FitsRemaining b w l) : (w.step l).WithinPayment b := by
  intro p' hp'
  cases hp : w.db.payments.find? b with
  | some p =>
    obtain ⟨q, hq, hamount⟩ := w.payment_stays l hp
    rw [hp'] at hq
    cases hq
    rw [hamount]
    rcases hinv.alreadyRefunded_step l b with hle | ⟨c, hinserts, hb, hadd⟩
    · exact hle.trans (h p hp)
    · have hleft := hfits c hinserts hb p hp
      rw [hadd]
      linarith
  | none =>
    -- The payments row is new: no refund call of the booking has started yet.
    have hpos := ((hlinked.step l).payments p' (Table.mem_of_find? hp')).amount
    have hzero := hinv.alreadyRefunded_of_unpaid hp
    rcases hinv.alreadyRefunded_step l b with hle | ⟨c, hinserts, hb, -⟩
    · linarith
    · obtain ⟨call, answer, -, hc, -⟩ := World.inserting_label hinserts
      obtain ⟨p, hpay⟩ := (hinv.calls c (Table.mem_of_find? hc)).requested.payment
      rw [hb, hp] at hpay
      cases hpay

end

/-! ## Whole runs -/

/-- The refunds of a booking stay within its payment exactly along the runs that insert
no row too many. -/
theorem refundCap_run_iff {db : Db} (hpayments : db.payments.rows = []) (hrefunds : db.refunds.rows = [])
    (b : BookingId) (ls : List Label) :
    (∀ pre suf, ls = pre ++ suf → RefundCap (run World.step (World.start db) pre) b) ↔
      Guarded World.step (FitsRemaining b) (World.start db) ls := by
  constructor
  · intro hcap
    refine guarded_iff.mpr fun pre l suf hls c hinserts hb p hp => ?_
    have hnext := (hcap (pre ++ [l]) suf (by rw [hls]; simp)).refunds
    rw [run_concat] at hnext
    obtain ⟨p', hp', hamount⟩ := World.payment_stays _ l hp
    have hle := hnext p' hp'
    rw [← hb, World.alreadyRefunded_inserting hinserts, hb, hamount] at hle
    linarith
  · rintro hguarded pre suf rfl
    have hinv := run_invariant
      (I := fun w : World => w.Linked ∧ w.RefundsLinked ∧ w.WithinPayment b)
      (fun w l h hfits => ⟨h.1.step l, h.2.1.step l, h.2.2.step h.2.1 h.1 hfits⟩)
      ⟨.start hpayments, .start hrefunds, fun p hp => ?_⟩ (guarded_append.mp hguarded).1
    · exact hinv.2.2.cap hinv.2.1
    · have hmem : p ∈ db.payments.rows := Table.mem_of_find? hp
      rw [hpayments] at hmem
      cases hmem

/-- One refund of a paid booking, up to its refunds row. -/
def refundedOnce : List Label := checkedOutOnce ++
  [ .adminRefund 1 12000 .adminGoodwill,
    .refund 1 .refused,
    .refund 1 .refused,
    .refund 1 .refused ]

theorem refundedOnce_capped : RefundCap (run World.step (World.start sampleDb) refundedOnce) 1 :=
  (refundCap_run_iff rfl rfl 1 refundedOnce).mpr (by decide) refundedOnce [] (List.append_nil _).symm

/-- Two admins refund 120 of the 200 paid, and both checks pass before either row counts. -/
def refundedTwice : List Label := checkedOutOnce ++
  [ .adminRefund 1 12000 .adminGoodwill,
    .adminRefund 1 12000 .pricingError,
    .refund 1 .refused,
    .refund 2 .refused,
    .refund 1 .refused,
    .refund 1 .refused,
    .refund 2 .refused,
    .refund 2 .refused ]

theorem refundedTwice_aboveCap : ¬ RefundCap (run World.step (World.start sampleDb) refundedTwice) 1 := by
  intro h
  have hcap : ∀ p ∈ (run World.step (World.start sampleDb) refundedTwice).db.payments.find? 1,
      (run World.step (World.start sampleDb) refundedTwice).db.alreadyRefunded 1 ≤ p.amountMinor :=
    h.refunds
  revert hcap
  decide

end HostPlatform
