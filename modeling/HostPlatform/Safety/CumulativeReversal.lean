-- SUMMARY: What any sequence of refund events adds to the ledger and takes from the payout of one booking.
import HostPlatform.Lib.Transition
import HostPlatform.Safety.LegacyCheckout

/-!
# Cumulative reversal

Every event reverses, in each category, the difference between the share of all that
is refunded so far and what is reversed already. So after any events, in any order and
repeated, the ledger holds the shares of the total, and the payout what is left.
The shares are exact; the source's doubles give the same ones while an original amount
times the total stays below `2 ^ 52` (`roundShare_eq_reversalTarget`).
-/

namespace HostPlatform

open Lib (Table roundDiv)
open Lib.Transition

/-- One delivery of a refund event; an error rolls it back. -/
def deliverRefund (db : Db) (refund : RefundObject) : Db := Lib.commit db (onRefundEvent refund db)

/-! ## The booking that is refunded -/

/-- What the events rely on and never change: the payment that the events name, its
amount, the price row, the booking, and one refunds row per Stripe refund. -/
structure RefundBasis (db : Db) (b : BookingId) (intentId : PaymentIntentId) (charge : Int)
    (pc : PriceComponents) : Prop where
  payment : ∃ p, db.paymentByIntent intentId = some p ∧ p.bookingId = b ∧ p.amountMinor = charge
  priced : db.priceComponents.find? b = some pc
  booked : (db.bookings.find? b).isSome
  charge : 0 < charge
  unique : ∀ r ∈ db.refunds.rows, ∀ r' ∈ db.refunds.rows, ∀ i,
    r.providerRefundId = some i → r'.providerRefundId = some i → r = r'

/-- Nothing of the booking is refunded yet. -/
structure Unrefunded (db : Db) (b : BookingId) (pc : PriceComponents) : Prop where
  refunds : ∀ r ∈ db.refunds.rows, r.bookingId = b → r.status ≠ .succeeded
  ledger : ∀ e ∈ db.ledgerEntries, e.bookingId = b → e.status ≠ .reversed
  payouts : ∀ p ∈ db.payouts.rows, p.bookingId = b → p.status = .scheduled →
    p.amountMinor = pc.hostPayoutMinor

/-- A succeeded event of a refund of the booking, of a positive amount. -/
structure RefundOf (db : Db) (b : BookingId) (intentId : PaymentIntentId) (e : RefundObject) : Prop where
  status : e.status = .succeeded
  paymentIntent : e.paymentIntent = some intentId
  row : ∃ r ∈ db.refunds.rows, r.providerRefundId = some e.id ∧ r.bookingId = b ∧
    r.amountMinor = e.amount ∧ 0 < e.amount

/-- Some event of the list confirms the row. -/
def confirmedBy (es : List RefundObject) (r : Refund) : Bool :=
  es.any fun e => r.providerRefundId == some e.id

/-- The total amount of the refunds the events are about, each counted once. -/
def totalRefunded (db : Db) (b : BookingId) (es : List RefundObject) : Int :=
  db.refunds.sumWhere (fun r => decide (r.bookingId = b) && confirmedBy es r) Refund.amountMinor

/-! ## One event -/

theorem markRefundSucceeded_rows {i : StripeRefundId} {db marked : Db}
    (h : markRefundSucceeded i db = some marked) : marked.refunds.rows = db.refunds.rows.map fun r =>
      if r.providerRefundId = some i then { r with status := .succeeded } else r := by
  rw [(markRefundSucceeded_eq_some h).2, Table.rows_updateWhere]
  refine List.map_congr_left fun r _ => ?_
  unfold confirmsRow
  by_cases hi : r.providerRefundId = some i
  · by_cases hst : r.status = .succeeded
    · rw [if_pos hi, if_neg (by simp [hst]), ← hst]
    · rw [if_pos hi, if_pos (decide_eq_true ⟨hi, hst⟩)]
  · rw [if_neg hi, if_neg (by simp [hi])]

/-- The status updates keep which payment an intent names, and its amount. -/
theorem paymentByIntent_setRefundedStatuses (db : Db) (b : BookingId) (fullyRefunded : Bool)
    (intentId : PaymentIntentId) : ∃ f : Payment → Payment,
      (∀ p, (f p).bookingId = p.bookingId ∧ (f p).amountMinor = p.amountMinor) ∧
      (setRefundedStatuses db b fullyRefunded).paymentByIntent intentId =
        (db.paymentByIntent intentId).map f := by
  refine ⟨fun p => if Lib.key p == b then
    { p with status := if fullyRefunded then .refunded else .partiallyRefunded } else p, fun p => ?_, ?_⟩
  · by_cases hp : Lib.key p == b
    · simp only [if_pos hp, and_self]
    · simp only [if_neg hp, and_self]
  · unfold Db.paymentByIntent
    show (db.payments.rows.map _).find? _ = _
    rw [List.find?_map]
    congr 1
    refine congrArg (fun q => List.find? q db.payments.rows) (funext fun p => ?_)
    simp only [Function.comp]
    split
    · rfl
    · rfl

section

variable {db : Db} {b : BookingId} {intentId : PaymentIntentId} {charge : Int} {pc : PriceComponents}

/-- An event keeps what the events rely on, whichever booking it is about. -/
theorem RefundBasis.deliver (h : RefundBasis db b intentId charge pc) (e : RefundObject) :
    RefundBasis (deliverRefund db e) b intentId charge pc := by
  refine Lib.commit_of (P := fun db' : Db => RefundBasis db' b intentId charge pc) h fun u db' hok => ?_
  rcases onRefundEvent_eq_ok hok with rfl | ⟨payment, marked, -, -, hmarked, hrecord⟩
  · exact h
  have hdb := (markRefundSucceeded_eq_some hmarked).2
  have hframe := recordRefund_frame hrecord
  have hrows : db'.refunds.rows = marked.refunds.rows := by
    rw [hframe]
    rfl
  obtain ⟨p, hp, hpb, hamount⟩ := h.payment
  obtain ⟨f, hf, hfind⟩ := paymentByIntent_setRefundedStatuses marked payment.bookingId
    (decide (payment.amountMinor ≤ marked.cumulativeRefunded payment.bookingId)) intentId
  refine ⟨⟨f p, ?_, (hf p).1.trans hpb, (hf p).2.trans hamount⟩, ?_, ?_, h.charge, ?_⟩
  · have hpayments : db'.paymentByIntent intentId = (marked.paymentByIntent intentId).map f := by
      rw [hframe]
      exact hfind
    rw [hpayments, hdb]
    exact congrArg (Option.map f) hp
  · rw [hframe, hdb]
    exact h.priced
  · have hbookings : (db'.bookings.find? b).isSome = (marked.bookings.find? b).isSome := by
      rw [hframe]
      exact Db.isSome_setBookingStatus _ payment.bookingId _ b
    rw [hbookings, hdb]
    exact h.booked
  · rw [hrows, markRefundSucceeded_rows hmarked]
    intro r hr r' hr' i hi hi'
    obtain ⟨q, hq, rfl⟩ := List.mem_map.mp hr
    obtain ⟨q', hq', rfl⟩ := List.mem_map.mp hr'
    have hsame : q = q' := by
      refine h.unique q hq q' hq' i ?_ ?_
      · simpa only [apply_ite Refund.providerRefundId, ite_self] using hi
      · simpa only [apply_ite Refund.providerRefundId, ite_self] using hi'
    rw [hsame]

/-- A delivery of an event whose row has succeeded changes nothing. -/
theorem RefundBasis.deliver_again (h : RefundBasis db b intentId charge pc) {e : RefundObject} {r : Refund}
    (hr : r ∈ db.refunds.rows) (hid : r.providerRefundId = some e.id) (hst : r.status = .succeeded) :
    deliverRefund db e = db := by
  have hnone : markRefundSucceeded e.id db = none := by
    unfold markRefundSucceeded
    refine if_neg fun hany => ?_
    obtain ⟨s, hs, hconfirms⟩ := List.any_eq_true.mp hany
    obtain ⟨hsid, hne⟩ := of_decide_eq_true hconfirms
    rw [h.unique s hs r hr e.id hsid hid] at hne
    exact hne hst
  unfold deliverRefund
  rw [onRefundEvent_of_unmatched hnone]
  rfl

/-- A first delivery within the charge is recorded. -/
theorem RefundBasis.deliver_first (h : RefundBasis db b intentId charge pc) {e : RefundObject}
    (hstatus : e.status = .succeeded) (hintent : e.paymentIntent = some intentId) {r : Refund}
    (hr : r ∈ db.refunds.rows) (hid : r.providerRefundId = some e.id) (hst : r.status ≠ .succeeded) :
    ∃ marked, markRefundSucceeded e.id db = some marked ∧
      (0 ≤ marked.cumulativeRefunded b → marked.cumulativeRefunded b ≤ charge →
        ∃ payment booking reversal, payment.bookingId = b ∧ payment.amountMinor = charge ∧
          booking.id = b ∧
          RefundRecorded e payment pc booking reversal db marked (deliverRefund db e)) := by
  have hany : db.refunds.rows.any (confirmsRow e.id) :=
    List.any_eq_true.mpr ⟨r, hr, decide_eq_true ⟨hid, hst⟩⟩
  obtain ⟨marked, hmarked⟩ := markRefundSucceeded_of_any hany
  refine ⟨marked, hmarked, fun hpos hcap => ?_⟩
  have hdb := (markRefundSucceeded_eq_some hmarked).2
  obtain ⟨payment, hfind, hb, hamount⟩ := h.payment
  obtain ⟨booking, hbooking⟩ := Option.isSome_iff_exists.mp h.booked
  have hpayment : e.paymentIntent.bind db.paymentByIntent = some payment := by
    rw [hintent]
    exact hfind
  have hbooked : marked.bookings.find? payment.bookingId = some booking := by
    rw [hb, hdb]
    exact hbooking
  obtain ⟨db', hrecord⟩ : ∃ db', recordRefund e payment marked = .ok ((), db') :=
    recordRefund_total hbooked (.inr ⟨by rw [hamount]; exact h.charge, by rw [hb]; exact hpos,
      by rw [hb, hamount]; exact hcap⟩)
  have hok := (onRefundEvent_eq_recordRefund hstatus hpayment hmarked).trans hrecord
  have hdeliver : deliverRefund db e = db' := by
    unfold deliverRefund
    rw [hok]
    rfl
  obtain ⟨booking', reversal, hrecorded⟩ := recordRefund_recorded hpayment hmarked
    (by rw [hb]; exact h.priced) hrecord
  rw [hdeliver]
  exact ⟨payment, booking', reversal, hb, hamount,
    (show booking'.id = payment.bookingId from Table.key_of_find? hrecorded.booked).trans hb, hrecorded⟩

/-! ## What a recorded refund adds up to -/

/-- The entries of a type that took effect, added up. -/
def Db.ledgerNet (db : Db) (b : BookingId) (type : LedgerType) : Int :=
  ((db.ledgerEntries.filter fun e => decide (e.bookingId = b ∧ e.type = type
    ∧ (e.status = .paid ∨ e.status = .reversed))).map LedgerEntry.amountMinor).sum

theorem alreadyReversed_append {db db' : Db} {rows : List LedgerEntry}
    (h : db'.ledgerEntries = db.ledgerEntries ++ rows) (b : BookingId) (c : Category) :
    db'.alreadyReversed b c = db.alreadyReversed b c - ((rows.filter fun e =>
      decide (e.bookingId = b ∧ e.status = .reversed ∧ e.type = c.ledgerType)).map
        LedgerEntry.amountMinor).sum := by
  unfold Db.alreadyReversed
  rw [h, List.filter_append, List.map_append, List.sum_append]
  ring

theorem ledgerNet_append {db db' : Db} {rows : List LedgerEntry}
    (h : db'.ledgerEntries = db.ledgerEntries ++ rows) (b : BookingId) (type : LedgerType) :
    db'.ledgerNet b type = db.ledgerNet b type + ((rows.filter fun e => decide (e.bookingId = b
      ∧ e.type = type ∧ (e.status = .paid ∨ e.status = .reversed))).map LedgerEntry.amountMinor).sum := by
  unfold Db.ledgerNet
  rw [h, List.filter_append, List.map_append, List.sum_append]

section

variable {e : RefundObject} {payment : Payment} {booking : Booking} {reversal : RefundReversalResult}
  {marked db' : Db}

/-- After a recorded refund the reversed total of a category is its target. -/
theorem RefundRecorded.alreadyReversed (h : RefundRecorded e payment pc booking reversal db marked db')
    (hb : payment.bookingId = b) (hbooking : booking.id = b) (c : Category) :
    db'.alreadyReversed b c =
      reversalTarget (pc.amountOf c) (marked.cumulativeRefunded b) payment.amountMinor := by
  obtain ⟨-, -, hreversal⟩ := computeRefundReversalEntries_eq_ok.mp h.computed
  rw [alreadyReversed_append h.ledgerEntries, hreversal, hb]
  unfold refundLedgerRows ledgerEntry
  cases c <;> simp [Category.all, Category.ledgerType, hbooking]

/-- A recorded refund takes from a category what it adds to its reversed total. -/
theorem RefundRecorded.net_category (h : RefundRecorded e payment pc booking reversal db marked db')
    (hb : payment.bookingId = b) (hbooking : booking.id = b) (c : Category) :
    db'.ledgerNet b c.ledgerType = db.ledgerNet b c.ledgerType -
      (reversalTarget (pc.amountOf c) (marked.cumulativeRefunded b) payment.amountMinor
        - db.alreadyReversed b c) := by
  obtain ⟨-, -, hreversal⟩ := computeRefundReversalEntries_eq_ok.mp h.computed
  rw [ledgerNet_append h.ledgerEntries, hreversal, hb]
  unfold refundLedgerRows ledgerEntry
  cases c <;> simp [Category.all, Category.ledgerType, hbooking] <;> ring

theorem RefundRecorded.net_refund (h : RefundRecorded e payment pc booking reversal db marked db')
    (hbooking : booking.id = b) :
    db'.ledgerNet b .refund = db.ledgerNet b .refund + e.amount := by
  obtain ⟨-, -, hreversal⟩ := computeRefundReversalEntries_eq_ok.mp h.computed
  rw [ledgerNet_append h.ledgerEntries, hreversal]
  unfold refundLedgerRows ledgerEntry
  simp [Category.all, Category.ledgerType, hbooking]

theorem RefundRecorded.net_guestCharge (h : RefundRecorded e payment pc booking reversal db marked db') :
    db'.ledgerNet b .guestCharge = db.ledgerNet b .guestCharge := by
  obtain ⟨-, -, hreversal⟩ := computeRefundReversalEntries_eq_ok.mp h.computed
  rw [ledgerNet_append h.ledgerEntries, hreversal]
  unfold refundLedgerRows ledgerEntry
  simp [Category.all, Category.ledgerType]

end

/-! ## Any sequence of events -/

/-- A row as the events leave it. -/
def confirmRow (es : List RefundObject) (r : Refund) : Refund :=
  if confirmedBy es r then { r with status := .succeeded } else r

/-- Where the events have brought the database `db'`, from `db` on. -/
structure RefundProgress (db : Db) (b : BookingId) (intentId : PaymentIntentId) (charge : Int)
    (pc : PriceComponents) (es : List RefundObject) (db' : Db) : Prop where
  basis : RefundBasis db' b intentId charge pc
  rows : db'.refunds.rows = db.refunds.rows.map (confirmRow es)
  reversed : ∀ c, db'.alreadyReversed b c =
    reversalTarget (pc.amountOf c) (totalRefunded db b es) charge
  netCategory : ∀ c, db'.ledgerNet b c.ledgerType =
    db.ledgerNet b c.ledgerType - reversalTarget (pc.amountOf c) (totalRefunded db b es) charge
  netRefund : db'.ledgerNet b .refund = db.ledgerNet b .refund + totalRefunded db b es
  netGuestCharge : db'.ledgerNet b .guestCharge = db.ledgerNet b .guestCharge

theorem confirmedBy_concat (es : List RefundObject) (e : RefundObject) (r : Refund) :
    confirmedBy (es ++ [e]) r = (confirmedBy es r || r.providerRefundId == some e.id) := by
  unfold confirmedBy
  rw [List.any_append, List.any_cons, List.any_nil, Bool.or_false]

theorem totalRefunded_congr {es es' : List RefundObject}
    (h : ∀ r ∈ db.refunds.rows, confirmedBy es r = confirmedBy es' r) :
    totalRefunded db b es = totalRefunded db b es' := by
  unfold totalRefunded Table.sumWhere Table.select
  rw [List.filter_congr fun r hr => by rw [h r hr]]

theorem amount_pos_of_confirmedBy (hbasis : RefundBasis db b intentId charge pc)
    {es : List RefundObject} (hes : ∀ e ∈ es, RefundOf db b intentId e) {r : Refund}
    (hr : r ∈ db.refunds.rows) (h : confirmedBy es r) : 0 < r.amountMinor := by
  obtain ⟨e, he, hid⟩ := List.any_eq_true.mp h
  obtain ⟨s, hs, hsid, -, hamount, hpos⟩ := (hes e he).row
  rw [hbasis.unique r hr s hs e.id (beq_iff_eq.mp hid) hsid, hamount]
  exact hpos

theorem totalRefunded_nonneg (hbasis : RefundBasis db b intentId charge pc) {es : List RefundObject}
    (hes : ∀ e ∈ es, RefundOf db b intentId e) : 0 ≤ totalRefunded db b es := by
  refine Table.sumWhere_nonneg fun r hr hconfirmed => ?_
  exact (amount_pos_of_confirmedBy hbasis hes hr (Bool.and_eq_true_iff.mp hconfirmed).2).le

theorem confirmedBy_of_subset {es es' : List RefundObject} (h : ∀ e ∈ es, e ∈ es') {r : Refund}
    (hes : confirmedBy es r) : confirmedBy es' r := by
  obtain ⟨e, he, hid⟩ := List.any_eq_true.mp hes
  exact List.any_eq_true.mpr ⟨e, h e he, hid⟩

theorem totalRefunded_le_of_subset (hbasis : RefundBasis db b intentId charge pc)
    {es es' : List RefundObject} (hes : ∀ e ∈ es', RefundOf db b intentId e) (h : ∀ e ∈ es, e ∈ es') :
    totalRefunded db b es ≤ totalRefunded db b es' := by
  refine Table.sumWhere_le_of_imp _ (fun r hr hconfirmed => ?_) fun r _ hconfirmed => ?_
  · exact (amount_pos_of_confirmedBy hbasis hes hr (Bool.and_eq_true_iff.mp hconfirmed).2).le
  · obtain ⟨hb, hby⟩ := Bool.and_eq_true_iff.mp hconfirmed
    exact Bool.and_eq_true_iff.mpr ⟨hb, confirmedBy_of_subset h hby⟩

theorem totalRefunded_concat_le (hbasis : RefundBasis db b intentId charge pc) {es : List RefundObject}
    {e : RefundObject} (hes : ∀ e' ∈ es ++ [e], RefundOf db b intentId e') :
    totalRefunded db b es ≤ totalRefunded db b (es ++ [e]) :=
  totalRefunded_le_of_subset hbasis hes fun _ he' => List.mem_append_left _ he'

/-- A refund the list had not confirmed adds its amount to the total. -/
theorem totalRefunded_concat_first (hbasis : RefundBasis db b intentId charge pc)
    {es : List RefundObject} {e : RefundObject} {r : Refund} (hr : r ∈ db.refunds.rows)
    (hid : r.providerRefundId = some e.id) (hb : r.bookingId = b) (hnot : ¬ confirmedBy es r) :
    totalRefunded db b (es ++ [e]) = totalRefunded db b es + r.amountMinor := by
  refine Table.sumWhere_add_row hr ?_ ?_ (fun s hs hne => ?_) _
  · intro h
    exact hnot (Bool.and_eq_true_iff.mp h).2
  · refine Bool.and_eq_true_iff.mpr ⟨decide_eq_true hb, ?_⟩
    rw [confirmedBy_concat, hid, beq_self_eq_true, Bool.or_true]
  · have hother : (s.providerRefundId == some e.id) = false := by
      refine beq_eq_false_iff_ne.mpr fun hsid => hne ?_
      exact hbasis.unique s hs r hr e.id hsid hid
    rw [confirmedBy_concat, hother, Bool.or_false]

/-- The succeeded rows of the booking are the ones the events confirmed. -/
theorem cumulativeRefunded_of_rows (hnew : Unrefunded db b pc) {es : List RefundObject} {db' : Db}
    (hrows : db'.refunds.rows = db.refunds.rows.map (confirmRow es)) :
    db'.cumulativeRefunded b = totalRefunded db b es := by
  unfold Db.cumulativeRefunded totalRefunded
  rw [Table.sumWhere_eq_sum, Table.sumWhere_eq_sum, hrows, List.map_map]
  congr 1
  refine List.map_congr_left fun r hr => ?_
  simp only [Function.comp, confirmRow]
  by_cases hb : r.bookingId = b
  · have hst := hnew.refunds r hr hb
    by_cases hes : confirmedBy es r <;> simp [hes, hb, hst]
  · by_cases hes : confirmedBy es r <;> simp [hes, hb]

theorem confirmRow_concat_marked (es : List RefundObject) (e : RefundObject) (r : Refund) :
    (if (confirmRow es r).providerRefundId = some e.id then { confirmRow es r with status := .succeeded }
      else confirmRow es r) = confirmRow (es ++ [e]) r := by
  unfold confirmRow
  rw [confirmedBy_concat]
  by_cases hes : confirmedBy es r
  · by_cases hid : r.providerRefundId = some e.id <;> simp [hes, hid]
  · by_cases hid : r.providerRefundId = some e.id <;> simp [hes, hid]

theorem RefundProgress.nil (hbasis : RefundBasis db b intentId charge pc) (hnew : Unrefunded db b pc) :
    RefundProgress db b intentId charge pc [] db := by
  have hzero : totalRefunded db b [] = 0 :=
    Table.sumWhere_eq_zero fun r _ h => Bool.false_ne_true (Bool.and_eq_true_iff.mp h).2
  have htarget : ∀ c, reversalTarget (pc.amountOf c) (totalRefunded db b []) charge = 0 := by
    intro c
    unfold reversalTarget
    rw [hzero, mul_zero, Lib.roundDiv_zero hbasis.charge]
  refine ⟨hbasis, (List.map_id _).symm, fun c => ?_, fun c => ?_, ?_, rfl⟩
  · rw [htarget c]
    unfold Db.alreadyReversed
    have hnone : db.ledgerEntries.filter (fun e =>
        decide (e.bookingId = b ∧ e.status = .reversed ∧ e.type = c.ledgerType)) = [] := by
      refine List.filter_eq_nil_iff.mpr fun e he h => ?_
      obtain ⟨hb, hst, -⟩ := of_decide_eq_true h
      exact hnew.ledger e he hb hst
    rw [hnone]
    rfl
  · rw [htarget c, sub_zero]
  · rw [hzero, add_zero]

/-- One more event repeats an earlier one and changes nothing, or it is recorded. -/
theorem RefundProgress.deliver_cases (hbasis : RefundBasis db b intentId charge pc)
    (hnew : Unrefunded db b pc) {es : List RefundObject} {e : RefundObject}
    (hes : ∀ e' ∈ es ++ [e], RefundOf db b intentId e')
    (hcap : totalRefunded db b (es ++ [e]) ≤ charge) {db' : Db}
    (h : RefundProgress db b intentId charge pc es db') :
    (deliverRefund db' e).refunds.rows = db.refunds.rows.map (confirmRow (es ++ [e])) ∧
      (deliverRefund db' e = db' ∧ totalRefunded db b (es ++ [e]) = totalRefunded db b es ∨
        totalRefunded db b (es ++ [e]) = totalRefunded db b es + e.amount ∧
        ∃ marked payment booking reversal, payment.bookingId = b ∧ payment.amountMinor = charge ∧
          booking.id = b ∧ marked.cumulativeRefunded b = totalRefunded db b (es ++ [e]) ∧
          RefundRecorded e payment pc booking reversal db' marked (deliverRefund db' e)) := by
  have he := hes e (List.mem_append_right _ (List.mem_singleton.mpr rfl))
  obtain ⟨r, hr, hid, hb, hamount, -⟩ := he.row
  have hr' : confirmRow es r ∈ db'.refunds.rows := by
    rw [h.rows]
    exact List.mem_map_of_mem hr
  have hid' : (confirmRow es r).providerRefundId = some e.id := by
    unfold confirmRow
    rw [apply_ite Refund.providerRefundId, ite_self, hid]
  by_cases hdone : confirmedBy es r
  · -- The row has succeeded, and the list confirms the same rows as before.
    have hsame : ∀ s ∈ db.refunds.rows, confirmedBy (es ++ [e]) s = confirmedBy es s := by
      intro s hs
      rw [confirmedBy_concat]
      by_cases hsid : s.providerRefundId = some e.id
      · rw [hbasis.unique s hs r hr e.id hsid hid, hdone, Bool.true_or]
      · rw [beq_eq_false_iff_ne.mpr hsid, Bool.or_false]
    have hst : (confirmRow es r).status = .succeeded := by
      unfold confirmRow
      rw [if_pos hdone]
    have hagain := h.basis.deliver_again hr' hid' hst
    refine ⟨?_, .inl ⟨hagain, totalRefunded_congr hsame⟩⟩
    rw [hagain, h.rows]
    refine List.map_congr_left fun s hs => ?_
    unfold confirmRow
    rw [hsame s hs]
  · have hst : (confirmRow es r).status ≠ .succeeded := by
      unfold confirmRow
      rw [if_neg hdone]
      exact hnew.refunds r hr hb
    obtain ⟨marked, hmarked, hrecorded⟩ :=
      h.basis.deliver_first he.status he.paymentIntent hr' hid' hst
    have hrows : marked.refunds.rows = db.refunds.rows.map (confirmRow (es ++ [e])) := by
      rw [markRefundSucceeded_rows hmarked, h.rows, List.map_map]
      exact List.map_congr_left fun s _ => confirmRow_concat_marked es e s
    have hcum := cumulativeRefunded_of_rows hnew hrows
    obtain ⟨payment, booking, reversal, hpb, hpa, hbb, hrec⟩ := hrecorded
      (by rw [hcum]; exact totalRefunded_nonneg hbasis hes) (by rw [hcum]; exact hcap)
    refine ⟨by rw [hrec.refunds, hrows], .inr ⟨?_, marked, payment, booking, reversal, hpb, hpa, hbb,
      hcum, hrec⟩⟩
    rw [totalRefunded_concat_first hbasis hr hid hb hdone, hamount]

theorem RefundProgress.concat (hbasis : RefundBasis db b intentId charge pc)
    (hnew : Unrefunded db b pc) {es : List RefundObject} {e : RefundObject}
    (hes : ∀ e' ∈ es ++ [e], RefundOf db b intentId e')
    (hcap : totalRefunded db b (es ++ [e]) ≤ charge) {db' : Db}
    (h : RefundProgress db b intentId charge pc es db') :
    RefundProgress db b intentId charge pc (es ++ [e]) (deliverRefund db' e) := by
  obtain ⟨hrows, hcases⟩ := h.deliver_cases hbasis hnew hes hcap
  rcases hcases with ⟨hagain, htotal⟩ | ⟨htotal, marked, payment, booking, reversal, hpb, hpa, hbb, hcum, hrec⟩
  · refine ⟨h.basis.deliver e, hrows, ?_, ?_, ?_, ?_⟩
    · rw [hagain, htotal]
      exact h.reversed
    · rw [hagain, htotal]
      exact h.netCategory
    · rw [hagain, htotal]
      exact h.netRefund
    · rw [hagain]
      exact h.netGuestCharge
  · refine ⟨h.basis.deliver e, hrows, fun c => ?_, fun c => ?_, ?_, ?_⟩
    · rw [hrec.alreadyReversed hpb hbb c, hcum, hpa]
    · rw [hrec.net_category hpb hbb c, hcum, hpa, h.netCategory c, h.reversed c]
      ring
    · rw [hrec.net_refund hbb, h.netRefund, htotal]
      ring
    · rw [hrec.net_guestCharge, h.netGuestCharge]

/-- Any events, in any order and repeated, bring the database where their total says. -/
theorem RefundProgress.run (hbasis : RefundBasis db b intentId charge pc) (hnew : Unrefunded db b pc)
    {es : List RefundObject} (hes : ∀ e ∈ es, RefundOf db b intentId e)
    (hcap : totalRefunded db b es ≤ charge) :
    RefundProgress db b intentId charge pc es (run deliverRefund db es) := by
  induction es using List.reverseRecOn with
  | nil => exact .nil hbasis hnew
  | append_singleton es e ih =>
    have hpre := ih (fun e' he' => hes e' (List.mem_append_left _ he'))
      ((totalRefunded_concat_le hbasis hes).trans hcap)
    rw [run_concat]
    exact hpre.concat hbasis hnew hes hcap

/-! ## Signs -/

/-- With nothing negative to share out, no event reverses less than nothing, and a
payout that is still scheduled is what its reversals leave of it. -/
structure RefundSigns (db' : Db) (b : BookingId) (pc : PriceComponents) (reversed : Int) : Prop where
  entries : ∀ e ∈ db'.ledgerEntries, e.bookingId = b → e.status = .reversed → e.amountMinor ≤ 0
  payouts : ∀ p ∈ db'.payouts.rows, p.bookingId = b → p.status = .scheduled →
    p.amountMinor = pc.hostPayoutMinor - reversed

theorem reversalTarget_mono {original cumulative cumulative' : Int} (hcharge : 0 < charge)
    (horiginal : 0 ≤ original) (h : cumulative ≤ cumulative') :
    reversalTarget original cumulative charge ≤ reversalTarget original cumulative' charge :=
  Lib.roundDiv_share_mono hcharge horiginal h

/-- The rows of a recorded refund, one by one. -/
theorem RefundRecorded.entry_nonpos {e : RefundObject} {payment : Payment} {booking : Booking}
    {reversal : RefundReversalResult} {marked db' : Db}
    (h : RefundRecorded e payment pc booking reversal db marked db')
    (hgrow : ∀ c, db.alreadyReversed payment.bookingId c ≤ reversalTarget (pc.amountOf c)
      (marked.cumulativeRefunded payment.bookingId) payment.amountMinor) :
    ∀ row ∈ refundLedgerRows e booking pc reversal, row.status = .reversed → row.amountMinor ≤ 0 := by
  obtain ⟨-, -, hreversal⟩ := computeRefundReversalEntries_eq_ok.mp h.computed
  intro row hrow hst
  unfold refundLedgerRows at hrow
  rw [hreversal] at hrow
  obtain ⟨line, hline, rfl⟩ := List.mem_map.mp hrow
  rcases List.mem_cons.mp hline with rfl | hline
  · cases hst
  · obtain ⟨c, -, rfl⟩ := List.mem_map.mp hline
    show -(_ - _) ≤ _
    linarith [hgrow c]

/-- The payouts a recorded refund leaves. -/
theorem RefundRecorded.scheduled_payout {e : RefundObject} {payment : Payment} {booking : Booking}
    {reversal : RefundReversalResult} {marked db' : Db}
    (h : RefundRecorded e payment pc booking reversal db marked db') (hb : payment.bookingId = b)
    {p' : Payout} (hp' : p' ∈ db'.payouts.rows) (hpb : p'.bookingId = b) (hst : p'.status = .scheduled) :
    ∃ p ∈ db.payouts.rows, p.bookingId = b ∧ p.status = .scheduled ∧
      p'.amountMinor = p.amountMinor - max 0 reversal.hostPayoutReversalMinor := by
  rw [h.payouts, hb] at hp'
  unfold settlePayouts at hp'
  split at hp'
  · obtain ⟨p, hp, rfl⟩ := (Table.mem_updateWhere (by intro r; rfl)).mp hp'
    split at hst
    · cases hst
    · rename_i hnot
      rw [if_neg hnot] at hpb
      exact absurd (decide_eq_true ⟨hpb, hst⟩) hnot
  · split at hp'
    · rename_i hpos
      obtain ⟨p, hp, rfl⟩ := (Table.mem_updateWhere (by intro r; rfl)).mp hp'
      by_cases hcond : p.bookingId = b ∧ p.status = .scheduled
      · refine ⟨p, hp, hcond.1, hcond.2, ?_⟩
        rw [if_pos (decide_eq_true hcond), max_eq_right hpos.le]
      · rw [if_neg (by simpa using hcond)] at hpb hst
        exact absurd ⟨hpb, hst⟩ hcond
    · rename_i hnonpos
      exact ⟨p', hp', hpb, hst, by rw [max_eq_left (not_lt.mp hnonpos), sub_zero]⟩

/-- What the booking was charged has no negative part. -/
def PriceComponents.Nonneg (pc : PriceComponents) : Prop := ∀ c, 0 ≤ pc.amountOf c

theorem RefundSigns.run (hbasis : RefundBasis db b intentId charge pc) (hnew : Unrefunded db b pc)
    (hpc : pc.Nonneg) {es : List RefundObject} (hes : ∀ e ∈ es, RefundOf db b intentId e)
    (hcap : totalRefunded db b es ≤ charge) :
    RefundSigns (run deliverRefund db es) b pc
      (reversalTarget pc.hostPayoutMinor (totalRefunded db b es) charge) := by
  induction es using List.reverseRecOn with
  | nil =>
    refine ⟨fun e he hb hst => absurd hst (hnew.ledger e he hb), fun p hp hb hst => ?_⟩
    have hnil := (RefundProgress.nil hbasis hnew).reversed .hostPayout
    have hzero : reversalTarget pc.hostPayoutMinor (totalRefunded db b []) charge = 0 := by
      unfold reversalTarget
      rw [show totalRefunded db b [] = 0 from Table.sumWhere_eq_zero fun r _ h =>
        Bool.false_ne_true (Bool.and_eq_true_iff.mp h).2, mul_zero, Lib.roundDiv_zero hbasis.charge]
    rw [hzero, sub_zero]
    exact hnew.payouts p hp hb hst
  | append_singleton es e ih =>
    have hes' : ∀ e' ∈ es, RefundOf db b intentId e' := fun e' he' => hes e' (List.mem_append_left _ he')
    have hle := totalRefunded_concat_le hbasis hes
    have hsigns := ih hes' (hle.trans hcap)
    have hprogress := RefundProgress.run hbasis hnew hes' (hle.trans hcap)
    rw [run_concat]
    rcases (hprogress.deliver_cases hbasis hnew hes hcap).2 with
      ⟨hagain, htotal⟩ | ⟨-, marked, payment, booking, reversal, hpb, hpa, hbb, hcum, hrec⟩
    · rw [hagain, htotal]
      exact hsigns
    have hgrow : ∀ c, reversalTarget (pc.amountOf c) (totalRefunded db b es) charge ≤
        reversalTarget (pc.amountOf c) (totalRefunded db b (es ++ [e])) charge :=
      fun c => reversalTarget_mono hbasis.charge (hpc c) hle
    constructor
    · intro row hrow hb hst
      rw [hrec.ledgerEntries] at hrow
      rcases List.mem_append.mp hrow with hrow | hrow
      · exact hsigns.entries row hrow hb hst
      · refine hrec.entry_nonpos (fun c => ?_) row hrow hst
        rw [hpb, hprogress.reversed c, hcum, hpa]
        exact hgrow c
    · intro p' hp' hpb' hst
      obtain ⟨p, hp, hpb'', hst', hamount⟩ := hrec.scheduled_payout hpb hp' hpb' hst
      obtain ⟨-, -, hreversal⟩ := computeRefundReversalEntries_eq_ok.mp hrec.computed
      have hincrement : reversal.hostPayoutReversalMinor =
          reversalTarget pc.hostPayoutMinor (totalRefunded db b (es ++ [e])) charge
            - reversalTarget pc.hostPayoutMinor (totalRefunded db b es) charge := by
        rw [hreversal, hpb, hcum, hpa, hprogress.reversed .hostPayout]
        rfl
      have hpos : 0 ≤ reversal.hostPayoutReversalMinor := by
        rw [hincrement]
        exact sub_nonneg.mpr (hgrow .hostPayout)
      rw [hamount, hsigns.payouts p hp hpb'' hst', max_eq_right hpos, hincrement]
      ring

/-! ## The totals -/

/-- What a list of events leaves, told by their total alone. -/
structure CumulativelyReversed (db : Db) (b : BookingId) (charge : Int) (pc : PriceComponents)
    (es : List RefundObject) : Prop where
  cumulative : (run deliverRefund db es).cumulativeRefunded b = totalRefunded db b es
  totals : ∀ c, (run deliverRefund db es).alreadyReversed b c =
    roundDiv (pc.amountOf c * totalRefunded db b es) charge
  increments : ∀ e ∈ (run deliverRefund db es).ledgerEntries, e.bookingId = b → e.status = .reversed →
    e.amountMinor ≤ 0
  anyOrder : ∀ es' : List RefundObject, (∀ e, e ∈ es' ↔ e ∈ es) → ∀ c,
    (run deliverRefund db es').alreadyReversed b c = (run deliverRefund db es).alreadyReversed b c
  whole : ∀ c, (run deliverRefund db es).alreadyReversed b c = pc.amountOf c ↔
    2 * (pc.amountOf c * (charge - totalRefunded db b es)) ≤ charge
  full : totalRefunded db b es = charge → ∀ c,
    (run deliverRefund db es).alreadyReversed b c = pc.amountOf c
  payouts : ∀ p ∈ (run deliverRefund db es).payouts.rows, p.bookingId = b → p.status = .scheduled →
    0 ≤ p.amountMinor

end

/-- A stay of 400.00, half of it the host's nights, under fees that halve them again. -/
def evenSplitDb : Db := { sampleDb with feeConfigs := [⟨"v1", 5000, 5000, 5000, 0, true⟩] }

/-- The stay is paid, and `initiateRefund` has linked a refund of the amount. -/
def refundLinked (amountMinor : Int) : Db :=
  (run World.step (World.start evenSplitDb) (checkedOutOnce ++
    [ .adminRefund 1 amountMinor .adminGoodwill,
      .refund 1 .refused,
      .refund 1 .refused,
      .refund 1 .refused,
      .refund 1 (.created true),
      .refund 1 .refused ])).db

def refundSucceeded (amountMinor : Int) : RefundObject := ⟨1, some 1, amountMinor, .succeeded⟩

def evenSplitPrice : PriceComponents :=
  { bookingId := 1
    currency := "GBP"
    accommodationMinor := 20000
    cleaningMinor := 0
    guestServiceFeeMinor := 10000
    taxesMinor := 10000
    guestTotalMinor := 40000
    hostCommissionMinor := 10000
    hostPayoutMinor := 10000
    hostRevenueMinor := 20000
    feeConfigVersion := "v1" }

theorem refundLinked_basis : RefundBasis (refundLinked 12000) 1 1 40000 evenSplitPrice where
  payment := ⟨_, rfl, rfl, rfl⟩
  priced := by decide
  booked := by decide
  charge := by decide
  unique := by
    have hone : ∀ r ∈ (refundLinked 12000).refunds.rows, ∀ r' ∈ (refundLinked 12000).refunds.rows,
        r = r' := by decide
    intro r hr r' hr' i _ _
    exact hone r hr r' hr'

theorem refundLinked_unrefunded : Unrefunded (refundLinked 12000) 1 evenSplitPrice where
  refunds := by decide
  ledger := by decide
  payouts := by decide

end HostPlatform
