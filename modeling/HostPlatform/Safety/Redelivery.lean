-- SUMMARY: Which repeated webhook deliveries change a record again.
import HostPlatform.Safety.PaymentStatus
import Mathlib.Data.List.Find

/-!
# Redelivery

A handler that leaves a trace which no other event erases is harmless to repeat. The
dispute handler leaves none that it looks for, and the two handlers of a payment
overwrite a status that others may have written in between.
-/

namespace HostPlatform

open Lib (Table)
open Lib.Transition

/-- The tables in which the effects of an event are recorded. -/
structure HandlerRecords where
  payments : Table Payment
  bookings : Table Booking
  refunds : Table Refund
  ledgerEntries : List LedgerEntry
  payouts : Table Payout
  disputes : List Dispute

def Db.records (db : Db) : HandlerRecords :=
  { payments := db.payments
    bookings := db.bookings
    refunds := db.refunds
    ledgerEntries := db.ledgerEntries
    payouts := db.payouts
    disputes := db.disputes }

/-- The failure as `onPaymentFailed` writes it into a payments row. -/
def failedPayment (intent : PaymentIntentObject) (p : Payment) : Payment :=
  { p with
    status := .failed
    failureCode := intent.lastPaymentError.bind PaymentError.code
    failureMessage := intent.lastPaymentError.bind PaymentError.message }

/-- What a repeated delivery has to find: a payment still as the first one left it, and
a dispute of no payment at all. -/
def RedeliveryHarmless (db : Db) : WebhookEvent → Prop
  | .paymentSucceeded intent => intent.isLegacy →
    ∀ p ∈ db.paymentByIntent intent.id, p.status = .paid
  | .paymentFailed intent => ∀ p ∈ db.paymentByIntent intent.id, failedPayment intent p = p
  | .disputeCreated dispute => dispute.paymentIntent.bind db.paymentByIntent = none
  | _ => True

instance (db : Db) (event : WebhookEvent) : Decidable (RedeliveryHarmless db event) := by
  unfold RedeliveryHarmless
  split <;> infer_instance

/-- Every record but the payments is kept. -/
structure Db.KeepsRest (db db' : Db) : Prop where
  bookings : db'.bookings = db.bookings
  refunds : db'.refunds = db.refunds
  ledgerEntries : db'.ledgerEntries = db.ledgerEntries
  payouts : db'.payouts = db.payouts
  disputes : db'.disputes = db.disputes

theorem Db.KeepsRest.refl (db : Db) : db.KeepsRest db := ⟨rfl, rfl, rfl, rfl, rfl⟩

theorem Db.KeepsRest.records_iff {db db' : Db} (h : db.KeepsRest db') :
    db'.records = db.records ↔ db'.payments = db.payments := by
  constructor
  · intro hrecords
    exact congrArg HandlerRecords.payments hrecords
  · intro hpayments
    unfold Db.records
    rw [hpayments, h.bookings, h.refunds, h.ledgerEntries, h.payouts, h.disputes]

/-! ## A payment that succeeded -/

theorem confirmPendingBooking_bookings {db : Db} {b : BookingId}
    (h : db.statusOf b ≠ some .pendingPayment) : (confirmPendingBooking db b).bookings = db.bookings := by
  unfold confirmPendingBooking
  apply Table.updateWhere_eq_self
  case hf => exact fun _ => rfl
  case h =>
    intro r hr hq
    refine absurd ?_ h
    obtain ⟨rfl, hst⟩ := of_decide_eq_true hq
    unfold Db.statusOf
    rw [show db.bookings.find? r.id = some r from Table.find?_of_mem hr, Option.map_some, hst]

theorem onNewFlowPaymentSucceeded_keepsRest {db : Db} (now : Int) {intent : PaymentIntentObject}
    (hpending : ∀ b ∈ intent.bookingId, db.statusOf b ≠ some .pendingPayment) :
    db.KeepsRest (onNewFlowPaymentSucceeded now intent db).2 := by
  unfold onNewFlowPaymentSucceeded
  split
  · exact .refl db
  · rename_i booking hbooking
    split
    · exact .refl db
    · obtain ⟨b, hb, hfind⟩ := Option.bind_eq_some_iff.mp hbooking
      have hid : booking.id = b := Table.key_of_find? hfind
      have hmarked : (markAttemptSucceeded db intent.paymentAttemptId intent.id).bookings = db.bookings := by
        rw [markAttemptSucceeded_frame]
      have hsame : (confirmPendingBooking (markAttemptSucceeded db intent.paymentAttemptId intent.id)
          booking.id).bookings = (markAttemptSucceeded db intent.paymentAttemptId intent.id).bookings := by
        apply confirmPendingBooking_bookings
        unfold Db.statusOf
        rw [hmarked, hid]
        exact hpending b hb
      refine ⟨hsame.trans hmarked, ?_, ?_, ?_, ?_⟩
      all_goals
        rw [markAttemptSucceeded_frame]
        rfl

theorem onLegacyPaymentSucceeded_keepsRest {now : Int} {b : BookingId} {intentId : PaymentIntentId}
    {db db' : Db} {u : Unit} (hpending : db.statusOf b ≠ some .pendingPayment)
    (h : onLegacyPaymentSucceeded now b intentId db = .ok (u, db')) : db.KeepsRest db' := by
  rcases onLegacyPaymentSucceeded_eq_ok h with rfl | ⟨-, rfl⟩ | ⟨booking, pc, hbooking, hst, -, -⟩
  · exact .refl _
  · exact ⟨rfl, rfl, rfl, rfl, rfl⟩
  · unfold Db.statusOf at hpending
    rw [hbooking, Option.map_some, hst] at hpending
    exact absurd rfl hpending

/-- A success that finds its booking no longer pending writes its payments row at most. -/
theorem deliver_paymentSucceeded_keepsRest {db : Db} (now : Int) {intent : PaymentIntentObject}
    (hpending : ∀ b ∈ intent.bookingId, db.statusOf b ≠ some .pendingPayment) :
    db.KeepsRest (deliver db ⟨now, .paymentSucceeded intent⟩) := by
  refine Lib.commit_of (P := fun db' : Db => db.KeepsRest db') (.refl db) fun u db' h => ?_
  obtain ⟨input, paid, hok, hdb'⟩ := handlePaymentSucceeded_eq_ok h
  have hpaid : db.KeepsRest paid := by
    obtain rfl | rfl | ⟨b, hb, u, hlegacy⟩ := onPaymentSucceeded_eq_ok hok
    · exact .refl paid
    · exact onNewFlowPaymentSucceeded_keepsRest now hpending
    · exact onLegacyPaymentSucceeded_keepsRest (hpending b hb) hlegacy
  obtain rfl | ⟨i, rfl⟩ := hdb'
  · exact hpaid
  · rw [createEntitlement_frame]
    exact ⟨hpaid.bookings, hpaid.refunds, hpaid.ledgerEntries, hpaid.payouts, hpaid.disputes⟩

/-- Writing one row by its intent changes nothing exactly if the row has the new values. -/
theorem Db.WebhookReady.update_eq_iff {db : Db} (hready : db.WebhookReady) {intentId : PaymentIntentId}
    {f : Payment → Payment} {hf : ∀ p : Payment, Lib.key (f p) = Lib.key p} :
    (updatePaymentByIntent db intentId f hf).payments = db.payments ↔
      ∀ p ∈ db.paymentByIntent intentId, f p = p := by
  constructor
  · intro h p hp
    obtain ⟨hmem, hi⟩ := paymentByIntent_mem hp
    have hfind : (updatePaymentByIntent db intentId f hf).payments.find? p.bookingId = _ :=
      find?_updatePaymentByIntent intentId f hf p.bookingId
    rw [h, show db.payments.find? p.bookingId = some p from Table.find?_of_mem hmem] at hfind
    simp only [Option.map_some, hi, beq_self_eq_true, if_true, Option.some.injEq] at hfind
    exact hfind.symm
  · intro h
    refine Table.updateWhere_eq_self hf fun p hp hi => ?_
    exact h p (hready.paymentByIntent_eq hp (beq_iff_eq.mp hi))

/-! ## What the first delivery leaves -/

/-- The refunds of a booking that count once `i` is confirmed. -/
def Db.refundedWith (db : Db) (i : StripeRefundId) (b : BookingId) : Int :=
  db.refunds.sumWhere
    (fun r => decide (r.bookingId = b ∧ (r.status = .succeeded ∨ r.providerRefundId = some i)))
    Refund.amountMinor

/-- The event has no refund to record: it is not final, or names no payment, or its row
has succeeded already, or more would be refunded than was paid. -/
def RefundSettled (db : Db) (refund : RefundObject) : Prop :=
  refund.status = .succeeded → ∀ p ∈ refund.paymentIntent.bind db.paymentByIntent,
    (∀ r ∈ db.refunds.rows, ¬ confirmsRow refund.id r) ∨
      p.amountMinor < db.refundedWith refund.id p.bookingId

/-- What the first delivery of an event brings about and no other event undoes. -/
def Handled (db : Db) : WebhookEvent → Prop
  | .paymentSucceeded intent =>
    (intent.isLegacy → db.paymentByIntent intent.id = none) →
      ∀ b ∈ intent.bookingId, db.statusOf b ≠ some .pendingPayment
  | .refundCreated refund | .refundUpdated refund => RefundSettled db refund
  | .refundFailed refund => ∀ r ∈ db.refunds.rows, confirmsRow refund.id r → r.status = .failed
  | _ => True

section

variable {db : Db}

theorem confirmPendingBooking_not_pending {b : BookingId} (h : db.statusOf b ≠ some .pendingPayment) (b' : BookingId) :
    (confirmPendingBooking db b').statusOf b ≠ some .pendingPayment := by
  rw [statusOf_confirmPendingBooking]
  split
  · nofun
  · exact h

theorem setBookingStatus_not_pending {b : BookingId} (h : db.statusOf b ≠ some .pendingPayment) (b' : BookingId)
    {st : BookingStatus} (hst : st ≠ .pendingPayment) :
    (db.setBookingStatus b' st).statusOf b ≠ some .pendingPayment := by
  rw [Db.statusOf_setBookingStatus]
  split
  · intro hmap
    obtain ⟨-, -, heq⟩ := Option.map_eq_some_iff.mp hmap
    exact hst heq
  · exact h

theorem onRefundEvent_not_pending {b : BookingId} (h : db.statusOf b ≠ some .pendingPayment) (refund : RefundObject) :
    (Lib.commit db (onRefundEvent refund db)).statusOf b ≠ some .pendingPayment := by
  refine Lib.commit_of (P := fun db' : Db => db'.statusOf b ≠ some .pendingPayment) h fun u db' hok => ?_
  rcases onRefundEvent_eq_ok hok with rfl | ⟨payment, marked, -, -, hmarked, hrecord⟩
  · exact h
  · rw [recordRefund_frame hrecord, (markRefundSucceeded_eq_some hmarked).2]
    refine setBookingStatus_not_pending ?_ payment.bookingId ?_
    · exact h
    · split <;> rintro ⟨⟩

theorem onPaymentSucceeded_not_pending {b : BookingId} (h : db.statusOf b ≠ some .pendingPayment) {now : Int}
    {intent : PaymentIntentObject} {input : Option EntitlementInput} {paid : Db}
    (hpaid : onPaymentSucceeded now intent db = .ok (input, paid)) : paid.statusOf b ≠ some .pendingPayment := by
  obtain rfl | rfl | ⟨b', -, u, hlegacy⟩ := onPaymentSucceeded_eq_ok hpaid
  · exact h
  · unfold onNewFlowPaymentSucceeded
    split
    · exact h
    · split
      · exact h
      · apply confirmPendingBooking_not_pending
        rw [markAttemptSucceeded_frame]
        exact h
  · rcases onLegacyPaymentSucceeded_eq_ok hlegacy with heq | ⟨-, heq⟩ | ⟨booking, pc, -, -, -, heq⟩
    · rw [heq]
      exact h
    · rw [heq]
      exact h
    · rw [heq]
      refine confirmPendingBooking_not_pending ?_ b'
      exact h

/-- No delivery makes a booking wait for a payment. -/
theorem deliver_not_pending {b : BookingId} (h : db.statusOf b ≠ some .pendingPayment) (d : Delivery) :
    (deliver db d).statusOf b ≠ some .pendingPayment := by
  obtain ⟨now, event⟩ := d
  cases event with
  | paymentSucceeded intent =>
    refine Lib.commit_of (P := fun db' : Db => db'.statusOf b ≠ some .pendingPayment) h fun u db' hok => ?_
    obtain ⟨input, paid, hpaid, hdb'⟩ := handlePaymentSucceeded_eq_ok hok
    have hnot := onPaymentSucceeded_not_pending h hpaid
    obtain rfl | ⟨i, rfl⟩ := hdb'
    · exact hnot
    · rw [createEntitlement_frame]
      exact hnot
  | refundCreated refund => exact onRefundEvent_not_pending h refund
  | refundUpdated refund => exact onRefundEvent_not_pending h refund
  | disputeCreated dispute =>
    show (onDisputeCreated dispute db).statusOf b ≠ _
    unfold onDisputeCreated
    split
    · exact h
    · rename_i payment _
      refine setBookingStatus_not_pending ?_ payment.bookingId nofun
      exact h
  | paymentFailed intent => exact h
  | refundFailed refund => exact h
  | accountUpdated account => exact h
  | unhandled type => exact h

/-- Statuses alone change, so an intent names the row it named before. -/
theorem Db.Advances.paymentByIntent {db' : Db} (h : db.Advances db') (i : PaymentIntentId) :
    ∃ f : Payment → Payment, (∀ p ∈ db.payments.rows, p.SamePayment (f p)) ∧
      db'.paymentByIntent i = (db.paymentByIntent i).map f := by
  obtain ⟨f, hrows, hf⟩ := h.payments
  refine ⟨f, fun p hp => (hf p hp).1, ?_⟩
  unfold Db.paymentByIntent
  rw [hrows, List.find?_map]
  apply congrArg (Option.map f)
  apply List.find?_congr
  intro p hp
  simp only [Function.comp, (hf p hp).1.2.1]

theorem Db.Advances.paymentByIntent_none {db' : Db} (h : db.Advances db') {i : PaymentIntentId}
    (hnone : db'.paymentByIntent i = none) : db.paymentByIntent i = none := by
  obtain ⟨f, -, hfind⟩ := h.paymentByIntent i
  rw [hfind] at hnone
  exact Option.map_eq_none_iff.mp hnone

/-- The payment of an event, seen from before a step. -/
theorem Db.Advances.paymentOf {db' : Db} (h : db.Advances db') {intent : Option PaymentIntentId}
    {p' : Payment} (hp' : intent.bind db'.paymentByIntent = some p') :
    ∃ p, intent.bind db.paymentByIntent = some p ∧ p.SamePayment p' := by
  obtain ⟨i, rfl, hfind⟩ := Option.bind_eq_some_iff.mp hp'
  obtain ⟨f, hf, hmap⟩ := h.paymentByIntent i
  rw [hmap] at hfind
  obtain ⟨p, hp, rfl⟩ := Option.map_eq_some_iff.mp hfind
  exact ⟨p, hp, hf p (paymentByIntent_mem hp).1⟩

theorem Refund.Advances.confirms {r r' : Refund} (h : r.Advances r') {i : StripeRefundId}
    (hconfirms : confirmsRow i r') : confirmsRow i r := by
  obtain ⟨hid, hne⟩ := of_decide_eq_true hconfirms
  refine decide_eq_true ⟨?_, fun hst => hne (h.succeeded hst)⟩
  rw [← h.providerRefundId]
  exact hid

theorem Db.Advances.refundedWith_le {db' : Db} (h : db.Advances db')
    (hamounts : ∀ r ∈ db.refunds.rows, 0 ≤ r.amountMinor) (i : StripeRefundId) (b : BookingId) :
    db.refundedWith i b ≤ db'.refundedWith i b := by
  obtain ⟨g, hrows, hg⟩ := h.refunds
  unfold Db.refundedWith
  rw [Table.sumWhere_eq_sum, Table.sumWhere_eq_sum, hrows, List.map_map]
  apply List.sum_le_sum
  intro r hr
  obtain ⟨hb, hamount, hid, hsucceeded, -⟩ := hg r hr
  simp only [Function.comp, hb, hamount, hid]
  split
  · rename_i hcounts
    simp only [decide_eq_true_eq] at hcounts
    rw [if_pos (decide_eq_true ⟨hcounts.1, hcounts.2.imp_left hsucceeded⟩)]
  · split
    · exact hamounts r hr
    · exact le_rfl

/-- What is handled stays handled, whatever is delivered next. -/
theorem handled_stays (hready : db.WebhookReady) {event : WebhookEvent} (h : Handled db event)
    (d : Delivery) : Handled (deliver db d) event := by
  have hadvances := deliver_advances db d
  have of_refund : ∀ refund, RefundSettled db refund → RefundSettled (deliver db d) refund := by
    intro refund hsettled hst p' hp'
    obtain ⟨p, hp, hb, -, hamount⟩ := hadvances.paymentOf hp'
    rw [hb, hamount]
    cases hsettled hst p hp with
    | inl hnone =>
      left
      obtain ⟨g, hrows, hg⟩ := hadvances.refunds
      intro r' hr' hconfirms
      rw [hrows] at hr'
      obtain ⟨r, hr, rfl⟩ := List.mem_map.mp hr'
      exact hnone r hr ((hg r hr).confirms hconfirms)
    | inr hover =>
      right
      exact hover.trans_le (hadvances.refundedWith_le hready.refunds.amounts refund.id p.bookingId)
  cases event with
  | paymentSucceeded intent =>
    intro hnone b hb
    refine deliver_not_pending (h (fun hlegacy => ?_) b hb) d
    exact hadvances.paymentByIntent_none (hnone hlegacy)
  | refundCreated refund => exact of_refund refund h
  | refundUpdated refund => exact of_refund refund h
  | refundFailed refund =>
    intro r' hr' hconfirms
    obtain ⟨g, hrows, hg⟩ := hadvances.refunds
    rw [hrows] at hr'
    obtain ⟨r, hr, rfl⟩ := List.mem_map.mp hr'
    have hfailed := h r hr ((hg r hr).confirms hconfirms)
    rcases (hg r hr).status with hst | hst | hst
    · rw [hst, hfailed]
    · exact absurd hst (of_decide_eq_true hconfirms).2
    · exact hst
  | paymentFailed intent => trivial
  | disputeCreated dispute => trivial
  | accountUpdated account => trivial
  | unhandled type => trivial

/-- The total with the row of the event confirmed. -/
theorem cumulativeRefunded_marked {i : StripeRefundId} {marked : Db}
    (h : markRefundSucceeded i db = some marked) (b : BookingId) :
    marked.cumulativeRefunded b = db.refundedWith i b := by
  unfold Db.cumulativeRefunded Db.refundedWith
  rw [(markRefundSucceeded_eq_some h).2, Table.sumWhere_eq_sum, Table.sumWhere_eq_sum, Table.rows_updateWhere,
    List.map_map]
  congr 1
  refine List.map_congr_left fun r _ => ?_
  simp only [Function.comp, confirmsRow]
  by_cases hid : r.providerRefundId = some i
  · by_cases hst : r.status = .succeeded <;> simp [hid, hst]
  · simp [hid]

/-- The event is rolled back exactly when it would refund more than was paid. -/
theorem Db.WebhookReady.onRefundEvent_marked (hready : db.WebhookReady) {refund : RefundObject}
    (hst : refund.status = .succeeded) {p : Payment}
    (hp : refund.paymentIntent.bind db.paymentByIntent = some p) {marked : Db}
    (hmarked : markRefundSucceeded refund.id db = some marked) :
    (∃ db', onRefundEvent refund db = .ok ((), db')) ∨ p.amountMinor < db.refundedWith refund.id p.bookingId := by
  rw [onRefundEvent_eq_recordRefund hst hp hmarked, ← cumulativeRefunded_marked hmarked]
  have hdb := (markRefundSucceeded_eq_some hmarked).2
  obtain ⟨i, -, hfind⟩ := Option.bind_eq_some_iff.mp hp
  have hmem := (paymentByIntent_mem hfind).1
  obtain ⟨booking, hbooking⟩ := Option.isSome_iff_exists.mp (hready.booked p hmem)
  have hbooked : marked.bookings.find? p.bookingId = some booking := by
    rw [hdb]
    exact hbooking
  have hpos : 0 ≤ marked.cumulativeRefunded p.bookingId := by
    apply Table.sumWhere_nonneg
    intro r hr _
    obtain ⟨g, hrows, hg⟩ := markRefundSucceeded_advances hmarked
    rw [hrows] at hr
    obtain ⟨q, hq, rfl⟩ := List.mem_map.mp hr
    rw [(hg q hq).amountMinor]
    exact hready.refunds.amounts q hq
  cases lt_or_ge p.amountMinor (marked.cumulativeRefunded p.bookingId) with
  | inl hover => exact .inr hover
  | inr hle => exact .inl (recordRefund_total hbooked (.inr ⟨hready.amount p hmem, hpos, hle⟩))

theorem Db.WebhookReady.refundSettled (hready : db.WebhookReady) (refund : RefundObject) :
    RefundSettled (Lib.commit db (onRefundEvent refund db)) refund := by
  intro hst p' hp'
  cases hok : onRefundEvent refund db with
  | error e =>
    rw [hok] at hp'
    have hp : refund.paymentIntent.bind db.paymentByIntent = some p' := hp'
    show (∀ r ∈ db.refunds.rows, _) ∨ _ < db.refundedWith refund.id p'.bookingId
    cases hmarked : markRefundSucceeded refund.id db with
    | none =>
      rw [onRefundEvent_of_unmatched hmarked] at hok
      cases hok
    | some marked =>
      right
      have hcases := hready.onRefundEvent_marked hst hp hmarked
      rw [hok] at hcases
      exact hcases.resolve_left nofun
  | ok r =>
    obtain ⟨u, db'⟩ := r
    rw [hok] at hp'
    left
    obtain ⟨p, hp, -⟩ := (onRefundEvent_advances hok).paymentOf hp'
    intro r hr hconfirms
    cases hmarked : markRefundSucceeded refund.id db with
    | none =>
      rw [onRefundEvent_of_unmatched hmarked] at hok
      cases hok
      have hmem : r ∈ db.refunds.rows := hr
      obtain ⟨marked, hmarks⟩ := markRefundSucceeded_of_any (List.any_eq_true.mpr ⟨r, hmem, hconfirms⟩)
      rw [hmarked] at hmarks
      cases hmarks
    | some marked =>
      have hrecord := hok
      rw [onRefundEvent_eq_recordRefund hst hp hmarked] at hrecord
      have hrows : db'.refunds.rows = marked.refunds.rows := by
        rw [recordRefund_frame hrecord]
        rfl
      rw [show (Lib.commit db (.ok (u, db'))).refunds.rows = db'.refunds.rows from rfl, hrows,
        (markRefundSucceeded_eq_some hmarked).2] at hr
      obtain ⟨q, hq, rfl⟩ := (Table.mem_updateWhere (by intro r; rfl)).mp hr
      obtain ⟨hid, hne⟩ := of_decide_eq_true hconfirms
      split at hid
      · rename_i hq'
        rw [if_pos hq'] at hne
        exact hne rfl
      · rename_i hq'
        rw [if_neg hq'] at hne
        exact hq' (decide_eq_true ⟨hid, hne⟩)

/-- A settled event changes nothing. -/
theorem RefundSettled.idle (hready : db.WebhookReady) {refund : RefundObject} (h : RefundSettled db refund) :
    Lib.commit db (onRefundEvent refund db) = db := by
  cases hok : onRefundEvent refund db with
  | error e => rfl
  | ok r =>
    obtain ⟨u, db'⟩ := r
    rcases onRefundEvent_eq_ok hok with rfl | ⟨p, marked, hst, hp, hmarked, hrecord⟩
    · rfl
    · cases h hst p hp with
      | inl hnone =>
        obtain ⟨r, hr, hconfirms⟩ := List.any_eq_true.mp (markRefundSucceeded_eq_some hmarked).1
        exact absurd hconfirms (hnone r hr)
      | inr hover =>
        rw [← cumulativeRefunded_marked hmarked] at hover
        rcases recordRefund_eq_ok hrecord with ⟨hunpriced, -⟩ | ⟨pc, booking, reversal, -, -, hreversal, -⟩
        · obtain ⟨i, -, hfind⟩ := Option.bind_eq_some_iff.mp hp
          obtain ⟨b, hb⟩ := Option.isSome_iff_exists.mp (hready.booked p (paymentByIntent_mem hfind).1)
          obtain ⟨pc, hpc⟩ := hready.priced _ b hb
          rw [(markRefundSucceeded_eq_some hmarked).2] at hunpriced
          rw [show db.priceComponents.find? p.bookingId = none from hunpriced] at hpc
          cases hpc
        · exact absurd (computeRefundReversalEntries_eq_ok.mp hreversal).2.1.2 (not_le.mpr hover)

theorem onLegacyPaymentSucceeded_not_pending {now : Int} {b : BookingId} {i : PaymentIntentId}
    (hnone : db.paymentByIntent i = none) {db' : Db} {u : Unit}
    (h : onLegacyPaymentSucceeded now b i db = .ok (u, db')) : db'.statusOf b ≠ some .pendingPayment := by
  simp only [onLegacyPaymentSucceeded, hnone, Option.any_none, Bool.false_eq_true, if_false] at h
  split at h
  · rename_i hfilter
    cases h
    intro hst
    obtain ⟨booking, hbooking, hpending⟩ := Option.map_eq_some_iff.mp hst
    rw [show db.bookings.find? b = some booking from hbooking] at hfilter
    simp [hpending] at hfilter
  · split at h
    · cases h
    · cases h
      show (confirmPendingBooking _ b).statusOf b ≠ _
      rw [statusOf_confirmPendingBooking]
      split
      · rintro ⟨⟩
      · rename_i hnot
        exact fun hst => hnot ⟨rfl, hst⟩

theorem onNewFlowPaymentSucceeded_not_pending (now : Int) {intent : PaymentIntentObject} {b : BookingId}
    (hb : intent.bookingId = some b) :
    (onNewFlowPaymentSucceeded now intent db).2.statusOf b ≠ some .pendingPayment := by
  unfold onNewFlowPaymentSucceeded
  rw [hb]
  split
  · rename_i hnone
    unfold Db.statusOf
    rw [show db.bookings.find? b = none from hnone]
    nofun
  · rename_i booking hbooking
    have hid : booking.id = b := Table.key_of_find? hbooking
    split
    · rename_i hconfirmed
      unfold Db.statusOf
      rw [show db.bookings.find? b = some booking from hbooking, Option.map_some, hconfirmed]
      nofun
    · rw [statusOf_confirmPendingBooking]
      split
      · nofun
      · rename_i hnot
        exact fun hst => hnot ⟨hid.symm, hid ▸ hst⟩

/-- The first delivery handles the event. -/
theorem handled_deliver (hready : db.WebhookReady) (d : Delivery) : Handled (deliver db d) d.event := by
  obtain ⟨now, event⟩ := d
  cases event with
  | paymentSucceeded intent =>
    intro hnone b hb
    have hb' : intent.bookingId = some b := hb
    have hadvances := deliver_advances db ⟨now, .paymentSucceeded intent⟩
    have hentitled : ∀ (paid : Db) (input : Option EntitlementInput),
        onPaymentSucceeded now intent db = .ok (input, paid) → paid.statusOf b ≠ some .pendingPayment →
        (Lib.commit db (handlePaymentSucceeded now intent db)).statusOf b ≠ some .pendingPayment := by
      intro paid input hdeliver h
      unfold handlePaymentSucceeded
      rw [hdeliver]
      cases input with
      | none => exact h
      | some input =>
        show (createEntitlement input paid).statusOf b ≠ _
        rw [createEntitlement_frame]
        exact h
    by_cases hflow : intent.paymentFlowVersion = some .separateChargesDelayedV1
    · have hdeliver : onPaymentSucceeded now intent db = .ok (onNewFlowPaymentSucceeded now intent db) := by
        unfold onPaymentSucceeded
        simp only [hb', hflow, if_true]
      exact hentitled _ _ hdeliver (onNewFlowPaymentSucceeded_not_pending now hb')
    · have hlegacy : intent.isLegacy := by
        unfold PaymentIntentObject.isLegacy
        rw [hb', bne_iff_ne.mpr hflow]
        rfl
      have hunnamed := hadvances.paymentByIntent_none (hnone hlegacy)
      obtain ⟨db', hok, -⟩ := onLegacyPaymentSucceeded_payments hready.priced now b intent.id
      have hdeliver : onPaymentSucceeded now intent db = .ok (none, db') := by
        unfold onPaymentSucceeded
        simp only [hb', hflow, if_false, hok]
        rfl
      exact hentitled _ _ hdeliver (onLegacyPaymentSucceeded_not_pending hunnamed hok)
  | refundCreated refund => exact hready.refundSettled refund
  | refundUpdated refund => exact hready.refundSettled refund
  | refundFailed refund =>
    intro r hr hconfirms
    obtain ⟨q, hq, rfl⟩ := (Table.mem_updateWhere (by intro r; rfl)).mp hr
    split
    · rfl
    · rename_i hnot
      rw [if_neg hnot] at hconfirms
      exact absurd hconfirms hnot
  | paymentFailed intent => trivial
  | disputeCreated dispute => trivial
  | accountUpdated account => trivial
  | unhandled type => trivial

/-! ## A second delivery -/

theorem deliver_paymentSucceeded_paid {now : Int} {intent : PaymentIntentObject} (hlegacy : intent.isLegacy)
    {p : Payment} (hp : db.paymentByIntent intent.id = some p) (hpaid : p.status = .paid) :
    deliver db ⟨now, .paymentSucceeded intent⟩ = db := by
  obtain ⟨hbooking, hflow⟩ := Bool.and_eq_true_iff.mp hlegacy
  obtain ⟨b, hb⟩ := Option.isSome_iff_exists.mp hbooking
  have hok : onLegacyPaymentSucceeded now b intent.id db = .ok ((), db) := by
    simp only [onLegacyPaymentSucceeded, hp, Option.any_some, hpaid, decide_true, if_true]
  show Lib.commit db (handlePaymentSucceeded now intent db) = db
  unfold handlePaymentSucceeded onPaymentSucceeded
  simp only [hb, bne_iff_ne.mp hflow, if_false, hok]
  rfl

theorem records_paymentSucceeded_iff (hready : db.WebhookReady) {intent : PaymentIntentObject}
    (h : Handled db (.paymentSucceeded intent)) (now : Int) :
    (deliver db ⟨now, .paymentSucceeded intent⟩).records = db.records ↔
      RedeliveryHarmless db (.paymentSucceeded intent) := by
  have hpayments := deliver_paymentSucceeded_payments hready.priced now intent
  by_cases hnone : intent.isLegacy → db.paymentByIntent intent.id = none
  · -- No row to write, and no booking to confirm.
    rw [(deliver_paymentSucceeded_keepsRest now (h hnone)).records_iff]
    refine iff_of_true ?_ fun hlegacy p hp => ?_
    · rw [hpayments]
      split
      · rename_i hcond
        refine hready.update_eq_iff.mpr fun p hp => ?_
        rw [hnone hcond.1] at hp
        cases hp
      · rfl
    · rw [hnone hlegacy] at hp
      cases hp
  · obtain ⟨hlegacy, hsome⟩ := Classical.not_imp.mp hnone
    obtain ⟨p, hp⟩ := Option.ne_none_iff_exists'.mp hsome
    constructor
    · intro hrecords _ q hq
      by_contra hunpaid
      have hany : ¬ (db.paymentByIntent intent.id).any fun p => decide (p.status = .paid) :=
        not_anyPaid (unpaid_of_eq_some hq hunpaid)
      rw [if_pos ⟨hlegacy, hany⟩] at hpayments
      have hsame := hpayments.symm.trans (congrArg HandlerRecords.payments hrecords)
      exact hunpaid (congrArg Payment.status (hready.update_eq_iff.mp hsame q hq)).symm
    · intro hharmless
      rw [deliver_paymentSucceeded_paid hlegacy hp (hharmless hlegacy p hp)]

/-- A delivery of a handled event changes no record exactly if it finds what it has to. -/
theorem records_deliver_iff (hready : db.WebhookReady) {event : WebhookEvent} (h : Handled db event)
    (now : Int) : (deliver db ⟨now, event⟩).records = db.records ↔ RedeliveryHarmless db event := by
  cases event with
  | paymentSucceeded intent => exact records_paymentSucceeded_iff hready h now
  | paymentFailed intent =>
    have hrest : db.KeepsRest (deliver db ⟨now, .paymentFailed intent⟩) := ⟨rfl, rfl, rfl, rfl, rfl⟩
    rw [hrest.records_iff]
    exact hready.update_eq_iff
  | refundCreated refund =>
    refine iff_of_true ?_ trivial
    exact congrArg Db.records (RefundSettled.idle hready h)
  | refundUpdated refund =>
    refine iff_of_true ?_ trivial
    exact congrArg Db.records (RefundSettled.idle hready h)
  | refundFailed refund =>
    refine iff_of_true ?_ trivial
    have hrefunds : (onRefundFailed refund db).refunds = db.refunds := by
      unfold onRefundFailed
      apply Table.updateWhere_eq_self
      case hf => exact fun _ => rfl
      case h =>
        intro r hr hconfirms
        have hfailed := h r hr hconfirms
        rw [← hfailed]
    exact congrArg (fun t : Table Refund => { db.records with refunds := t }) hrefunds
  | disputeCreated dispute =>
    show _ ↔ dispute.paymentIntent.bind db.paymentByIntent = none
    constructor
    · intro hrecords
      cases hp : dispute.paymentIntent.bind db.paymentByIntent with
      | none => rfl
      | some payment =>
        have hdisputes : (onDisputeCreated dispute db).disputes = db.disputes :=
          congrArg HandlerRecords.disputes hrecords
        unfold onDisputeCreated at hdisputes
        rw [hp] at hdisputes
        exact absurd hdisputes (by simp [cancelScheduledPayouts, Db.setBookingStatus])
    · intro hnone
      show (onDisputeCreated dispute db).records = db.records
      unfold onDisputeCreated
      rw [hnone]
  | accountUpdated account => exact iff_of_true rfl trivial
  | unhandled type => exact iff_of_true rfl trivial

end

/-- After an event was processed in a reachable database, and after any others, a second
delivery changes no record exactly if it finds what it has to. -/
theorem redelivery_iff {db : Db} (hbookings : db.bookings.rows = []) (hpayments : db.payments.rows = [])
    (hrefunds : db.refunds.rows = []) (ls : List Label) (d : Delivery) (ds : List Delivery) (now : Int) :
    (deliver (run deliver (run World.step (World.start db) ls).db (d :: ds)) ⟨now, d.event⟩).records =
        (run deliver (run World.step (World.start db) ls).db (d :: ds)).records ↔
      RedeliveryHarmless (run deliver (run World.step (World.start db) ls).db (d :: ds)) d.event := by
  have hready := World.webhookReady hbookings hpayments hrefunds ls
  have hfirst := webhookReady_deliver hready d
  obtain ⟨hready', hhandled⟩ := run_invariant' (I := fun db' : Db => db'.WebhookReady ∧ Handled db' d.event)
    (fun _ e h => ⟨webhookReady_deliver h.1 e, handled_stays h.1 h.2 e⟩)
    ⟨hfirst, handled_deliver hready d⟩ ds
  exact records_deliver_iff hready' hhandled now

/-- The success of a payment, delivered again after an event that is not about it. -/
theorem succeededTwice_harmless :
    (deliver (run deliver (run World.step (World.start sampleDb) checkedOutOnce).db
      [⟨1, .paymentSucceeded sampleIntent⟩, ⟨2, .accountUpdated ⟨1, true, true, true⟩⟩])
        ⟨3, .paymentSucceeded sampleIntent⟩).records =
      (run deliver (run World.step (World.start sampleDb) checkedOutOnce).db
        [⟨1, .paymentSucceeded sampleIntent⟩, ⟨2, .accountUpdated ⟨1, true, true, true⟩⟩]).records :=
  (redelivery_iff rfl rfl rfl checkedOutOnce ⟨1, .paymentSucceeded sampleIntent⟩
    [⟨2, .accountUpdated ⟨1, true, true, true⟩⟩] 3).mpr (by decide)

def sampleDispute : DisputeObject :=
  { id := 1
    paymentIntent := some 1
    reason := "fraudulent"
    status := "needs_response"
    amount := 20000
    evidenceDueBy := none }

/-- A dispute that is delivered twice is two rows. -/
theorem disputedTwice_recorded :
    (deliver (run deliver (run World.step (World.start sampleDb) checkedOutOnce).db
      [⟨1, .disputeCreated sampleDispute⟩]) ⟨2, .disputeCreated sampleDispute⟩).records ≠
      (run deliver (run World.step (World.start sampleDb) checkedOutOnce).db
        [⟨1, .disputeCreated sampleDispute⟩]).records := by
  intro h
  have hlength := congrArg (fun v : HandlerRecords => v.disputes.length) h
  revert hlength
  decide

end HostPlatform
