-- SUMMARY: What the webhook handlers rely on in any reachable database, and keep.
import HostPlatform.Payments.StripeWebhook
import HostPlatform.PaymentLinks
import HostPlatform.RefundLinks

/-!
# The database that webhooks find

A webhook rewrites statuses: it adds and deletes no payment and no refund, and a
refund that succeeded stays succeeded. So a payment that is `refunded` stays covered
by the booking's succeeded refunds.
-/

namespace HostPlatform

open Lib (Table)
open Lib.Transition

/-- A refunds row that differs from an old one at most in a status that an event resolved. -/
structure Refund.Advances (r r' : Refund) : Prop where
  bookingId : r'.bookingId = r.bookingId
  amountMinor : r'.amountMinor = r.amountMinor
  providerRefundId : r'.providerRefundId = r.providerRefundId
  succeeded : r.status = .succeeded → r'.status = .succeeded
  status : r'.status = r.status ∨ r'.status = .succeeded ∨ r'.status = .failed

theorem Refund.Advances.refl (r : Refund) : r.Advances r := ⟨rfl, rfl, rfl, fun h => h, .inl rfl⟩

/-- The payments rows that are fully refunded are so by succeeded refunds. -/
structure Db.RefundsCovered (db : Db) : Prop where
  amounts : ∀ r ∈ db.refunds.rows, 0 ≤ r.amountMinor
  covered : ∀ p ∈ db.payments.rows, p.status = .refunded →
    p.amountMinor ≤ db.cumulativeRefunded p.bookingId

/-- What the handlers find. -/
structure Db.WebhookReady (db : Db) : Prop where
  priced : db.Priced
  booked : ∀ p ∈ db.payments.rows, (db.bookings.find? p.bookingId).isSome
  named : ∀ p ∈ db.payments.rows, ∀ q ∈ db.payments.rows, ∀ i,
    p.providerPaymentIntentId = some i → q.providerPaymentIntentId = some i → p = q
  amount : ∀ p ∈ db.payments.rows, 0 < p.amountMinor
  refunds : db.RefundsCovered

/-! ## Statuses alone -/

/-- Payments and refunds keep their rows up to statuses, and a payment becomes
`refunded` only when it is covered. -/
structure Db.Advances (db db' : Db) : Prop where
  payments : ∃ f : Payment → Payment, db'.payments.rows = db.payments.rows.map f ∧
    ∀ p ∈ db.payments.rows, p.SamePayment (f p) ∧ ((f p).status = .refunded →
      p.status = .refunded ∨ p.amountMinor ≤ db'.cumulativeRefunded p.bookingId)
  refunds : ∃ g : Refund → Refund, db'.refunds.rows = db.refunds.rows.map g ∧
    ∀ r ∈ db.refunds.rows, r.Advances (g r)

theorem Db.Advances.of_same {db db' : Db} (hpayments : db'.payments = db.payments)
    (hrefunds : db'.refunds = db.refunds) : db.Advances db' where
  payments := ⟨id, by rw [hpayments, List.map_id], fun p _ => ⟨.refl p, .inl⟩⟩
  refunds := ⟨id, by rw [hrefunds, List.map_id], fun r _ => .refl r⟩

section

variable {db db' : Db}

theorem Db.Advances.cumulativeRefunded_le (h : db.Advances db')
    (hamounts : ∀ r ∈ db.refunds.rows, 0 ≤ r.amountMinor) (b : BookingId) :
    db.cumulativeRefunded b ≤ db'.cumulativeRefunded b := by
  obtain ⟨g, hrows, hg⟩ := h.refunds
  unfold Db.cumulativeRefunded
  rw [Table.sumWhere_eq_sum, Table.sumWhere_eq_sum, hrows, List.map_map]
  apply List.sum_le_sum
  intro r hr
  obtain ⟨hb, hamount, -, hsucceeded, -⟩ := hg r hr
  simp only [Function.comp, hb, hamount]
  split
  · rename_i hcounts
    simp only [decide_eq_true_eq] at hcounts
    simp [hcounts.1, hsucceeded hcounts.2]
  · split
    · exact hamounts r hr
    · exact le_rfl

theorem Db.Advances.refundsCovered (h : db.Advances db') (hcovered : db.RefundsCovered) :
    db'.RefundsCovered where
  amounts := by
    obtain ⟨g, hrows, hg⟩ := h.refunds
    intro r hr
    rw [hrows] at hr
    obtain ⟨q, hq, rfl⟩ := List.mem_map.mp hr
    rw [(hg q hq).amountMinor]
    exact hcovered.amounts q hq
  covered := by
    obtain ⟨f, hrows, hf⟩ := h.payments
    intro p hp hst
    rw [hrows] at hp
    obtain ⟨q, hq, rfl⟩ := List.mem_map.mp hp
    obtain ⟨⟨hb, -, hamount⟩, hrefunded⟩ := hf q hq
    rw [hb, hamount]
    cases hrefunded hst with
    | inl hold =>
      apply (hcovered.covered q hq hold).trans
      exact h.cumulativeRefunded_le hcovered.amounts q.bookingId
    | inr hnow => exact hnow

theorem Db.Advances.webhookReady (h : db.Advances db') (hready : db.WebhookReady)
    (hgrow : db.BookingsGrow db') (hpriced : db'.Priced) : db'.WebhookReady := by
  obtain ⟨f, hrows, hf⟩ := h.payments
  refine ⟨hpriced, ?_, ?_, ?_, h.refundsCovered hready.refunds⟩
  · intro p hp
    rw [hrows] at hp
    obtain ⟨q, hq, rfl⟩ := List.mem_map.mp hp
    obtain ⟨r, hr⟩ := Option.isSome_iff_exists.mp (hready.booked q hq)
    obtain ⟨r', hr', -⟩ := hgrow.stay q.bookingId r hr
    rw [(hf q hq).1.1, hr']
    rfl
  · intro p hp p' hp' i hi hi'
    rw [hrows] at hp hp'
    obtain ⟨q, hq, rfl⟩ := List.mem_map.mp hp
    obtain ⟨q', hq', rfl⟩ := List.mem_map.mp hp'
    rw [(hf q hq).1.2.1] at hi
    rw [(hf q' hq').1.2.1] at hi'
    rw [hready.named q hq q' hq' i hi hi']
  · intro p hp
    rw [hrows] at hp
    obtain ⟨q, hq, rfl⟩ := List.mem_map.mp hp
    rw [(hf q hq).1.2.2]
    exact hready.amount q hq

end

/-- An update that writes no `refunded` advances the payments. -/
theorem Db.Advances.of_updatePayments {db db' : Db} {q : Payment → Bool} {f : Payment → Payment}
    (hf : ∀ p : Payment, p.SamePayment (f p) ∧ (f p).status ≠ .refunded)
    (hpayments : db'.payments = db.payments.updateWhere q f fun p => (hf p).1.1)
    (hrefunds : db'.refunds = db.refunds) : db.Advances db' where
  payments := by
    refine ⟨fun p => if q p then f p else p, by rw [hpayments]; rfl, fun p _ => ?_⟩
    dsimp only
    split
    · exact ⟨(hf p).1, fun hst => absurd hst (hf p).2⟩
    · exact ⟨.refl p, .inl⟩
  refunds := ⟨id, by rw [hrefunds, List.map_id], fun r _ => .refl r⟩

/-! ## The handlers -/

theorem onLegacyPaymentSucceeded_advances {now : Int} {b : BookingId} {intentId : PaymentIntentId}
    {db db' : Db} {u : Unit} (h : onLegacyPaymentSucceeded now b intentId db = .ok (u, db')) :
    db.Advances db' := by
  rcases onLegacyPaymentSucceeded_eq_ok h with rfl | ⟨-, rfl⟩ | ⟨booking, pc, -, -, -, rfl⟩
  · exact .of_same rfl rfl
  · exact .of_updatePayments (by intro p; exact ⟨⟨rfl, rfl, rfl⟩, nofun⟩) rfl rfl
  · exact .of_updatePayments (by intro p; exact ⟨⟨rfl, rfl, rfl⟩, nofun⟩) rfl rfl

theorem onPaymentSucceeded_advances {now : Int} {intent : PaymentIntentObject} {db db' : Db}
    {input : Option EntitlementInput} (h : onPaymentSucceeded now intent db = .ok (input, db')) :
    db.Advances db' := by
  obtain rfl | rfl | ⟨b, -, u, hlegacy⟩ := onPaymentSucceeded_eq_ok h
  · exact .of_same rfl rfl
  · obtain ⟨bookings, attempts, hdb⟩ := onNewFlowPaymentSucceeded_eq now intent db
    rw [hdb]
    exact .of_same rfl rfl
  · exact onLegacyPaymentSucceeded_advances hlegacy

theorem onPaymentFailed_advances (intent : PaymentIntentObject) (db : Db) :
    db.Advances (onPaymentFailed intent db) :=
  .of_updatePayments (by intro p; exact ⟨⟨rfl, rfl, rfl⟩, nofun⟩) rfl rfl

theorem markRefundSucceeded_advances {i : StripeRefundId} {db marked : Db}
    (h : markRefundSucceeded i db = some marked) : ∃ g : Refund → Refund,
      marked.refunds.rows = db.refunds.rows.map g ∧ ∀ r ∈ db.refunds.rows, r.Advances (g r) := by
  refine ⟨fun r => if confirmsRow i r then { r with status := .succeeded } else r, ?_, fun r _ => ?_⟩
  · rw [(markRefundSucceeded_eq_some h).2]
    rfl
  · show r.Advances (if confirmsRow i r then { r with status := .succeeded } else r)
    split
    · exact ⟨rfl, rfl, rfl, fun _ => rfl, .inr (.inl rfl)⟩
    · exact .refl r

theorem onRefundEvent_advances {refund : RefundObject} {db db' : Db} {u : Unit}
    (h : onRefundEvent refund db = .ok (u, db')) : db.Advances db' := by
  rcases onRefundEvent_eq_ok h with rfl | ⟨payment, marked, -, hpayment, hmarked, hrecord⟩
  · exact .of_same rfl rfl
  have hframe := recordRefund_frame hrecord
  have hdb := (markRefundSucceeded_eq_some hmarked).2
  have hrefunds : db'.refunds = marked.refunds := by
    rw [hframe]
    rfl
  obtain ⟨intentId, -, hfind⟩ := Option.bind_eq_some_iff.mp hpayment
  have hmem : payment ∈ db.payments.rows := List.mem_of_find?_eq_some hfind
  constructor
  · refine ⟨fun p => if Lib.key p == payment.bookingId then
      { p with status := if decide (payment.amountMinor ≤ marked.cumulativeRefunded payment.bookingId)
          then .refunded else .partiallyRefunded } else p, ?_, fun p hp => ?_⟩
    · rw [hframe, hdb]
      rfl
    · dsimp only
      split
      · rename_i hkey
        have hsame : p = payment := Table.key_inj hp hmem (beq_iff_eq.mp hkey)
        refine ⟨⟨rfl, rfl, rfl⟩, fun hst => .inr ?_⟩
        have hcumulative : db'.cumulativeRefunded payment.bookingId =
            marked.cumulativeRefunded payment.bookingId := by
          unfold Db.cumulativeRefunded
          rw [hrefunds]
        rw [hsame, hcumulative]
        by_contra hle
        rw [decide_eq_false hle] at hst
        cases hst
      · exact ⟨.refl p, .inl⟩
  · obtain ⟨g, hrows, hg⟩ := markRefundSucceeded_advances hmarked
    exact ⟨g, by rw [hrefunds, hrows], hg⟩

theorem onRefundFailed_advances (refund : RefundObject) (db : Db) :
    db.Advances (onRefundFailed refund db) where
  payments := ⟨id, (List.map_id _).symm, fun p _ => ⟨.refl p, .inl⟩⟩
  refunds := by
    refine ⟨fun r => if confirmsRow refund.id r then { r with status := .failed } else r, rfl, fun r _ => ?_⟩
    show r.Advances (if confirmsRow refund.id r then { r with status := .failed } else r)
    split
    · rename_i hconfirms
      exact ⟨rfl, rfl, rfl, fun hst => absurd hst (of_decide_eq_true hconfirms).2, .inr (.inr rfl)⟩
    · exact .refl r

theorem onDisputeCreated_advances (dispute : DisputeObject) (db : Db) :
    db.Advances (onDisputeCreated dispute db) := by
  obtain ⟨bookings, payouts, disputes, hdb⟩ := onDisputeCreated_eq dispute db
  rw [hdb]
  exact .of_same rfl rfl

/-! ## Deliveries -/

/-- A delivery is a transaction of its handler, with the entitlement it leaves, or
writes the account status of hosts. -/
theorem deliver_eq (db : Db) (d : Delivery) :
    (∃ t : Tx, deliver db d = t.exec db) ∨
    (∃ t input, deliver db d = createEntitlement input (Tx.exec db t)) ∨
    ∃ hostProfiles, deliver db d = { db with hostProfiles := hostProfiles } := by
  obtain ⟨now, event⟩ := d
  cases event with
  | paymentSucceeded intent =>
    have htx : (Tx.paymentSucceeded now intent).exec db = Lib.commit db (onPaymentSucceeded now intent db) := rfl
    have hdeliver : deliver db ⟨now, .paymentSucceeded intent⟩ =
        Lib.commit db (handlePaymentSucceeded now intent db) := rfl
    rw [hdeliver]
    unfold handlePaymentSucceeded
    cases h : onPaymentSucceeded now intent db with
    | error e =>
      rw [h] at htx
      exact .inl ⟨_, htx.symm⟩
    | ok r =>
      rw [h] at htx
      obtain ⟨input, db'⟩ := r
      cases input with
      | none => exact .inl ⟨_, htx.symm⟩
      | some input =>
        refine .inr (.inl ⟨.paymentSucceeded now intent, input, ?_⟩)
        rw [htx]
        rfl
  | paymentFailed intent => exact .inl ⟨.paymentFailed intent, rfl⟩
  | refundCreated refund => exact .inl ⟨.refundEvent refund, rfl⟩
  | refundUpdated refund => exact .inl ⟨.refundEvent refund, rfl⟩
  | refundFailed refund => exact .inl ⟨.refundFailed refund, rfl⟩
  | disputeCreated dispute => exact .inl ⟨.disputeCreated dispute, rfl⟩
  | accountUpdated account => exact .inr (.inr ⟨_, rfl⟩)
  | unhandled type => exact .inr (.inr ⟨_, rfl⟩)

theorem deliver_bookingsGrow (db : Db) (d : Delivery) : db.BookingsGrow (deliver db d) := by
  rcases deliver_eq db d with ⟨t, h⟩ | ⟨t, input, h⟩ | ⟨hostProfiles, h⟩
  · rw [h]
    exact t.bookingsGrow db
  · rw [h, createEntitlement_frame]
    have hgrow := t.bookingsGrow db
    exact ⟨hgrow.stay, hgrow.pending⟩
  · rw [h]
    exact ⟨(Db.BookingsGrow.refl db).stay, (Db.BookingsGrow.refl db).pending⟩

theorem deliver_priced {db : Db} (hpriced : db.Priced) (d : Delivery) : (deliver db d).Priced := by
  rcases deliver_eq db d with ⟨t, h⟩ | ⟨t, input, h⟩ | ⟨hostProfiles, h⟩
  · rw [h]
    exact hpriced.exec t
  · rw [h, createEntitlement_frame]
    exact hpriced.exec t
  · rw [h]
    exact hpriced

theorem deliver_advances (db : Db) (d : Delivery) : db.Advances (deliver db d) := by
  obtain ⟨now, event⟩ := d
  have hsame : db.Advances db := .of_same rfl rfl
  cases event with
  | paymentSucceeded intent =>
    refine Lib.commit_of (P := fun db' : Db => db.Advances db') hsame fun u db' h => ?_
    obtain ⟨input, paid, hok, hdb'⟩ := handlePaymentSucceeded_eq_ok h
    have hadvances := onPaymentSucceeded_advances hok
    obtain rfl | ⟨i, rfl⟩ := hdb'
    · exact hadvances
    · rw [createEntitlement_frame]
      exact ⟨hadvances.payments, hadvances.refunds⟩
  | paymentFailed intent => exact onPaymentFailed_advances intent db
  | refundCreated refund =>
    exact Lib.commit_of (P := fun db' : Db => db.Advances db') hsame fun u db' h =>
      onRefundEvent_advances h
  | refundUpdated refund =>
    exact Lib.commit_of (P := fun db' : Db => db.Advances db') hsame fun u db' h =>
      onRefundEvent_advances h
  | refundFailed refund => exact onRefundFailed_advances refund db
  | disputeCreated dispute => exact onDisputeCreated_advances dispute db
  | accountUpdated account => exact .of_same rfl rfl
  | unhandled type => exact hsame

theorem webhookReady_deliver {db : Db} (h : db.WebhookReady) (d : Delivery) :
    (deliver db d).WebhookReady :=
  (deliver_advances db d).webhookReady h (deliver_bookingsGrow db d) (deliver_priced h.priced d)

/-! ## Reachable databases -/

/-- A checkout leaves a pending row, and a refund call a pending refund. -/
theorem Tx.refundsCovered {db : Db} (t : Tx) (h : db.RefundsCovered)
    (hamounts : ∀ r ∈ (t.exec db).refunds.rows, 0 ≤ r.amountMinor) : (t.exec db).RefundsCovered := by
  have of_advances : db.Advances (t.exec db) → (t.exec db).RefundsCovered :=
    fun hadvances => hadvances.refundsCovered h
  have of_sameMoney : db.SameMoney (t.exec db) → (t.exec db).RefundsCovered :=
    fun hsame => of_advances (.of_same hsame.payments hsame.refunds)
  cases t with
  | createBooking now isDelayedFlow input =>
    exact of_sameMoney (createBooking_sameMoney now isDelayedFlow input db)
  | cancelBooking now input =>
    apply of_sameMoney
    exact Lib.commit_of (.refl db) fun r db' h => cancelBooking_sameMoney h
  | releaseExpiredHold now b => exact of_sameMoney (releaseExpiredHold_sameMoney now b db)
  | discardUnpaidBooking now booking => exact of_sameMoney (discardUnpaidBooking_sameMoney now booking db)
  | createCalendarFeed p name feedUrl => exact of_sameMoney (Tx.calendarFrame rfl db).sameMoney
  | setCalendarFeedActive today p feedId isActive => exact of_sameMoney (Tx.calendarFrame rfl db).sameMoney
  | deleteCalendarFeed today p feedId => exact of_sameMoney (Tx.calendarFrame rfl db).sameMoney
  | replaceFeedEvents today p feedId events etag lastModified =>
    exact of_sameMoney (Tx.calendarFrame rfl db).sameMoney
  | savePaymentMethod b paymentMethodId => exact of_sameMoney (savePaymentMethod_sameMoney b paymentMethodId db)
  | decideCharge now token b amountMinor currency =>
    obtain ⟨attempts, hdb⟩ := decideCharge_eq now token b amountMinor currency db
    apply of_advances
    rw [hdb]
    exact .of_same rfl rfl
  | recordChargeOutcome now b attemptId claimToken status details =>
    obtain ⟨bookings, attempts, hdb⟩ := recordChargeOutcome_eq now b attemptId claimToken status details db
    apply of_advances
    rw [hdb]
    exact .of_same rfl rfl
  | upsertPayment b intentId guestTotalMinor currency =>
    refine Lib.commit_of (P := fun db' : Db => db'.RefundsCovered) h fun u db' hok => ?_
    obtain ⟨-, -, -, -, -, -, hframe⟩ := upsertPayment_eq_ok hok
    have hrefunds : db'.refunds = db.refunds := by rw [hframe]
    refine ⟨by rw [hrefunds]; exact h.amounts, fun p hp hst => ?_⟩
    unfold Db.cumulativeRefunded
    rw [hrefunds]
    cases mem_upsertPayment hok hp with
    | inl hold => exact h.covered p hold.1 hst
    | inr hnew =>
      rw [hnew.2.2.1] at hst
      cases hst
  | insertRefund input =>
    refine ⟨hamounts, fun p hp hst => ?_⟩
    apply (h.covered p hp hst).trans_eq
    refine ((Table.sumWhere_insertNew _ _ (fun _ => rfl) _ _).trans ?_).symm
    simp only [and_false, decide_false, Bool.false_eq_true, if_false, add_zero, reduceCtorEq]
    rfl
  | linkRefund refundRowId stripeRefundId =>
    refine ⟨hamounts, fun p hp hst => ?_⟩
    have hsum : (HostPlatform.linkRefund refundRowId stripeRefundId db).cumulativeRefunded p.bookingId =
        db.cumulativeRefunded p.bookingId :=
      Table.sumWhere_updateWhere _ _ _ (by intro r; rfl) _ _ fun _ _ _ => rfl
    exact (h.covered p hp hst).trans_eq hsum.symm
  | paymentSucceeded now intent =>
    apply of_advances
    exact Lib.commit_of (P := fun db' : Db => db.Advances db') (.of_same rfl rfl) fun input db' h =>
      onPaymentSucceeded_advances h
  | createEntitlement input =>
    apply of_advances
    show db.Advances (HostPlatform.createEntitlement input db)
    rw [createEntitlement_frame]
    exact .of_same rfl rfl
  | paymentFailed intent => exact of_advances (onPaymentFailed_advances intent db)
  | refundEvent refund =>
    apply of_advances
    exact Lib.commit_of (P := fun db' : Db => db.Advances db') (.of_same rfl rfl) fun u db' h =>
      onRefundEvent_advances h
  | refundFailed refund => exact of_advances (onRefundFailed_advances refund db)
  | disputeCreated dispute => exact of_advances (onDisputeCreated_advances dispute db)
  | _ => exact of_advances (.of_same rfl rfl)

/-- An intent belongs to one booking, and a booking has one payments row. -/
theorem World.Linked.named {w : World} (h : w.Linked) : ∀ p ∈ w.db.payments.rows,
    ∀ q ∈ w.db.payments.rows, ∀ i, p.providerPaymentIntentId = some i →
      q.providerPaymentIntentId = some i → p = q := by
  intro p hp q hq i hpi hqi
  obtain ⟨r, hr, hpb, -⟩ := (h.payments p hp).intent i hpi
  obtain ⟨r', hr', hqb, -⟩ := (h.payments q hq).intent i hqi
  rw [hr] at hr'
  cases hr'
  exact Table.key_inj hp hq (hpb.symm.trans hqb)

theorem Db.WebhookReady.start {db : Db} (hbookings : db.bookings.rows = [])
    (hpayments : db.payments.rows = []) (hrefunds : db.refunds.rows = []) : db.WebhookReady := by
  refine ⟨.of_no_bookings hbookings, ?_, ?_, ?_, ?_, ?_⟩
  all_goals simp only [hpayments, hrefunds, List.not_mem_nil, false_imp_iff, implies_true]

/-- Webhooks find every database the system reaches ready for them. -/
theorem World.webhookReady {db : Db} (hbookings : db.bookings.rows = [])
    (hpayments : db.payments.rows = []) (hrefunds : db.refunds.rows = []) (ls : List Label) :
    (Lib.Transition.run World.step (World.start db) ls).db.WebhookReady := by
  have hstep : ∀ (w : World) (l : Label), w.Linked ∧ w.RefundsLinked ∧ w.db.Priced ∧ w.db.RefundsCovered →
      (w.step l).Linked ∧ (w.step l).RefundsLinked ∧ (w.step l).db.Priced ∧
        (w.step l).db.RefundsCovered := by
    intro w l ⟨hlinked, hrefunds, hpriced, hcovered⟩
    have hrefunds' := hrefunds.step l
    refine ⟨hlinked.step l, hrefunds', w.priced_step hpriced l, ?_⟩
    have hamounts : ∀ r ∈ (w.step l).db.refunds.rows, 0 ≤ r.amountMinor :=
      fun r hr => (hrefunds'.rows r hr).amount.le
    cases w.dbStep l with
    | inl hsame =>
      rw [hsame]
      exact hcovered
    | inr htx =>
      obtain ⟨t, ht⟩ := htx
      rw [ht] at hamounts ⊢
      exact t.refundsCovered hcovered hamounts
  have hstart := Db.WebhookReady.start hbookings hpayments hrefunds
  obtain ⟨hlinked, -, hpriced, hcovered⟩ := run_invariant'
    (I := fun w : World => w.Linked ∧ w.RefundsLinked ∧ w.db.Priced ∧ w.db.RefundsCovered) hstep
    ⟨.start hpayments, .start hrefunds, hstart.priced, hstart.refunds⟩ ls
  refine ⟨hpriced, fun p hp => ?_, hlinked.named, fun p hp => (hlinked.payments p hp).amount, hcovered⟩
  obtain ⟨r, hr, -⟩ := Option.map_eq_some_iff.mp (hlinked.payments p hp).flow
  rw [hr]
  rfl

end HostPlatform
