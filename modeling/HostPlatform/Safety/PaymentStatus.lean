-- SUMMARY: Which webhook deliveries take a payment's status back.
import HostPlatform.WebhookState
import HostPlatform.Safety.CumulativeReversal

/-!
# Payment statuses

Three handlers write `payments.status`. A refund event only ever moves it on; the other
two overwrite it, whatever it says.
-/

namespace HostPlatform

open Lib (Table)
open Lib.Transition

/-- How far a payment has come. -/
def PaymentStatus.level : PaymentStatus → Nat
  | .pending | .processing | .failed => 0
  | .paid | .disputed => 1
  | .partiallyRefunded => 2
  | .refunded => 3

/-- Every payments row stays and has come at least as far. -/
def Db.StatusesGrow (db db' : Db) : Prop :=
  ∀ b p, db.payments.find? b = some p →
    ∃ p', db'.payments.find? b = some p' ∧ p.status.level ≤ p'.status.level

/-- At no two points of the deliveries has a payment come less far at the later one. -/
def NeverRegresses (db : Db) (ds : List Delivery) : Prop :=
  ∀ pre mid suf, ds = pre ++ mid ++ suf →
    (run deliver db pre).StatusesGrow (run deliver db (pre ++ mid))

/-- The intent is one that the legacy handler of `payment_intent.succeeded` takes. -/
def PaymentIntentObject.isLegacy (intent : PaymentIntentObject) : Bool :=
  intent.bookingId.isSome && intent.paymentFlowVersion != some .separateChargesDelayedV1

/-- The delivery finds no payment that its handler would take back: a failure none that
was received, a success none that is refunded. -/
def KeepsReceived (db : Db) (d : Delivery) : Prop :=
  match d.event with
  | .paymentSucceeded intent => intent.isLegacy →
    ∀ p ∈ db.paymentByIntent intent.id, p.status.level ≤ PaymentStatus.paid.level
  | .paymentFailed intent => ∀ p ∈ db.paymentByIntent intent.id, p.status.level = 0
  | _ => True

instance (db : Db) (d : Delivery) : Decidable (KeepsReceived db d) := by
  unfold KeepsReceived
  split <;> infer_instance

theorem Db.StatusesGrow.refl (db : Db) : db.StatusesGrow db := fun _ p hp => ⟨p, hp, le_rfl⟩

theorem Db.StatusesGrow.trans {db db' db'' : Db} (h : db.StatusesGrow db') (h' : db'.StatusesGrow db'') :
    db.StatusesGrow db'' := by
  intro b p hp
  obtain ⟨p', hp', hle⟩ := h b p hp
  obtain ⟨p'', hp'', hle'⟩ := h' b p' hp'
  exact ⟨p'', hp'', hle.trans hle'⟩

/-! ## What each handler writes -/

/-- With its price row, a booking is confirmed without an error. -/
theorem onLegacyPaymentSucceeded_payments {db : Db} (hpriced : db.Priced) (now : Int) (b : BookingId)
    (intentId : PaymentIntentId) : ∃ db', onLegacyPaymentSucceeded now b intentId db = .ok ((), db') ∧
      db'.payments = if (db.paymentByIntent intentId).any (fun p => decide (p.status = .paid)) then db.payments
        else (updatePaymentByIntent db intentId fun p => { p with status := .paid }).payments := by
  simp only [onLegacyPaymentSucceeded]
  split
  · exact ⟨db, rfl, rfl⟩
  · split
    · exact ⟨_, rfl, rfl⟩
    · rename_i booking hbooking
      obtain ⟨hfind, -⟩ := Option.filter_eq_some_iff.mp hbooking
      obtain ⟨pc, hpc⟩ := hpriced b booking hfind
      rw [hpc]
      exact ⟨_, rfl, rfl⟩

theorem deliver_paymentSucceeded_payments {db : Db} (hpriced : db.Priced) (now : Int)
    (intent : PaymentIntentObject) :
    (deliver db ⟨now, .paymentSucceeded intent⟩).payments =
      if intent.isLegacy ∧ ¬ (db.paymentByIntent intent.id).any fun p => decide (p.status = .paid) then
        (updatePaymentByIntent db intent.id fun p => { p with status := .paid }).payments
      else db.payments := by
  show (Lib.commit db (handlePaymentSucceeded now intent db)).payments = _
  unfold handlePaymentSucceeded onPaymentSucceeded PaymentIntentObject.isLegacy
  cases hb : intent.bookingId with
  | none => rfl
  | some b =>
    simp only [Option.isSome_some, Bool.true_and]
    split
    · rename_i hflow
      obtain ⟨bookings, attempts, hdb⟩ := onNewFlowPaymentSucceeded_eq now intent db
      simp only [hflow, bne_self_eq_false, Bool.false_eq_true, false_and, if_false, Except.map, Lib.commit]
      cases (onNewFlowPaymentSucceeded now intent db).1 with
      | none => rw [hdb]
      | some input =>
        dsimp only
        rw [createEntitlement_frame, hdb]
    · rename_i hflow
      obtain ⟨db', hok, hpayments⟩ := onLegacyPaymentSucceeded_payments hpriced now b intent.id
      have hlegacy : (intent.paymentFlowVersion != some .separateChargesDelayedV1) = true :=
        bne_iff_ne.mpr hflow
      simp only [hok, Except.map, Lib.commit, hlegacy, true_and, hpayments]
      split <;> simp_all

/-! ## One delivery -/

section

variable {db : Db}

theorem paymentByIntent_mem {intentId : PaymentIntentId} {p : Payment}
    (h : db.paymentByIntent intentId = some p) :
    p ∈ db.payments.rows ∧ p.providerPaymentIntentId = some intentId :=
  ⟨List.mem_of_find?_eq_some h, beq_iff_eq.mp (List.find?_some (p := fun p : Payment =>
    p.providerPaymentIntentId == some intentId) h)⟩

/-- The row an intent names is the only one. -/
theorem Db.WebhookReady.paymentByIntent_eq (hready : db.WebhookReady) {p : Payment}
    (hp : p ∈ db.payments.rows) {intentId : PaymentIntentId}
    (hi : p.providerPaymentIntentId = some intentId) : db.paymentByIntent intentId = some p := by
  cases hfind : db.paymentByIntent intentId with
  | none =>
    have hnone := List.find?_eq_none.mp hfind p hp
    simp [hi] at hnone
  | some q =>
    obtain ⟨hq, hqi⟩ := paymentByIntent_mem hfind
    rw [hready.named q hq p hp intentId hqi hi]

theorem find?_updatePaymentByIntent (intentId : PaymentIntentId) (f : Payment → Payment)
    (hf : ∀ p : Payment, Lib.key (f p) = Lib.key p) (b : BookingId) :
    (updatePaymentByIntent db intentId f hf).payments.find? b =
      (db.payments.find? b).map fun p => if p.providerPaymentIntentId == some intentId then f p else p :=
  Table.find?_updateWhere _ _ _ hf _

theorem find?_setRefundedStatuses (db : Db) (b : BookingId) (fullyRefunded : Bool) (b' : BookingId) :
    (setRefundedStatuses db b fullyRefunded).payments.find? b' =
      if b' = b then (db.payments.find? b).map fun p =>
        { p with status := if fullyRefunded then .refunded else .partiallyRefunded }
      else db.payments.find? b' :=
  Table.find?_modify _ _ _ (by intro p; rfl) _

/-- Writing one status into the row of an intent moves it on exactly if it had come no
further. -/
theorem Db.WebhookReady.statusesGrow_update (hready : db.WebhookReady) {intentId : PaymentIntentId}
    {f : Payment → Payment} {hf : ∀ p : Payment, Lib.key (f p) = Lib.key p} {db' : Db}
    (h : db'.payments = (updatePaymentByIntent db intentId f hf).payments) {st : PaymentStatus}
    (hst : ∀ p, (f p).status = st) :
    db.StatusesGrow db' ↔ ∀ p ∈ db.paymentByIntent intentId, p.status.level ≤ st.level := by
  constructor
  · intro hgrow p hp
    obtain ⟨hmem, hi⟩ := paymentByIntent_mem hp
    obtain ⟨p', hp', hle⟩ := hgrow p.bookingId p (Table.find?_of_mem hmem)
    rw [h, find?_updatePaymentByIntent, show db.payments.find? p.bookingId = some p from
      Table.find?_of_mem hmem] at hp'
    simp only [Option.map_some, hi, beq_self_eq_true, if_true, Option.some.injEq] at hp'
    rw [← hp', hst] at hle
    exact hle
  · intro hlevel b p hp
    rw [h, find?_updatePaymentByIntent, hp]
    refine ⟨_, rfl, ?_⟩
    dsimp only
    split
    · rename_i hi
      rw [hst]
      exact hlevel p (hready.paymentByIntent_eq (Table.mem_of_find? hp) (beq_iff_eq.mp hi))
    · exact le_rfl

/-- A refund event never takes a payment back: what is refunded stays covered. -/
theorem Db.WebhookReady.statusesGrow_refund (hready : db.WebhookReady) {refund : RefundObject} {db' : Db}
    {u : Unit} (h : onRefundEvent refund db = .ok (u, db')) : db.StatusesGrow db' := by
  rcases onRefundEvent_eq_ok h with rfl | ⟨payment, marked, -, hpayment, hmarked, hrecord⟩
  · exact .refl _
  obtain ⟨intentId, -, hfind⟩ := Option.bind_eq_some_iff.mp hpayment
  have hmem := (paymentByIntent_mem hfind).1
  have hcumulative : db.cumulativeRefunded payment.bookingId ≤ marked.cumulativeRefunded payment.bookingId := by
    have hadvances : db.Advances marked := by
      obtain ⟨g, hrows, hg⟩ := markRefundSucceeded_advances hmarked
      refine ⟨⟨id, ?_, fun p _ => ⟨.refl p, .inl⟩⟩, ⟨g, hrows, hg⟩⟩
      rw [(markRefundSucceeded_eq_some hmarked).2, List.map_id]
    exact hadvances.cumulativeRefunded_le hready.refunds.amounts payment.bookingId
  intro b p hp
  have hpayments : db'.payments.find? b = ((setRefundedStatuses marked payment.bookingId
      (decide (payment.amountMinor ≤ marked.cumulativeRefunded payment.bookingId))).payments).find? b := by
    rw [recordRefund_frame hrecord]
  have hmarkedPayments : marked.payments = db.payments := by
    rw [(markRefundSucceeded_eq_some hmarked).2]
  rw [hpayments, find?_setRefundedStatuses, hmarkedPayments]
  split
  · rename_i hb
    subst hb
    have hfound : db.payments.find? payment.bookingId = some payment := Table.find?_of_mem hmem
    rw [hfound] at hp ⊢
    cases hp
    refine ⟨_, rfl, ?_⟩
    dsimp only
    cases hst : payment.status with
    | refunded =>
      have hcovered := (hready.refunds.covered payment hmem hst).trans hcumulative
      rw [if_pos (decide_eq_true hcovered)]
    | _ => split <;> simp [PaymentStatus.level]
  · exact ⟨p, hp, le_rfl⟩

/-- A delivery moves every payment on, or leaves it, exactly if it keeps what was received. -/
theorem statusesGrow_iff (hready : db.WebhookReady) (d : Delivery) :
    db.StatusesGrow (deliver db d) ↔ KeepsReceived db d := by
  obtain ⟨now, event⟩ := d
  have hsame : ∀ {db' : Db}, db'.payments = db.payments → db.StatusesGrow db' := by
    intro db' h b p hp
    exact ⟨p, by rw [h]; exact hp, le_rfl⟩
  have of_refund : ∀ refund, db.StatusesGrow (Lib.commit db (onRefundEvent refund db)) := fun refund =>
    Lib.commit_of (P := fun db' : Db => db.StatusesGrow db') (.refl db) fun u db' h =>
      hready.statusesGrow_refund h
  cases event with
  | paymentSucceeded intent =>
    have hpayments := deliver_paymentSucceeded_payments hready.priced now intent
    unfold KeepsReceived
    by_cases hlegacy : intent.isLegacy
    · by_cases hpaid : (db.paymentByIntent intent.id).any fun p => decide (p.status = .paid)
      · -- A paid row is left alone, and may be.
        rw [if_neg (by simp [hpaid])] at hpayments
        refine ⟨fun _ _ p hp => ?_, fun _ => hsame hpayments⟩
        rw [show db.paymentByIntent intent.id = some p from hp] at hpaid
        rw [of_decide_eq_true (p := p.status = .paid) hpaid]
      · rw [if_pos ⟨hlegacy, hpaid⟩] at hpayments
        simp only [hlegacy, forall_const]
        exact hready.statusesGrow_update hpayments fun _ => rfl
    · rw [if_neg (by simp [hlegacy])] at hpayments
      exact ⟨fun _ h => absurd h hlegacy, fun _ => hsame hpayments⟩
  | paymentFailed intent =>
    have hpayments : (deliver db ⟨now, .paymentFailed intent⟩).payments =
        (onPaymentFailed intent db).payments := rfl
    unfold onPaymentFailed at hpayments
    rw [hready.statusesGrow_update hpayments fun _ => rfl]
    unfold KeepsReceived
    simp only [PaymentStatus.level, Nat.le_zero]
  | refundCreated refund => exact iff_of_true (of_refund refund) trivial
  | refundUpdated refund => exact iff_of_true (of_refund refund) trivial
  | refundFailed refund => exact iff_of_true (hsame rfl) trivial
  | disputeCreated dispute =>
    obtain ⟨bookings, payouts, disputes, hdb⟩ := onDisputeCreated_eq dispute db
    refine iff_of_true (hsame ?_) trivial
    show (onDisputeCreated dispute db).payments = _
    rw [hdb]
  | accountUpdated account => exact iff_of_true (hsame rfl) trivial
  | unhandled type => exact iff_of_true (hsame rfl) trivial

end

/-! ## Any deliveries -/

/-- In a reachable database, webhooks never take a payment back exactly if each delivery
keeps what was received. -/
theorem neverRegresses_iff {db : Db} (hbookings : db.bookings.rows = [])
    (hpayments : db.payments.rows = []) (hrefunds : db.refunds.rows = []) (ls : List Label)
    (ds : List Delivery) :
    NeverRegresses (run World.step (World.start db) ls).db ds ↔
      Guarded deliver KeepsReceived (run World.step (World.start db) ls).db ds :=
  relates_iff_guarded (I := Db.WebhookReady) (fun _ d h => webhookReady_deliver h d) .refl
    (fun _ _ _ => .trans) (fun _ d h => statusesGrow_iff h d)
    (World.webhookReady hbookings hpayments hrefunds ls)

/-- The intent that the concrete runs pay with. -/
def sampleIntent : PaymentIntentObject :=
  { id := 1
    bookingId := some 1
    paymentFlowVersion := none
    paymentAttemptId := none
    lastPaymentError := none }

theorem redelivered_neverRegresses :
    NeverRegresses (run World.step (World.start sampleDb) checkedOutOnce).db
      [⟨0, .paymentSucceeded sampleIntent⟩, ⟨1, .paymentSucceeded sampleIntent⟩] :=
  (neverRegresses_iff rfl rfl rfl checkedOutOnce _).mpr (by decide)

/-- A declined first try is delivered after the payment went through. -/
theorem failedAfterPaid_regresses :
    ¬ NeverRegresses (run World.step (World.start sampleDb) checkedOutOnce).db
      [⟨1, .paymentFailed sampleIntent⟩] := by
  intro h
  obtain ⟨p', hp', hle⟩ := h [] [⟨1, .paymentFailed sampleIntent⟩] [] rfl 1 _ rfl
  revert hle
  cases hp'
  decide

end HostPlatform
