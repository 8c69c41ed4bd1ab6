-- SUMMARY: Which payment, refunds row and Stripe refund belong together, in any reachable state.
import HostPlatform.PaymentLinks
import HostPlatform.RefundSteps

/-!
# Links between refunds and Stripe

A refunds row belongs to a payment, and the id of the row is the idempotency key
and the metadata of at most one refund at Stripe. A row is only resolved as that
refund was settled.
-/

namespace HostPlatform

open Lib (Table)

/-- Refund `i` at Stripe was created for the refunds row `k`. -/
def Refunds.createdFor (v : Refunds) (k : RefundId) (i : StripeRefundId) : Prop :=
  ∃ s, v.stripeRefunds.find? i = some s ∧ s.hostRefundId = k

/-- The refunds row the call works on. -/
def RefundPhase.row? : RefundPhase → Option RefundId
  | .checking _ | .selecting | .inserting => none
  | .listing k | .creating k | .linking k _ => some k

structure RefundCallLinked (w : World) (c : RefundCall) : Prop where
  requested : RefundRequested w c.input
  row : ∀ k, c.phase.row? = some k → (w.refundView.rows.find? k).isSome
  stripe : ∀ k i, c.phase = .linking k i → w.refundView.createdFor k i

/-- A row that is no longer pending says what its refund at Stripe came to. -/
inductive RefundResolved (w : World) (r : Refund) : Prop
  | pending (hstatus : r.status = .pending)
  | succeeded (s : StripeRefund) (hstatus : r.status = .succeeded) (hid : r.providerRefundId = some s.id)
      (hfind : w.refundView.stripeRefunds.find? s.id = some s) (hsettled : s.status = .succeeded)
  | failed (s : StripeRefund) (hstatus : r.status = .failed) (hid : r.providerRefundId = some s.id)
      (hfind : w.refundView.stripeRefunds.find? s.id = some s) (hsettled : s.status = .failed)

structure RefundLinked (w : World) (r : Refund) : Prop where
  payment : ∃ p, w.db.payments.find? r.bookingId = some p
  amount : 0 < r.amountMinor
  stripe : ∀ i, r.providerRefundId = some i → w.refundView.createdFor r.id i
  resolved : RefundResolved w r

structure World.RefundsLinked (w : World) : Prop where
  calls : ∀ c ∈ w.refundView.calls.rows, RefundCallLinked w c
  rows : ∀ r ∈ w.refundView.rows.rows, RefundLinked w r
  unique : ∀ s ∈ w.refundView.stripeRefunds.rows, ∀ s' ∈ w.refundView.stripeRefunds.rows,
    s.hostRefundId = s'.hostRefundId → s = s'

/-- Two refunds at Stripe for one row are one refund. -/
theorem World.RefundsLinked.createdFor_inj {w : World} (hinv : w.RefundsLinked) {k : RefundId}
    {i j : StripeRefundId} (hi : w.refundView.createdFor k i) (hj : w.refundView.createdFor k j) :
    i = j := by
  obtain ⟨s, hs, hsk⟩ := hi
  obtain ⟨s', hs', hsk'⟩ := hj
  have hsame := hinv.unique s (Table.mem_of_find? hs) s' (Table.mem_of_find? hs') (hsk.trans hsk'.symm)
  rw [← Table.key_of_find? hs, ← Table.key_of_find? hs', hsame]

/-! ## What stays -/

/-- A refund stays at Stripe as it was requested, and settles at most once. -/
structure StripeRefund.Stays (s s' : StripeRefund) : Prop where
  id : s'.id = s.id
  paymentIntent : s'.paymentIntent = s.paymentIntent
  amount : s'.amount = s.amount
  hostRefundId : s'.hostRefundId = s.hostRefundId
  settled : s.status ≠ .pending → s'.status = s.status

theorem StripeRefund.Stays.refl (s : StripeRefund) : s.Stays s := ⟨rfl, rfl, rfl, rfl, fun _ => rfl⟩

theorem Refunds.find?_create {v : Refunds} {i : StripeRefundId} {s : StripeRefund}
    (hs : v.stripeRefunds.find? i = some s) (paymentIntent : PaymentIntentId)
    (input : InitiateRefundInput) (k : RefundId) :
    (v.create paymentIntent input k).stripeRefunds.find? i = some s :=
  Table.find?_insertNew_of_find? hs _ (World.key_stripeRefund paymentIntent input k)

theorem Stripe.settleRefund_stays (stripe : Stripe) (j : StripeRefundId) (status : StripeRefundStatus)
    {i : StripeRefundId} {s : StripeRefund} (hs : stripe.refunds.find? i = some s) :
    ∃ s', (stripe.settleRefund j status).refunds.find? i = some s' ∧ s.Stays s' := by
  unfold Stripe.settleRefund
  simp only [Table.find?_modify]
  split
  · rename_i hij
    rw [← hij, hs]
    refine ⟨_, rfl, rfl, rfl, rfl, rfl, fun hsettled => ?_⟩
    exact if_neg hsettled
  · exact ⟨s, hs, .refl s⟩

theorem World.stripeRefund_stays (w : World) (l : Label) {i : StripeRefundId} {s : StripeRefund}
    (hs : w.refundView.stripeRefunds.find? i = some s) :
    ∃ s', (w.step l).refundView.stripeRefunds.find? i = some s' ∧ s.Stays s' := by
  have hsame := StripeRefund.Stays.refl s
  cases w.refundStep l with
  | frame h => rw [h]; exact ⟨s, hs, hsame⟩
  | started input phase hinput hphase h => rw [h]; exact ⟨s, hs, hsame⟩
  | ended call h => rw [h]; exact ⟨s, hs, hsame⟩
  | read call phase hcall hread h => rw [h]; exact ⟨s, hs, hsame⟩
  | inserted call hlabel hcall hphase h => rw [h]; exact ⟨s, hs, hsame⟩
  | created call k paymentIntent hcall hphase hkey h =>
    rw [h]
    exact ⟨s, Refunds.find?_create hs _ _ _, hsame⟩
  | createdLost call k paymentIntent hcall hphase hkey h =>
    rw [h]
    exact ⟨s, Refunds.find?_create hs _ _ _, hsame⟩
  | linked call k j hlabel hcall hphase h => rw [h]; exact ⟨s, hs, hsame⟩
  | settled j status h =>
    rw [h]
    exact w.stripe.settleRefund_stays j status hs
  | confirmed r payment marked hlabel hfind hsucceeded hpayment hmarked hrecord h =>
    rw [h]
    exact ⟨s, hs, hsame⟩
  | failed r hfind hfailed h => rw [h]; exact ⟨s, hs, hsame⟩
  | paid booking pc i h => rw [h]; exact ⟨s, hs, hsame⟩

/-- What a step does to a refunds row that was there. -/
inductive RefundMove (w : World) (l : Label) (r : Refund) : Refund → Prop
  | same : RefundMove w l r r
  | linked (i : StripeRefundId) (hfor : w.refundView.createdFor r.id i) :
      RefundMove w l r { r with providerRefundId := some i }
  | succeeded (s : StripeRefund) (hlabel : l = .refundEvent s.id)
      (hfind : w.refundView.stripeRefunds.find? s.id = some s) (hsettled : s.status = .succeeded)
      (hconfirms : confirmsRow s.id r) : RefundMove w l r { r with status := .succeeded }
  | failed (s : StripeRefund) (hfind : w.refundView.stripeRefunds.find? s.id = some s)
      (hsettled : s.status = .failed) (hconfirms : confirmsRow s.id r) :
      RefundMove w l r { r with status := .failed }

theorem RefundMove.rows_refl (w : World) (l : Label) (t : Table Refund) :
    Table.Rowwise (RefundMove w l) t t :=
  .refl (fun _ => .same) t

/-- A step changes the refunds rows one by one, or is the insert of a refund call. -/
theorem World.RefundsLinked.rows_move {w : World} (hinv : w.RefundsLinked) (l : Label) :
    Table.Rowwise (RefundMove w l) w.db.refunds (w.step l).refundView.rows ∨
      ∃ call ∈ w.refundView.calls.rows, call.phase = .inserting ∧
        (∃ answer, l = .refund call.id answer) ∧
        (w.step l).refundView.rows = (insertRefund call.input w.db).2.refunds := by
  have hsame := RefundMove.rows_refl w l w.db.refunds
  cases w.refundStep l with
  | frame h => rw [h]; exact .inl hsame
  | started input phase hinput hphase h => rw [h]; exact .inl hsame
  | ended call h => rw [h]; exact .inl hsame
  | read call phase hcall hread h => rw [h]; exact .inl hsame
  | inserted call hlabel hcall hphase h =>
    exact .inr ⟨call, Table.mem_of_find? hcall, hphase, hlabel, congrArg Refunds.rows h⟩
  | created call k paymentIntent hcall hphase hkey h => rw [h]; exact .inl hsame
  | createdLost call k paymentIntent hcall hphase hkey h => rw [h]; exact .inl hsame
  | linked call k i hlabel hcall hphase h =>
    have hfor := (hinv.calls call (Table.mem_of_find? hcall)).stripe k i hphase
    rw [h]
    refine .inl (Table.Rowwise.modify (fun _ => .same) (by intro r; rfl) fun r hr => ?_)
    have hid : r.id = k := Table.key_of_find? hr
    exact .linked i (hid ▸ hfor)
  | settled j status h => rw [h]; exact .inl hsame
  | confirmed s payment marked hlabel hfind hsucceeded hpayment hmarked hrecord h =>
    rw [h, (markRefundSucceeded_eq_some hmarked).2]
    exact .inl (Table.Rowwise.updateWhere (fun _ => .same) (by intro r; rfl)
      fun r _ hconfirms => .succeeded s hlabel hfind hsucceeded hconfirms)
  | failed s hfind hfailed h =>
    rw [h]
    exact .inl (Table.Rowwise.updateWhere (fun _ => .same) (by intro r; rfl)
      fun r _ hconfirms => .failed s hfind hfailed hconfirms)
  | paid booking pc i h => rw [h]; exact .inl hsame

theorem find?_insertRefund (input : InitiateRefundInput) (db : Db) {k : RefundId} {r : Refund}
    (hr : db.refunds.find? k = some r) : (insertRefund input db).2.refunds.find? k = some r :=
  Table.find?_insertNew_of_find? hr _ (fun _ => rfl)

theorem World.RefundsLinked.row_moves {w : World} (hinv : w.RefundsLinked) (l : Label) {k : RefundId}
    {r : Refund} (hr : w.refundView.rows.find? k = some r) :
    ∃ r', (w.step l).refundView.rows.find? k = some r' ∧ RefundMove w l r r' := by
  rcases hinv.rows_move l with hrows | ⟨call, -, -, -, h⟩
  · exact hrows.of_find? hr
  · rw [h]
    exact ⟨r, find?_insertRefund call.input w.db hr, .same⟩

/-- The other way round: a row was there, or a call has just inserted it. -/
theorem World.RefundsLinked.row_origin {w : World} (hinv : w.RefundsLinked) (l : Label) {r' : Refund}
    (hr' : r' ∈ (w.step l).refundView.rows.rows) :
    (∃ r ∈ w.refundView.rows.rows, RefundMove w l r r') ∨
      ∃ c ∈ w.refundView.calls.rows, c.input.bookingId = r'.bookingId ∧
        c.input.amountMinor = r'.amountMinor ∧ r'.providerRefundId = none ∧ r'.status = .pending := by
  rcases hinv.rows_move l with hrows | ⟨call, hcall, -, -, h⟩
  · obtain ⟨r, hr, hmove⟩ := hrows.to_find? (Table.find?_of_mem hr')
    exact .inl ⟨r, Table.mem_of_find? hr, hmove⟩
  · rw [h] at hr'
    rcases List.mem_append.mp hr' with hmem | hmem
    · exact .inl ⟨r', hmem, .same⟩
    · rw [List.mem_singleton.mp hmem]
      exact .inr ⟨call, hcall, rfl, rfl, rfl, rfl⟩

/-! ## The invariant -/

theorem World.RefundsLinked.start {db : Db} (h : db.refunds.rows = []) :
    (World.start db).RefundsLinked where
  calls c hc := absurd hc List.not_mem_nil
  rows r hr := by
    have hr' : r ∈ db.refunds.rows := hr
    rw [h] at hr'
    cases hr'
  unique s hs := absurd hs List.not_mem_nil

section

variable {w : World}

theorem RefundRequested.step {input : InitiateRefundInput} (h : RefundRequested w input) (l : Label) :
    RefundRequested (w.step l) input where
  payment := by
    obtain ⟨p, hp⟩ := h.payment
    obtain ⟨p', hp', -⟩ := w.payment_stays l hp
    exact ⟨p', hp'⟩
  paymentId := h.paymentId
  amount := h.amount

theorem Refunds.createdFor.step {k : RefundId} {i : StripeRefundId} (h : w.refundView.createdFor k i)
    (l : Label) : (w.step l).refundView.createdFor k i := by
  obtain ⟨s, hs, hk⟩ := h
  obtain ⟨s', hs', hstays⟩ := w.stripeRefund_stays l hs
  exact ⟨s', hs', hstays.hostRefundId.trans hk⟩

theorem World.RefundsLinked.row_stays (hinv : w.RefundsLinked) (l : Label) {k : RefundId}
    (h : (w.refundView.rows.find? k).isSome) : ((w.step l).refundView.rows.find? k).isSome := by
  obtain ⟨r, hr⟩ := Option.isSome_iff_exists.mp h
  obtain ⟨r', hr', -⟩ := hinv.row_moves l hr
  exact Option.isSome_iff_exists.mpr ⟨r', hr'⟩

theorem RefundCallLinked.step (hinv : w.RefundsLinked) {c : RefundCall} (h : RefundCallLinked w c)
    (l : Label) : RefundCallLinked (w.step l) c where
  requested := h.requested.step l
  row k hk := hinv.row_stays l (h.row k hk)
  stripe k i hphase := (h.stripe k i hphase).step l

theorem StripeRefund.Stays.settledAs {s s' : StripeRefund} (h : s.Stays s') {status : StripeRefundStatus}
    (hs : s.status = status) (hne : status ≠ .pending) : s'.status = status := by
  rw [h.settled (by rw [hs]; exact hne), hs]

/-- A settled refund of Stripe, as the next state has it. -/
theorem World.settled_stays (w : World) (l : Label) {s : StripeRefund} {status : StripeRefundStatus}
    (hfind : w.refundView.stripeRefunds.find? s.id = some s) (hs : s.status = status)
    (hne : status ≠ .pending) : ∃ s', s'.id = s.id ∧
      (w.step l).refundView.stripeRefunds.find? s'.id = some s' ∧ s'.status = status := by
  obtain ⟨s', hs', hstays⟩ := w.stripeRefund_stays l hfind
  refine ⟨s', hstays.id, ?_, hstays.settledAs hs hne⟩
  rw [hstays.id]
  exact hs'

theorem RefundResolved.step {r : Refund} (h : RefundResolved w r) (l : Label) :
    RefundResolved (w.step l) r := by
  cases h with
  | pending hstatus => exact .pending hstatus
  | succeeded s hstatus hid hfind hsettled =>
    obtain ⟨s', hs', hfind', hsettled'⟩ := w.settled_stays l hfind hsettled nofun
    exact .succeeded s' hstatus (by rw [hs']; exact hid) hfind' hsettled'
  | failed s hstatus hid hfind hsettled =>
    obtain ⟨s', hs', hfind', hsettled'⟩ := w.settled_stays l hfind hsettled nofun
    exact .failed s' hstatus (by rw [hs']; exact hid) hfind' hsettled'

theorem RefundLinked.step {r : Refund} (h : RefundLinked w r) (l : Label) :
    RefundLinked (w.step l) r where
  payment := by
    obtain ⟨p, hp⟩ := h.payment
    obtain ⟨p', hp', -⟩ := w.payment_stays l hp
    exact ⟨p', hp'⟩
  amount := h.amount
  stripe i hi := (h.stripe i hi).step l
  resolved := h.resolved.step l

/-- A move keeps the links of a row: relinking finds the same refund, and a refund
that settled one way never confirms the other. -/
theorem RefundLinked.move (hinv : w.RefundsLinked) {l : Label} {r r' : Refund} (h : RefundLinked w r)
    (hmove : RefundMove w l r r') : RefundLinked w r' := by
  cases hmove with
  | same => exact h
  | linked i hfor =>
    refine ⟨h.payment, h.amount, fun j hj => ?_, ?_⟩
    · cases hj
      exact hfor
    · cases h.resolved with
      | pending hstatus => exact .pending hstatus
      | succeeded s hstatus hid hfind hsettled =>
        have hi := hinv.createdFor_inj hfor (h.stripe s.id hid)
        exact .succeeded s hstatus (congrArg some hi) hfind hsettled
      | failed s hstatus hid hfind hsettled =>
        have hi := hinv.createdFor_inj hfor (h.stripe s.id hid)
        exact .failed s hstatus (congrArg some hi) hfind hsettled
  | succeeded s hlabel hfind hsettled hconfirms =>
    exact ⟨h.payment, h.amount, h.stripe,
      .succeeded s rfl (of_decide_eq_true hconfirms).1 hfind hsettled⟩
  | failed s hfind hsettled hconfirms =>
    exact ⟨h.payment, h.amount, h.stripe,
      .failed s rfl (of_decide_eq_true hconfirms).1 hfind hsettled⟩

theorem Refunds.mem_setPhase {v : Refunds} {call c : RefundCall} {phase : RefundPhase}
    (hcall : v.calls.find? call.id = some call) (h : c ∈ (v.setPhase call phase).calls.rows) :
    c ∈ v.calls.rows ∨ c = { call with phase := phase } :=
  (Table.mem_modify_of_find? (by intro r; rfl) hcall h).imp_left And.left

theorem Refunds.mem_endCall {v : Refunds} {call c : RefundCall}
    (h : c ∈ (v.endCall call).calls.rows) : c ∈ v.calls.rows :=
  (List.mem_filter.mp h).1

theorem unresolvedAttempt_row {input : InitiateRefundInput} {db : Db} {k : RefundId}
    (h : unresolvedAttempt input db = some k) : (db.refunds.find? k).isSome := by
  unfold unresolvedAttempt at h
  obtain ⟨r, hr, rfl⟩ := Option.map_eq_some_iff.mp h
  obtain ⟨hlast, -⟩ := Option.filter_eq_some_iff.mp hr
  have hmem : r ∈ db.refunds.rows := List.mem_of_mem_filter (List.mem_of_getLast? hlast)
  exact Option.isSome_iff_exists.mpr ⟨r, Table.find?_of_mem hmem⟩

/-- What a read leaves the call linked to. -/
theorem World.RefundsLinked.read (hinv : w.RefundsLinked) {call : RefundCall} {phase : RefundPhase}
    (hcall : w.refundCalls.find? call.id = some call) (hread : RefundReads w call phase) :
    RefundCallLinked w { call with phase := phase } := by
  have hlinked := hinv.calls call (Table.mem_of_find? hcall)
  cases hread with
  | checked paidMinor hphase hfits => exact ⟨hlinked.requested, nofun, nofun⟩
  | unresolved k hphase hread =>
    refine ⟨hlinked.requested, fun k' hk => ?_, nofun⟩
    cases hk
    exact unresolvedAttempt_row hread
  | resolved hphase hread => exact ⟨hlinked.requested, nofun, nofun⟩
  | reconciled k r hphase hfind hrow =>
    refine ⟨hlinked.requested, fun k' hk => hlinked.row k' (by rw [hphase]; exact hk), fun k' i hp => ?_⟩
    cases hp
    exact ⟨r, hfind, hrow⟩
  | unlisted k hphase =>
    exact ⟨hlinked.requested, fun k' hk => hlinked.row k' (by rw [hphase]; exact hk), nofun⟩
  | replayed k r hphase hfind hrow =>
    refine ⟨hlinked.requested, fun k' hk => hlinked.row k' (by rw [hphase]; exact hk), fun k' i hp => ?_⟩
    cases hp
    exact ⟨r, hfind, hrow⟩

theorem Refunds.createdFor_create (v : Refunds) (paymentIntent : PaymentIntentId)
    (input : InitiateRefundInput) (k : RefundId) :
    (v.create paymentIntent input k).createdFor k v.stripeRefunds.freshKey :=
  ⟨_, (Table.find?_insertNew _ _ (fun _ => rfl) _).trans (if_pos rfl), rfl⟩

/-- Every call in the next state was linked before, or has just been. -/
theorem World.RefundsLinked.step_calls (hinv : w.RefundsLinked) (l : Label) :
    ∀ c ∈ (w.step l).refundView.calls.rows, RefundCallLinked (w.step l) c := by
  have hold : ∀ c ∈ w.refundView.calls.rows, RefundCallLinked (w.step l) c :=
    fun c hc => (hinv.calls c hc).step hinv l
  have hended : ∀ call, ∀ c ∈ (w.refundView.endCall call).calls.rows, RefundCallLinked (w.step l) c :=
    fun call c hc => hold c (Refunds.mem_endCall hc)
  cases w.refundStep l with
  | frame h => rw [h]; exact hold
  | started input phase hinput hphase h =>
    rw [h]
    intro c hc
    rcases List.mem_append.mp hc with hc | hc
    · exact hold c hc
    · rw [List.mem_singleton.mp hc]
      rcases hphase with rfl | ⟨paidMinor, rfl⟩
      · exact ⟨hinput.step l, nofun, nofun⟩
      · exact ⟨hinput.step l, nofun, nofun⟩
  | ended call h => rw [h]; exact hended call
  | read call phase hcall hread h =>
    rw [h]
    intro c hc
    rcases Refunds.mem_setPhase hcall hc with hc | rfl
    · exact hold c hc
    · exact (hinv.read hcall hread).step hinv l
  | inserted call hlabel hcall hphase h =>
    have hrequested := (hinv.calls call (Table.mem_of_find? hcall)).requested.step l
    have hrow : ((w.step l).refundView.rows.find? w.db.refunds.freshKey).isSome := by
      rw [h]
      exact Option.isSome_iff_exists.mpr
        ⟨_, (Table.find?_insertNew _ _ (fun _ => rfl) _).trans (if_pos rfl)⟩
    rw [h]
    intro c hc
    rcases Refunds.mem_setPhase hcall hc with hc | rfl
    · exact hold c hc
    · refine ⟨hrequested, fun k hk => ?_, nofun⟩
      cases hk
      exact hrow
  | created call k paymentIntent hcall hphase hkey h =>
    have hlinked := (hinv.calls call (Table.mem_of_find? hcall)).step hinv l
    have hfor : (w.step l).refundView.createdFor k w.stripe.refunds.freshKey := by
      rw [h]
      exact Refunds.createdFor_create _ paymentIntent call.input k
    rw [h]
    intro c hc
    rcases Refunds.mem_setPhase hcall hc with hc | rfl
    · exact hold c hc
    · refine ⟨hlinked.requested, fun k' hk => hlinked.row k' (by rw [hphase]; exact hk),
        fun k' i hp => ?_⟩
      cases hp
      exact hfor
  | createdLost call k paymentIntent hcall hphase hkey h => rw [h]; exact hended call
  | linked call k i hlabel hcall hphase h => rw [h]; exact hended call
  | settled j status h => rw [h]; exact hold
  | confirmed s payment marked hlabel hfind hsucceeded hpayment hmarked hrecord h => rw [h]; exact hold
  | failed s hfind hfailed h => rw [h]; exact hold
  | paid booking pc i h => rw [h]; exact hold

theorem World.RefundsLinked.step_rows (hinv : w.RefundsLinked) (l : Label) :
    ∀ r ∈ (w.step l).refundView.rows.rows, RefundLinked (w.step l) r := by
  intro r' hr'
  rcases hinv.row_origin l hr' with ⟨r, hr, hmove⟩ | ⟨c, hc, hb, hamount, hid, hstatus⟩
  · exact ((hinv.rows r hr).move hinv hmove).step l
  · have hrequested := (hinv.calls c hc).requested.step l
    refine ⟨hb ▸ hrequested.payment, hamount ▸ hrequested.amount, fun i hi => ?_, .pending hstatus⟩
    rw [hid] at hi
    cases hi

/-- A new refund at Stripe has a key that none had. -/
theorem Refunds.unique_create {v : Refunds} {k : RefundId}
    (hunique : ∀ s ∈ v.stripeRefunds.rows, ∀ s' ∈ v.stripeRefunds.rows,
      s.hostRefundId = s'.hostRefundId → s = s')
    (hkey : v.stripeRefunds.rows.find? (fun r => r.hostRefundId == k) = none)
    (paymentIntent : PaymentIntentId) (input : InitiateRefundInput) :
    ∀ s ∈ (v.create paymentIntent input k).stripeRefunds.rows,
      ∀ s' ∈ (v.create paymentIntent input k).stripeRefunds.rows,
      s.hostRefundId = s'.hostRefundId → s = s' := by
  have hfresh : ∀ s ∈ v.stripeRefunds.rows, s.hostRefundId ≠ k := by
    intro s hs hsk
    exact List.find?_eq_none.mp hkey s hs (by rw [hsk]; exact beq_self_eq_true k)
  intro s hs s' hs' h
  rcases List.mem_append.mp hs with hs | hs
  · rcases List.mem_append.mp hs' with hs' | hs'
    · exact hunique s hs s' hs' h
    · rw [List.mem_singleton.mp hs'] at h
      exact absurd h (hfresh s hs)
  · rcases List.mem_append.mp hs' with hs' | hs'
    · rw [List.mem_singleton.mp hs] at h
      exact absurd h.symm (hfresh s' hs')
    · rw [List.mem_singleton.mp hs, List.mem_singleton.mp hs']

theorem World.RefundsLinked.step_unique (hinv : w.RefundsLinked) (l : Label) :
    ∀ s ∈ (w.step l).refundView.stripeRefunds.rows, ∀ s' ∈ (w.step l).refundView.stripeRefunds.rows,
      s.hostRefundId = s'.hostRefundId → s = s' := by
  have hold := hinv.unique
  cases w.refundStep l with
  | frame h => rw [h]; exact hold
  | started input phase hinput hphase h => rw [h]; exact hold
  | ended call h => rw [h]; exact hold
  | read call phase hcall hread h => rw [h]; exact hold
  | inserted call hlabel hcall hphase h => rw [h]; exact hold
  | created call k paymentIntent hcall hphase hkey h =>
    rw [h]
    exact Refunds.unique_create hold hkey paymentIntent call.input
  | createdLost call k paymentIntent hcall hphase hkey h =>
    rw [h]
    exact Refunds.unique_create hold hkey paymentIntent call.input
  | linked call k i hlabel hcall hphase h => rw [h]; exact hold
  | settled j status h =>
    rw [h]
    -- Settling keeps the keys, so two rows with one key settle alike.
    intro s hs s' hs' hkeys
    obtain ⟨r, hr, rfl⟩ := (Table.mem_updateWhere (by intro r; rfl)).mp hs
    obtain ⟨r', hr', rfl⟩ := (Table.mem_updateWhere (by intro r; rfl)).mp hs'
    have hsame : r = r' := by
      refine hold r hr r' hr' ?_
      simpa only [apply_ite StripeRefund.hostRefundId, ite_self] using hkeys
    rw [hsame]
  | confirmed s payment marked hlabel hfind hsucceeded hpayment hmarked hrecord h => rw [h]; exact hold
  | failed s hfind hfailed h => rw [h]; exact hold
  | paid booking pc i h => rw [h]; exact hold

theorem World.RefundsLinked.step (hinv : w.RefundsLinked) (l : Label) : (w.step l).RefundsLinked where
  calls := hinv.step_calls l
  rows := hinv.step_rows l
  unique := hinv.step_unique l

end

end HostPlatform
