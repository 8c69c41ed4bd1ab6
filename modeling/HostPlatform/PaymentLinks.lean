-- SUMMARY: Which booking every payments row, checkout call and shared client secret belongs to, in any reachable state.
import HostPlatform.CheckoutSteps

/-!
# Links between payments and bookings

Foreign keys and metadata tie the rows and the calls of a legacy payment to one
booking. No step of the system cuts or crosses these ties.
-/

namespace HostPlatform

open Lib (Table)

/-- Intent `i` is a legacy payment of booking `b`. -/
def Checkouts.legacyIntent (v : Checkouts) (b : BookingId) (i : PaymentIntentId) : Prop :=
  ∃ r, v.intents.find? i = some r ∧ r.bookingId = b ∧ r.flow = .destinationChargeLegacy

/-- The booking row the call has read. -/
def CheckoutPhase.booking? : CheckoutPhase → Option CheckoutBooking
  | .readingBooking => none
  | .readingPayment cb | .retrieving cb _ | .creating cb | .upserting cb _ => some cb

/-- The intent the call works with. -/
def CheckoutPhase.intent? : CheckoutPhase → Option PaymentIntentId
  | .retrieving _ i | .upserting _ i => some i
  | .readingBooking | .readingPayment _ | .creating _ => none

structure CallLinked (w : World) (c : CheckoutCall) : Prop where
  flow : w.db.flowOf c.bookingId = some .destinationChargeLegacy
  booking : ∀ cb, c.phase.booking? = some cb → cb.bookingId = c.bookingId
  intent : ∀ i, c.phase.intent? = some i → w.view.legacyIntent c.bookingId i
  amount : ∀ cb i, c.phase = .upserting cb i → 0 < cb.guestTotalMinor

structure PaymentLinked (w : World) (p : Payment) : Prop where
  flow : w.db.flowOf p.bookingId = some .destinationChargeLegacy
  intent : ∀ i, p.providerPaymentIntentId = some i → w.view.legacyIntent p.bookingId i
  amount : 0 < p.amountMinor

structure World.Linked (w : World) : Prop where
  calls : ∀ c ∈ w.view.calls.rows, CallLinked w c
  payments : ∀ p ∈ w.view.payments.rows, PaymentLinked w p
  shared : ∀ i ∈ w.view.sharedSecrets, ∃ b, w.view.legacyIntent b i

/-! ## What stays -/

/-- Bookings keep their flow and legacy intents their booking. -/
structure World.Grows (w w' : World) : Prop where
  flow : ∀ b flow, w.db.flowOf b = some flow → w'.db.flowOf b = some flow
  intent : ∀ b i, w.view.legacyIntent b i → w'.view.legacyIntent b i

section

variable {w w' : World}

theorem CallLinked.grows {c : CheckoutCall} (h : CallLinked w c) (hgrow : w.Grows w') :
    CallLinked w' c where
  flow := hgrow.flow _ _ h.flow
  booking := h.booking
  intent i hi := hgrow.intent _ _ (h.intent i hi)
  amount := h.amount

theorem PaymentLinked.grows {p : Payment} (h : PaymentLinked w p) (hgrow : w.Grows w') :
    PaymentLinked w' p where
  flow := hgrow.flow _ _ h.flow
  intent i hi := hgrow.intent _ _ (h.intent i hi)
  amount := h.amount

end

/-- An intent stays at Stripe as it was requested; its status may move. -/
structure IntentStays (w : World) (r r' : PaymentIntent) : Prop where
  params : r'.params = r.params
  key : r'.idempotencyKey = r.idempotencyKey
  status : r'.status = r.status ∨
    Stripe.mayMove (w.stripe.sharedSecrets.contains r.id) r.status r'.status

theorem IntentStays.refl (w : World) (r : PaymentIntent) : IntentStays w r r := ⟨rfl, rfl, .inl rfl⟩

theorem World.intentStays (w : World) (l : Label) {i : PaymentIntentId} {r : PaymentIntent}
    (hr : w.stripe.intents.find? i = some r) :
    ∃ r', (w.step l).stripe.intents.find? i = some r' ∧ IntentStays w r r' := by
  show ∃ r', (w.step l).view.intents.find? i = some r' ∧ IntentStays w r r'
  have hr' : w.view.intents.find? i = some r := hr
  have hsame := IntentStays.refl w r
  cases w.checkoutStep l with
  | frame h => rw [h]; exact ⟨r, hr', hsame⟩
  | started b hflow h => rw [h]; exact ⟨r, hr', hsame⟩
  | ended call h => rw [h]; exact ⟨r, hr', hsame⟩
  | read call phase hcall hread h => rw [h]; exact ⟨r, hr', hsame⟩
  | reused call cb j hcall hphase h => rw [h]; exact ⟨r, hr', hsame⟩
  | created call cb hlabel hcall hphase hpos h =>
    rw [h]
    exact ⟨r, PaymentIntents.find?_create hr' _ _ _, hsame⟩
  | createdLost call cb hcall hphase h =>
    rw [h]
    exact ⟨r, PaymentIntents.find?_create hr' _ _ _, hsame⟩
  | upserted call cb j db hcall hphase hupsert h => rw [h]; exact ⟨r, hr', hsame⟩
  | moved j status hfind hmove h =>
    rw [h]
    by_cases hj : i = j.id
    · subst hj
      rw [hfind] at hr
      cases hr
      refine ⟨r.moveTo status, (w.view.intents.find?_move _ _ _).trans ?_, rfl, rfl, .inr hmove⟩
      rw [if_pos rfl, hr']
      rfl
    · refine ⟨r, (w.view.intents.find?_move _ _ _).trans ?_, hsame⟩
      rw [if_neg hj, hr']
  | charged call claim status hcall hphase hnew h =>
    rw [h]
    exact ⟨r, PaymentIntents.find?_create hr' _ _ _, hsame⟩
  | paid j hfind hsucceeded hflow hstatus h => rw [h]; exact ⟨r, hr', hsame⟩
  | failed intent h => rw [h]; exact ⟨r, hr', hsame⟩
  | refunded b fullyRefunded hstatus h => rw [h]; exact ⟨r, hr', hsame⟩

theorem World.grows_step (w : World) (l : Label) : w.Grows (w.step l) where
  flow _ _ h := (w.bookingsGrow_step l).flowOf h
  intent b i hi := by
    obtain ⟨r, hr, hb, hflow⟩ := hi
    obtain ⟨r', hr', hstays⟩ := w.intentStays l hr
    refine ⟨r', hr', ?_, ?_⟩
    · unfold PaymentIntent.bookingId at hb ⊢
      rw [hstays.params, hb]
    · unfold PaymentIntent.flow at hflow ⊢
      rw [hstays.params, hflow]

/-! ## The invariant -/

theorem World.Linked.start {db : Db} (h : db.payments.rows = []) : (World.start db).Linked where
  calls c hc := absurd hc List.not_mem_nil
  payments p hp := by
    have hp' : p ∈ db.payments.rows := hp
    rw [h] at hp'
    cases hp'
  shared i hi := absurd hi List.not_mem_nil

/-- A payments row that differs from an old one at most in its status. -/
def Payment.SamePayment (q p : Payment) : Prop :=
  p.bookingId = q.bookingId ∧ p.providerPaymentIntentId = q.providerPaymentIntentId ∧
    p.amountMinor = q.amountMinor

theorem Payment.SamePayment.refl (p : Payment) : p.SamePayment p := ⟨rfl, rfl, rfl⟩

theorem mem_updateStatus {t : Table Payment} {q : Payment → Bool} {f : Payment → Payment}
    (hf : ∀ r : Payment, r.SamePayment (f r)) {p : Payment}
    (hp : p ∈ (t.updateWhere q f fun r => (hf r).1).rows) : ∃ s ∈ t.rows, s.SamePayment p := by
  obtain ⟨s, hs, rfl⟩ := (Table.mem_updateWhere fun r => (hf r).1).mp hp
  refine ⟨s, hs, ?_⟩
  split
  · exact hf s
  · exact .refl s

theorem find?_updateStatus {t : Table Payment} {q : Payment → Bool} {f : Payment → Payment}
    (hf : ∀ r : Payment, r.SamePayment (f r)) {b : BookingId} {p : Payment} (hp : t.find? b = some p) :
    ∃ p', (t.updateWhere q f fun r => (hf r).1).find? b = some p' ∧ p'.amountMinor = p.amountMinor := by
  rw [Table.find?_updateWhere, hp]
  refine ⟨_, rfl, ?_⟩
  simp only
  split
  · exact (hf p).2.2
  · rfl

/-- Old rows keep their links, so only new ones have to be looked at. -/
theorem World.Linked.of_view {w w' : World} (hinv : w.Linked) (hgrow : w.Grows w') {v : Checkouts}
    (h : w'.view = v) (hcalls : ∀ c ∈ v.calls.rows, c ∈ w.view.calls.rows ∨ CallLinked w' c)
    (hpayments : ∀ p ∈ v.payments.rows, PaymentLinked w' p ∨ ∃ q ∈ w.view.payments.rows, q.SamePayment p)
    (hshared : ∀ i ∈ v.sharedSecrets, i ∈ w.view.sharedSecrets ∨ ∃ b, w.view.legacyIntent b i) :
    w'.Linked where
  calls c hc := by
    rcases hcalls c (h ▸ hc) with hold | hnew
    · exact (hinv.calls c hold).grows hgrow
    · exact hnew
  payments p hp := by
    rcases hpayments p (h ▸ hp) with hnew | ⟨q, hq, hb, hi, ha⟩
    · exact hnew
    · have hlinked := (hinv.payments q hq).grows hgrow
      refine ⟨?_, fun i hpi => ?_, ?_⟩
      · rw [hb]
        exact hlinked.flow
      · rw [hb]
        exact hlinked.intent i (hi ▸ hpi)
      · rw [ha]
        exact hlinked.amount
  shared i hi := by
    rcases hshared i (h ▸ hi) with hold | ⟨b, hb⟩
    · obtain ⟨b, hb⟩ := hinv.shared i hold
      exact ⟨b, hgrow.intent b i hb⟩
    · exact ⟨b, hgrow.intent b i hb⟩

/-- The table operations of the checkout machine, read backwards. -/
theorem Checkouts.mem_setPhase {v : Checkouts} {call c : CheckoutCall} {phase : CheckoutPhase}
    (hcall : v.calls.find? call.id = some call) (h : c ∈ (v.setPhase call phase).calls.rows) :
    c ∈ v.calls.rows ∨ c = { call with phase := phase } :=
  (Table.mem_modify_of_find? (by intro r; rfl) hcall h).imp_left And.left

theorem Checkouts.mem_endCall {v : Checkouts} {call c : CheckoutCall}
    (h : c ∈ (v.endCall call).calls.rows) : c ∈ v.calls.rows ∧ c.id ≠ call.id := by
  have hmem := List.mem_filter.mp h
  exact ⟨hmem.1, by simpa using hmem.2⟩

theorem mem_upsertPayment {b : BookingId} {i : PaymentIntentId} {guestTotalMinor : Int}
    {currency : String} {db db' : Db} {u : Unit}
    (h : upsertPayment b i guestTotalMinor currency db = .ok (u, db')) {p : Payment}
    (hp : p ∈ db'.payments.rows) :
    p ∈ db.payments.rows ∧ p.bookingId ≠ b ∨
      p.bookingId = b ∧ p.providerPaymentIntentId = some i ∧ p.status = .pending ∧
        p.amountMinor = ((db.payments.find? b).map Payment.amountMinor).getD guestTotalMinor := by
  obtain ⟨row, hb, hi, hst, hamount, hfind, -⟩ := upsertPayment_eq_ok h
  have hself := hfind p.bookingId
  rw [show db'.payments.find? p.bookingId = some p from Table.find?_of_mem hp] at hself
  split at hself
  · rename_i hpb
    cases hself
    exact .inr ⟨hpb, hi, hst, hamount⟩
  · rename_i hpb
    exact .inl ⟨Table.mem_of_find? hself.symm, hpb⟩

theorem checkoutBooking_bookingId {b : BookingId} {db : Db} {cb : CheckoutBooking}
    (h : checkoutBooking b db = .ok cb) : cb.bookingId = b := by
  simp only [checkoutBooking] at h
  split at h
  · split at h
    · cases h
    · cases h
      rfl
  · cases h

/-- What a read leaves the call linked to. -/
theorem World.Linked.read {w : World} (hinv : w.Linked) {call : CheckoutCall} {phase : CheckoutPhase}
    (hcall : w.checkouts.find? call.id = some call) (hread : CheckoutReads w call phase) :
    CallLinked w { call with phase := phase } := by
  have hlinked := hinv.calls call (Table.mem_of_find? hcall)
  refine ⟨hlinked.flow, ?_, ?_, ?_⟩
  · intro cb hcb
    cases hread with
    | booking cb' hphase hread =>
      cases hcb
      exact checkoutBooking_bookingId hread
    | named cb' i hphase hread => exact hlinked.booking cb (by rw [hphase]; exact hcb)
    | unnamed cb' hphase hread => exact hlinked.booking cb (by rw [hphase]; exact hcb)
    | replaced cb' i hphase => exact hlinked.booking cb (by rw [hphase]; exact hcb)
  · intro i hi
    cases hread with
    | booking cb hphase hread => cases hi
    | named cb j hphase hread =>
      cases hi
      unfold existingPaymentIntent at hread
      split at hread
      · cases hread
      · rename_i p hp
        split at hread
        · cases hread
        · have hnamed := (hinv.payments p (Table.mem_of_find? hp)).intent i (by injection hread)
          rw [show p.bookingId = call.bookingId from Table.key_of_find? hp] at hnamed
          exact hnamed
    | unnamed cb hphase hread => cases hi
    | replaced cb j hphase => cases hi
  · intro cb i hcb
    have hcb' : phase = .upserting cb i := hcb
    cases hread <;> cases hcb'

/-- The amount of the row a checkout leaves is positive: it was, or the checkout has
created a PaymentIntent over it. -/
theorem World.Linked.upserted_amount {w : World} (hinv : w.Linked) {call : CheckoutCall}
    {cb : CheckoutBooking} {i : PaymentIntentId} (hcall : w.checkouts.find? call.id = some call)
    (hphase : call.phase = .upserting cb i) :
    0 < ((w.db.payments.find? call.bookingId).map Payment.amountMinor).getD cb.guestTotalMinor := by
  cases hp : w.db.payments.find? call.bookingId with
  | none => exact (hinv.calls call (Table.mem_of_find? hcall)).amount cb i hphase
  | some p => exact (hinv.payments p (Table.mem_of_find? hp)).amount

theorem World.Linked.step {w : World} (hinv : w.Linked) (l : Label) : (w.step l).Linked := by
  have hgrow := w.grows_step l
  have oldCalls : ∀ c ∈ w.view.calls.rows, c ∈ w.view.calls.rows ∨ CallLinked (w.step l) c :=
    fun c hc => .inl hc
  have oldPayments : ∀ p ∈ w.view.payments.rows,
      PaymentLinked (w.step l) p ∨ ∃ q ∈ w.view.payments.rows, q.SamePayment p :=
    fun p hp => .inr ⟨p, hp, .refl p⟩
  have oldShared : ∀ i ∈ w.view.sharedSecrets,
      i ∈ w.view.sharedSecrets ∨ ∃ b, w.view.legacyIntent b i := fun i hi => .inl hi
  have fewerCalls : ∀ call, ∀ c ∈ (w.view.endCall call).calls.rows,
      c ∈ w.view.calls.rows ∨ CallLinked (w.step l) c :=
    fun call c hc => .inl (Checkouts.mem_endCall hc).1
  cases w.checkoutStep l with
  | frame h => exact hinv.of_view hgrow h oldCalls oldPayments oldShared
  | started b hflow h =>
    refine hinv.of_view hgrow h (fun c hc => ?_) oldPayments oldShared
    rcases List.mem_append.mp hc with hc | hc
    · exact .inl hc
    · right
      rw [List.mem_singleton.mp hc]
      exact ⟨hgrow.flow b _ hflow, nofun, nofun, nofun⟩
  | ended call h => exact hinv.of_view hgrow h (fewerCalls call) oldPayments oldShared
  | read call phase hcall hread h =>
    refine hinv.of_view hgrow h (fun c hc => ?_) oldPayments oldShared
    rcases Checkouts.mem_setPhase hcall hc with hc | rfl
    · exact .inl hc
    · exact .inr ((hinv.read hcall hread).grows hgrow)
  | reused call cb i hcall hphase h =>
    refine hinv.of_view hgrow h (fewerCalls call) oldPayments (fun j hj => ?_)
    rcases List.mem_cons.mp hj with rfl | hj
    · right
      exact ⟨_, (hinv.calls call (Table.mem_of_find? hcall)).intent j (by rw [hphase]; rfl)⟩
    · exact .inl hj
  | created call cb hlabel hcall hphase hpos h =>
    have hlinked := hinv.calls call (Table.mem_of_find? hcall)
    have hbooking := hlinked.booking cb (by rw [hphase]; rfl)
    refine hinv.of_view hgrow h (fun c hc => ?_) oldPayments oldShared
    rcases Checkouts.mem_setPhase hcall hc with hc | rfl
    · exact .inl hc
    · right
      refine ⟨hgrow.flow _ _ hlinked.flow, ?_, ?_, ?_⟩
      · intro cb' hcb
        cases hcb
        exact hbooking
      · intro i hi
        cases hi
        rw [h]
        exact ⟨_, (Table.find?_insertNew _ _ (fun _ => rfl) _).trans (if_pos rfl), hbooking, rfl⟩
      · intro cb' i hcb
        cases hcb
        exact hpos
  | createdLost call cb hcall hphase h =>
    exact hinv.of_view hgrow h (fewerCalls call) oldPayments oldShared
  | upserted call cb i db hcall hphase hupsert h =>
    have hlinked := hinv.calls call (Table.mem_of_find? hcall)
    have hi := hlinked.intent i (by rw [hphase]; rfl)
    refine hinv.of_view hgrow h (fewerCalls call) (fun p hp => ?_) (fun j hj => ?_)
    · rcases mem_upsertPayment hupsert hp with ⟨hp, -⟩ | ⟨hb, hpi, -, hamount⟩
      · exact oldPayments p hp
      · left
        refine ⟨by rw [hb]; exact hgrow.flow _ _ hlinked.flow, fun j hj => ?_, ?_⟩
        · rw [hpi] at hj
          cases hj
          rw [hb]
          exact hgrow.intent _ _ hi
        · rw [hamount]
          exact hinv.upserted_amount hcall hphase
    · rcases List.mem_cons.mp hj with rfl | hj
      · exact .inr ⟨_, hi⟩
      · exact .inl hj
  | moved i status hfind hmove h => exact hinv.of_view hgrow h oldCalls oldPayments oldShared
  | charged call claim status hcall hphase hnew h =>
    exact hinv.of_view hgrow h oldCalls oldPayments oldShared
  | paid i hfind hsucceeded hflow hstatus h =>
    exact hinv.of_view hgrow h oldCalls
      (fun p hp => .inr (mem_updateStatus (by intro q; exact ⟨rfl, rfl, rfl⟩) hp)) oldShared
  | failed intent h =>
    exact hinv.of_view hgrow h oldCalls
      (fun p hp => .inr (mem_updateStatus (by intro q; exact ⟨rfl, rfl, rfl⟩) hp)) oldShared
  | refunded b fullyRefunded hstatus h =>
    exact hinv.of_view hgrow h oldCalls
      (fun p hp => .inr (mem_updateStatus (by intro q; exact ⟨rfl, rfl, rfl⟩) hp)) oldShared

/-! ## Amounts -/

/-- A payments row stays, and so does its amount. -/
theorem World.payment_stays (w : World) (l : Label) {b : BookingId} {p : Payment}
    (hp : w.db.payments.find? b = some p) :
    ∃ p', (w.step l).db.payments.find? b = some p' ∧ p'.amountMinor = p.amountMinor := by
  have hp' : w.view.payments.find? b = some p := hp
  show ∃ p', (w.step l).view.payments.find? b = some p' ∧ p'.amountMinor = p.amountMinor
  cases w.checkoutStep l with
  | frame h => rw [h]; exact ⟨p, hp', rfl⟩
  | started b' hflow h => rw [h]; exact ⟨p, hp', rfl⟩
  | ended call h => rw [h]; exact ⟨p, hp', rfl⟩
  | read call phase hcall hread h => rw [h]; exact ⟨p, hp', rfl⟩
  | reused call cb i hcall hphase h => rw [h]; exact ⟨p, hp', rfl⟩
  | created call cb hlabel hcall hphase hpos h => rw [h]; exact ⟨p, hp', rfl⟩
  | createdLost call cb hcall hphase h => rw [h]; exact ⟨p, hp', rfl⟩
  | upserted call cb i db hcall hphase hupsert h =>
    obtain ⟨row, -, -, -, hamount, hfind, -⟩ := upsertPayment_eq_ok hupsert
    rw [h]
    show ∃ p', db.payments.find? b = some p' ∧ p'.amountMinor = p.amountMinor
    rw [hfind b]
    split
    · rename_i hb
      rw [← hb, hp] at hamount
      exact ⟨row, rfl, hamount⟩
    · exact ⟨p, hp, rfl⟩
  | moved i status hfind hmove h => rw [h]; exact ⟨p, hp', rfl⟩
  | charged call claim status hcall hphase hnew h => rw [h]; exact ⟨p, hp', rfl⟩
  | paid i hfind hsucceeded hflow hst h =>
    rw [h]
    exact find?_updateStatus (by intro q; exact ⟨rfl, rfl, rfl⟩) hp'
  | failed intent h =>
    rw [h]
    exact find?_updateStatus (by intro q; exact ⟨rfl, rfl, rfl⟩) hp'
  | refunded b' fullyRefunded hst h =>
    rw [h]
    exact find?_updateStatus (by intro q; exact ⟨rfl, rfl, rfl⟩) hp'

end HostPlatform
