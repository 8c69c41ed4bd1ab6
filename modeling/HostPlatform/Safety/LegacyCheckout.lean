-- SUMMARY: When a legacy booking can be paid through two PaymentIntents.
import HostPlatform.ChargeLinks

/-!
# Legacy checkouts

A checkout looks for an intent to reuse, creates one otherwise, and then names it in
the payments row: three steps with nothing held between them. The intents that
matter are the payable ones: a guest has their client secret, or a call is about
to hand it out. As long as a checkout creates an intent only when the booking has
no payable one, there is never a second.
-/

namespace HostPlatform

open Lib (Table)
open Lib.Transition

/-! ## Payable intents -/

namespace Checkouts

/-- A call is about to name the intent in the payments row and to hand it out. -/
def stores (v : Checkouts) (i : PaymentIntentId) : Prop :=
  ∃ c ∈ v.calls.rows, ∃ cb, c.phase = .upserting cb i

/-- The intent can still be paid, or has been. -/
def payable (v : Checkouts) (r : PaymentIntent) : Prop :=
  v.stores r.id ∨ (r.status ≠ .canceled ∧ r.id ∈ v.sharedSecrets)

/-- At most one payable intent per booking, and a shared one is the one that the
payments row names. -/
structure Inv (v : Checkouts) : Prop where
  sharedExist : ∀ i ∈ v.sharedSecrets, ∃ r, v.intents.find? i = some r
  named : ∀ p ∈ v.payments.rows, ∀ i, p.providerPaymentIntentId = some i → i ∈ v.sharedSecrets
  retrieving : ∀ c ∈ v.calls.rows, ∀ cb i, c.phase = .retrieving cb i → i ∈ v.sharedSecrets
  storing : ∀ c ∈ v.calls.rows, ∀ cb i, c.phase = .upserting cb i →
    i ∉ v.sharedSecrets ∧ ∃ r, v.intents.find? i = some r
  storesOnce : ∀ c ∈ v.calls.rows, ∀ c' ∈ v.calls.rows, ∀ cb cb' i, c.phase = .upserting cb i →
    c'.phase = .upserting cb' i → c = c'
  unshared : ∀ r ∈ v.intents.rows, r.flow = .destinationChargeLegacy → r.id ∉ v.sharedSecrets →
    r.status = .requiresPaymentMethod ∨ r.status = .canceled
  alone : ∀ r ∈ v.intents.rows, ∀ r' ∈ v.intents.rows, r.flow = .destinationChargeLegacy →
    r'.flow = .destinationChargeLegacy → r.bookingId = r'.bookingId → v.payable r → v.payable r' →
    r = r'
  placed : ∀ r ∈ v.intents.rows, r.flow = .destinationChargeLegacy → r.status ≠ .canceled →
    r.id ∈ v.sharedSecrets →
    ∃ p, v.payments.find? r.bookingId = some p ∧ p.providerPaymentIntentId = some r.id

/-! ## What keeps the invariant -/

/-- Calls that store nothing new come and go. -/
theorem Inv.calls {v : Checkouts} (hinv : v.Inv) (calls : Table CheckoutCall)
    (hstores : ∀ c ∈ calls.rows, ∀ cb i, c.phase = .upserting cb i → c ∈ v.calls.rows)
    (hretrieves : ∀ c ∈ calls.rows, ∀ cb i, c.phase = .retrieving cb i → i ∈ v.sharedSecrets) :
    Inv { v with calls := calls } := by
  have hpayable : ∀ r, payable { v with calls := calls } r → v.payable r := by
    rintro r (⟨c, hc, cb, hphase⟩ | hshared)
    · exact .inl ⟨c, hstores c hc cb _ hphase, cb, hphase⟩
    · exact .inr hshared
  constructor
  case sharedExist => exact hinv.sharedExist
  case named => exact hinv.named
  case retrieving => exact hretrieves
  case storing =>
    intro c hc cb i hphase
    exact hinv.storing c (hstores c hc cb i hphase) cb i hphase
  case storesOnce =>
    intro c hc c' hc' cb cb' i hphase hphase'
    exact hinv.storesOnce c (hstores c hc cb i hphase) c' (hstores c' hc' cb' i hphase') cb cb' i
      hphase hphase'
  case unshared => exact hinv.unshared
  case alone =>
    intro r hr r' hr' hflow hflow' hb hp hp'
    exact hinv.alone r hr r' hr' hflow hflow' hb (hpayable r hp) (hpayable r' hp')
  case placed => exact hinv.placed

theorem Inv.endCall {v : Checkouts} (hinv : v.Inv) (call : CheckoutCall) : (v.endCall call).Inv :=
  hinv.calls _ (fun _ hc _ _ _ => (mem_endCall hc).1)
    fun c hc cb i hphase => hinv.retrieving c (mem_endCall hc).1 cb i hphase

/-- Handing out a secret that is out already. -/
theorem Inv.shareAgain {v : Checkouts} (hinv : v.Inv) {i : PaymentIntentId}
    (hi : i ∈ v.sharedSecrets) : (v.share i).Inv := by
  have hmem : ∀ j, j ∈ (v.share i).sharedSecrets ↔ j ∈ v.sharedSecrets := by
    intro j
    show j ∈ i :: v.sharedSecrets ↔ _
    rw [List.mem_cons]
    exact ⟨fun h => h.elim (fun h => h ▸ hi) id, .inr⟩
  have hpayable : ∀ r, (v.share i).payable r → v.payable r := by
    rintro r (hstores | ⟨hst, hshared⟩)
    · exact .inl hstores
    · exact .inr ⟨hst, (hmem r.id).mp hshared⟩
  constructor
  case sharedExist => exact fun j hj => hinv.sharedExist j ((hmem j).mp hj)
  case named => exact fun p hp j hj => (hmem j).mpr (hinv.named p hp j hj)
  case retrieving => exact fun c hc cb j hphase => (hmem j).mpr (hinv.retrieving c hc cb j hphase)
  case storing =>
    intro c hc cb j hphase
    obtain ⟨hnot, hexists⟩ := hinv.storing c hc cb j hphase
    exact ⟨fun h => hnot ((hmem j).mp h), hexists⟩
  case storesOnce => exact hinv.storesOnce
  case unshared => exact fun r hr hflow hnot => hinv.unshared r hr hflow fun h => hnot ((hmem _).mpr h)
  case alone =>
    intro r hr r' hr' hflow hflow' hb hp hp'
    exact hinv.alone r hr r' hr' hflow hflow' hb (hpayable r hp) (hpayable r' hp')
  case placed => exact fun r hr hflow hst hshared => hinv.placed r hr hflow hst ((hmem _).mp hshared)

/-- A payments row changes, but not the intent it names. -/
theorem Inv.settle {v : Checkouts} (hinv : v.Inv) (which : Payment → Bool) (f : Payment → Payment)
    (hf : ∀ p : Payment, Lib.key (f p) = Lib.key p)
    (hnames : ∀ p, (f p).providerPaymentIntentId = p.providerPaymentIntentId) :
    Inv { v with payments := v.payments.updateWhere which f hf } := by
  constructor
  case sharedExist => exact hinv.sharedExist
  case named =>
    intro p hp i hi
    obtain ⟨q, hq, rfl⟩ := (Table.mem_updateWhere hf).mp hp
    split at hi
    · rw [hnames] at hi
      exact hinv.named q hq i hi
    · exact hinv.named q hq i hi
  case retrieving => exact hinv.retrieving
  case storing => exact hinv.storing
  case storesOnce => exact hinv.storesOnce
  case unshared => exact hinv.unshared
  case alone => exact hinv.alone
  case placed =>
    intro r hr hflow hst hshared
    obtain ⟨p, hp, hi⟩ := hinv.placed r hr hflow hst hshared
    have hfind : (v.payments.updateWhere which f hf).find? r.bookingId =
        some (if which p then f p else p) := by
      rw [Table.find?_updateWhere, hp]
      rfl
    refine ⟨_, hfind, ?_⟩
    split
    · rw [hnames, hi]
    · exact hi

/-- A new intent that nobody knows of. -/
theorem Inv.create {v : Checkouts} (hinv : v.Inv) (params : IntentParams) (key : Option AttemptKey)
    (status : IntentStatus)
    (hstatus : params.flow = .destinationChargeLegacy → status = .requiresPaymentMethod) :
    (v.create params key status).Inv := by
  have hexists : ∀ {i r}, v.intents.find? i = some r →
      ∃ r, (v.create params key status).intents.find? i = some r := fun hr =>
    ⟨_, PaymentIntents.find?_create hr params key status⟩
  have hfresh : ∀ i, i ∈ v.sharedSecrets → i ≠ v.intents.freshKey := by
    intro i hi
    obtain ⟨r, hr⟩ := hinv.sharedExist i hi
    exact Table.ne_freshKey_of_find? hr
  -- The new intent is neither shared nor stored.
  have hold : ∀ r ∈ (v.create params key status).intents.rows,
      (v.create params key status).payable r → r ∈ v.intents.rows := by
    intro r hr hp
    rcases PaymentIntents.mem_create hr with hmem | ⟨hid, -⟩
    · exact hmem
    · rcases hp with ⟨c, hc, cb, hphase⟩ | ⟨-, hshared⟩
      · obtain ⟨s, hs⟩ := (hinv.storing c hc cb r.id hphase).2
        rw [hid, Table.find?_freshKey] at hs
        cases hs
      · exact absurd hid (hfresh r.id hshared)
  constructor
  case sharedExist =>
    intro i hi
    obtain ⟨r, hr⟩ := hinv.sharedExist i hi
    exact hexists hr
  case named => exact hinv.named
  case retrieving => exact hinv.retrieving
  case storing =>
    intro c hc cb i hphase
    obtain ⟨hnot, r, hr⟩ := hinv.storing c hc cb i hphase
    exact ⟨hnot, hexists hr⟩
  case storesOnce => exact hinv.storesOnce
  case unshared =>
    intro r hr hflow hnot
    rcases PaymentIntents.mem_create hr with hmem | ⟨-, hparams, -, hst⟩
    · exact hinv.unshared r hmem hflow hnot
    · left
      rw [hst]
      apply hstatus
      rw [← hparams]
      exact hflow
  case alone =>
    intro r hr r' hr' hflow hflow' hb hp hp'
    exact hinv.alone r (hold r hr hp) r' (hold r' hr' hp') hflow hflow' hb hp hp'
  case placed =>
    intro r hr hflow hst hshared
    exact hinv.placed r (hold r hr (.inr ⟨hst, hshared⟩)) hflow hst hshared

/-- A call takes the intent it has just created, the booking having no payable one. -/
theorem Inv.hold {v : Checkouts} (hinv : v.Inv) {call : CheckoutCall} {cb : CheckoutBooking}
    {i : PaymentIntentId} {r : PaymentIntent} (hcall : v.calls.find? call.id = some call)
    (hr : v.intents.find? i = some r) (hunshared : i ∉ v.sharedSecrets) (hnotStored : ¬ v.stores i)
    (hnone : ∀ s ∈ v.intents.rows, s.bookingId = r.bookingId → ¬ v.payable s) :
    (v.setPhase call (.upserting cb i)).Inv := by
  have hmem : ∀ c ∈ (v.setPhase call (.upserting cb i)).calls.rows,
      c ∈ v.calls.rows ∨ c = { call with phase := .upserting cb i } := fun c hc =>
    mem_setPhase hcall hc
  have hpayable : ∀ s ∈ v.intents.rows, (v.setPhase call (.upserting cb i)).payable s →
      v.payable s ∨ s = r := by
    rintro s hs (⟨c, hc, cb', hphase⟩ | hshared)
    · rcases hmem c hc with hc | rfl
      · exact .inl (.inl ⟨c, hc, cb', hphase⟩)
      · have hid : i = s.id := by
          injection hphase
        exact .inr (Table.key_inj hs (Table.mem_of_find? hr)
          (hid.symm.trans (Table.key_of_find? hr).symm))
    · exact .inl (.inr hshared)
  constructor
  case sharedExist => exact hinv.sharedExist
  case named => exact hinv.named
  case retrieving =>
    intro c hc cb' j hphase
    rcases hmem c hc with hc | rfl
    · exact hinv.retrieving c hc cb' j hphase
    · cases hphase
  case storing =>
    intro c hc cb' j hphase
    rcases hmem c hc with hc | rfl
    · exact hinv.storing c hc cb' j hphase
    · cases hphase
      exact ⟨hunshared, r, hr⟩
  case storesOnce =>
    intro c hc c' hc' cb' cb'' j hphase hphase'
    rcases hmem c hc with hc | rfl
    · rcases hmem c' hc' with hc' | rfl
      · exact hinv.storesOnce c hc c' hc' cb' cb'' j hphase hphase'
      · cases hphase'
        exact absurd ⟨c, hc, cb', hphase⟩ hnotStored
    · rcases hmem c' hc' with hc' | rfl
      · cases hphase
        exact absurd ⟨c', hc', cb'', hphase'⟩ hnotStored
      · rfl
  case unshared => exact hinv.unshared
  case alone =>
    intro s hs s' hs' hflow hflow' hb hp hp'
    rcases hpayable s hs hp with hold | rfl
    · rcases hpayable s' hs' hp' with hold' | rfl
      · exact hinv.alone s hs s' hs' hflow hflow' hb hold hold'
      · exact absurd hold (hnone s hs hb)
    · rcases hpayable s' hs' hp' with hold' | rfl
      · exact absurd hold' (hnone s' hs' hb.symm)
      · rfl
  case placed => exact hinv.placed

/-- The guest or Stripe moves an intent: an unshared one can only be canceled. -/
theorem Inv.move {v : Checkouts} (hinv : v.Inv) {i : PaymentIntent} {status : IntentStatus}
    (hfind : v.intents.find? i.id = some i)
    (hmove : Stripe.mayMove (v.sharedSecrets.contains i.id) i.status status) :
    (v.move i.id status).Inv := by
  have hmem : ∀ r ∈ (v.move i.id status).intents.rows, r ∈ v.intents.rows ∨ r = i.moveTo status := by
    intro r hr
    exact (Table.mem_modify_of_find? (by intro r; rfl) hfind hr).imp_left And.left
  have hi := Table.mem_of_find? hfind
  have hexists : ∀ {j r}, v.intents.find? j = some r →
      ∃ r, (v.move i.id status).intents.find? j = some r := by
    intro j r hr
    have hmoved := v.intents.find?_move i.id status j
    rw [show (v.move i.id status).intents.find? j = _ from hmoved]
    split
    · rw [hfind]
      exact ⟨_, rfl⟩
    · exact ⟨r, hr⟩
  have hcanceled : status ≠ .canceled → i.status ≠ .canceled := by
    intro _ hst
    rw [hst] at hmove
    cases hmove
  -- Every intent was there before under its id, and was payable if it is.
  have horigin : ∀ r ∈ (v.move i.id status).intents.rows, ∃ s ∈ v.intents.rows, s.id = r.id ∧
      s.flow = r.flow ∧ s.bookingId = r.bookingId ∧ (v.payable r → v.payable s) := by
    intro r hr
    rcases hmem r hr with hold | rfl
    · exact ⟨r, hold, rfl, rfl, rfl, id⟩
    · refine ⟨i, hi, rfl, rfl, rfl, ?_⟩
      rintro (hstores | ⟨hst, hshared⟩)
      · exact .inl hstores
      · exact .inr ⟨hcanceled hst, hshared⟩
  constructor
  case sharedExist =>
    intro j hj
    obtain ⟨r, hr⟩ := hinv.sharedExist j hj
    exact hexists hr
  case named => exact hinv.named
  case retrieving => exact hinv.retrieving
  case storing =>
    intro c hc cb j hphase
    obtain ⟨hnot, r, hr⟩ := hinv.storing c hc cb j hphase
    exact ⟨hnot, hexists hr⟩
  case storesOnce => exact hinv.storesOnce
  case unshared =>
    intro r hr hflow hnot
    rcases hmem r hr with hr | rfl
    · exact hinv.unshared r hr hflow hnot
    · have hunshared : i.id ∉ v.sharedSecrets := hnot
      have hnot' : v.sharedSecrets.contains i.id = false := by
        simpa using hunshared
      rw [hnot'] at hmove
      show status = _ ∨ status = _
      rcases hinv.unshared i hi hflow hnot with hst | hst
      · rw [hst] at hmove
        cases status <;> simp_all [Stripe.mayMove]
      · rw [hst] at hmove
        cases hmove
  case alone =>
    intro r hr r' hr' hflow hflow' hb hp hp'
    obtain ⟨s, hs, hid, hsflow, hsb, hsp⟩ := horigin r hr
    obtain ⟨s', hs', hid', hsflow', hsb', hsp'⟩ := horigin r' hr'
    have hsame := hinv.alone s hs s' hs' (hsflow.trans hflow) (hsflow'.trans hflow')
      (hsb.trans (hb.trans hsb'.symm)) (hsp hp) (hsp' hp')
    refine Table.key_inj hr hr' ?_
    show r.id = r'.id
    rw [← hid, ← hid', hsame]
  case placed =>
    intro r hr hflow hst hshared
    rcases hmem r hr with hr | rfl
    · exact hinv.placed r hr hflow hst hshared
    · exact hinv.placed i hi hflow (hcanceled hst) hshared

/-- The call names its intent in the payments row and hands it out. -/
theorem Inv.upsert {v : Checkouts} (hinv : v.Inv) {call : CheckoutCall} {cb : CheckoutBooking}
    {r : PaymentIntent} (payments : Table Payment) (hcall : call ∈ v.calls.rows)
    (hphase : call.phase = .upserting cb r.id) (hr : r ∈ v.intents.rows)
    (hflow : r.flow = .destinationChargeLegacy)
    (hnew : ∃ p, payments.find? r.bookingId = some p ∧ p.providerPaymentIntentId = some r.id)
    (hold : ∀ b, b ≠ r.bookingId → payments.find? b = v.payments.find? b) :
    Inv { (v.endCall call).share r.id with payments := payments } := by
  have hstored : v.stores r.id := ⟨call, hcall, cb, hphase⟩
  have hshared : ∀ {i}, i ∈ ((v.endCall call).share r.id).sharedSecrets → i = r.id ∨ i ∈ v.sharedSecrets :=
    List.mem_cons.mp
  have hpayable : ∀ s, payable { (v.endCall call).share r.id with payments := payments } s →
      s.id = r.id ∨ v.payable s := by
    rintro s (⟨c, hc, cb', hphase'⟩ | ⟨hst, hs⟩)
    · exact .inr (.inl ⟨c, (mem_endCall hc).1, cb', hphase'⟩)
    · rcases hshared hs with hid | hs
      · exact .inl hid
      · exact .inr (.inr ⟨hst, hs⟩)
  have hpayable' : ∀ s ∈ v.intents.rows,
      payable { (v.endCall call).share r.id with payments := payments } s → v.payable s := by
    intro s hs hp
    rcases hpayable s hp with hid | hp
    · rw [Table.key_inj hs hr hid]
      exact .inl hstored
    · exact hp
  constructor
  case sharedExist =>
    intro i hi
    rcases hshared hi with rfl | hi
    · exact ⟨r, Table.find?_of_mem hr⟩
    · exact hinv.sharedExist i hi
  case named =>
    intro p hp i hi
    have hfind : payments.find? p.bookingId = some p := Table.find?_of_mem hp
    by_cases hb : p.bookingId = r.bookingId
    · obtain ⟨q, hq, hqi⟩ := hnew
      rw [hb, hq] at hfind
      cases hfind
      rw [hqi] at hi
      cases hi
      exact List.mem_cons_self
    · rw [hold p.bookingId hb] at hfind
      exact List.mem_cons_of_mem _ (hinv.named p (Table.mem_of_find? hfind) i hi)
  case retrieving =>
    intro c hc cb' i hphase'
    exact List.mem_cons_of_mem _ (hinv.retrieving c (mem_endCall hc).1 cb' i hphase')
  case storing =>
    intro c hc cb' i hphase'
    obtain ⟨hc, hne⟩ := mem_endCall hc
    obtain ⟨hnot, hexists⟩ := hinv.storing c hc cb' i hphase'
    refine ⟨fun hi => ?_, hexists⟩
    rcases hshared hi with rfl | hi
    · exact hne (congrArg CheckoutCall.id (hinv.storesOnce c hc call hcall cb' cb r.id hphase' hphase))
    · exact hnot hi
  case storesOnce =>
    intro c hc c' hc' cb' cb'' i hphase' hphase''
    exact hinv.storesOnce c (mem_endCall hc).1 c' (mem_endCall hc').1 cb' cb'' i hphase' hphase''
  case unshared =>
    intro s hs hflow' hnot
    exact hinv.unshared s hs hflow' fun h => hnot (List.mem_cons_of_mem _ h)
  case alone =>
    intro s hs s' hs' hf hf' hb hp hp'
    exact hinv.alone s hs s' hs' hf hf' hb (hpayable' s hs hp) (hpayable' s' hs' hp')
  case placed =>
    intro s hs hf hst hsh
    have hp := hpayable' s hs (.inr ⟨hst, hsh⟩)
    by_cases hb : s.bookingId = r.bookingId
    · rw [hinv.alone s hs r hr hf hflow hb hp (.inl hstored)]
      exact hnew
    · rcases hshared hsh with hid | hsh
      · rw [Table.key_inj hs hr hid] at hb
        exact absurd rfl hb
      · obtain ⟨p, hp, hi⟩ := hinv.placed s hs hf hst hsh
        exact ⟨p, (hold s.bookingId hb).trans hp, hi⟩

end Checkouts

/-! ## One step -/

/-- A checkout creates an intent only for a booking without a payable one. -/
def CreatesAlone (w : World) (l : Label) : Prop :=
  ∀ call c cb delivered, l = .checkout call (.created delivered) → w.checkouts.find? call = some c →
    c.phase = .creating cb → ∀ r ∈ w.stripe.intents.rows, r.bookingId = c.bookingId → ¬ w.view.payable r

structure World.CheckoutInv (w : World) : Prop where
  agree : w.FlowsAgree
  view : w.view.Inv

theorem Checkouts.Inv.start {db : Db} (h : db.payments.rows = []) : (World.start db).view.Inv := by
  constructor
  case named =>
    intro p hp
    have hp' : p ∈ db.payments.rows := hp
    rw [h] at hp'
    cases hp'
  all_goals exact fun _ h => absurd h List.not_mem_nil

/-- The new intent of a checkout is not stored by another call. -/
theorem Checkouts.Inv.not_stores_freshKey {v : Checkouts} (hinv : v.Inv) :
    ¬ v.stores v.intents.freshKey := by
  rintro ⟨c, hc, cb, hphase⟩
  obtain ⟨-, r, hr⟩ := hinv.storing c hc cb _ hphase
  exact Table.ne_freshKey_of_find? hr rfl

theorem Checkouts.Inv.not_shared_freshKey {v : Checkouts} (hinv : v.Inv) :
    v.intents.freshKey ∉ v.sharedSecrets := by
  intro hshared
  obtain ⟨r, hr⟩ := hinv.sharedExist _ hshared
  exact Table.ne_freshKey_of_find? hr rfl

theorem World.CheckoutInv.created {w : World} (hinv : w.CheckoutInv) {call : CheckoutCall}
    {cb : CheckoutBooking} (hcall : w.checkouts.find? call.id = some call)
    (hphase : call.phase = .creating cb)
    (hnone : ∀ r ∈ w.stripe.intents.rows, r.bookingId = call.bookingId → ¬ w.view.payable r) :
    ((w.view.create (World.destinationChargeParams cb) none .requiresPaymentMethod).setPhase call
      (.upserting cb w.view.intents.freshKey)).Inv := by
  have hb : cb.bookingId = call.bookingId :=
    (hinv.agree.linked.calls call (Table.mem_of_find? hcall)).booking cb (by rw [hphase]; rfl)
  have hcreated := hinv.view.create (World.destinationChargeParams cb) none .requiresPaymentMethod
    fun _ => rfl
  have hnew : (w.view.create (World.destinationChargeParams cb) none .requiresPaymentMethod).intents.find?
      w.view.intents.freshKey = some (.requested (World.destinationChargeParams cb) none
        .requiresPaymentMethod w.view.intents.freshKey) :=
    (Table.find?_insertNew _ _ (fun _ => rfl) _).trans (if_pos rfl)
  refine hcreated.hold hcall hnew hinv.view.not_shared_freshKey hinv.view.not_stores_freshKey ?_
  intro s hs hsb hp
  rcases PaymentIntents.mem_create hs with hold | ⟨hid, -⟩
  · exact hnone s hold (hsb.trans hb) hp
  · rcases hp with hstores | ⟨-, hshared⟩
    · rw [hid] at hstores
      exact hinv.view.not_stores_freshKey hstores
    · rw [hid] at hshared
      exact hinv.view.not_shared_freshKey hshared

theorem World.CheckoutInv.upserted {w : World} (hinv : w.CheckoutInv) {call : CheckoutCall}
    {cb : CheckoutBooking} {i : PaymentIntentId} {db : Db}
    (hcall : w.checkouts.find? call.id = some call) (hphase : call.phase = .upserting cb i)
    (hupsert : upsertPayment call.bookingId i cb.guestTotalMinor cb.currency w.db = .ok ((), db)) :
    Checkouts.Inv { (w.view.endCall call).share i with payments := db.payments } := by
  have hmem := Table.mem_of_find? hcall
  obtain ⟨r, hr, hb, hflow⟩ :=
    (hinv.agree.linked.calls call hmem).intent i (by rw [hphase]; rfl)
  obtain rfl : r.id = i := Table.key_of_find? hr
  obtain ⟨row, -, hi, -, -, hfind, -⟩ := upsertPayment_eq_ok hupsert
  rw [← hb] at hfind
  refine hinv.view.upsert db.payments hmem hphase (Table.mem_of_find? hr) hflow ⟨row, ?_, hi⟩ ?_
  · rw [hfind, if_pos rfl]
  · intro b hne
    rw [hfind, if_neg hne]
    rfl

theorem World.CheckoutInv.step {w : World} (hinv : w.CheckoutInv) {l : Label}
    (hguard : CreatesAlone w l) : (w.step l).CheckoutInv := by
  refine ⟨hinv.agree.step l, ?_⟩
  cases w.checkoutStep l with
  | frame h =>
    rw [h]
    exact hinv.view
  | started b hflow h =>
    rw [h]
    refine hinv.view.calls _ ?_ ?_
    · intro c hc cb i hphase
      rcases List.mem_append.mp hc with hold | hnew
      · exact hold
      · rw [List.mem_singleton.mp hnew] at hphase
        cases hphase
    · intro c hc cb i hphase
      rcases List.mem_append.mp hc with hold | hnew
      · exact hinv.view.retrieving c hold cb i hphase
      · rw [List.mem_singleton.mp hnew] at hphase
        cases hphase
  | ended call h =>
    rw [h]
    exact hinv.view.endCall call
  | read call phase hcall hread h =>
    rw [h]
    refine hinv.view.calls _ ?_ ?_
    · intro c hc cb i hphase
      rcases Checkouts.mem_setPhase hcall hc with hold | rfl
      · exact hold
      · cases hread <;> cases hphase
    · intro c hc cb i hphase
      rcases Checkouts.mem_setPhase hcall hc with hold | rfl
      · exact hinv.view.retrieving c hold cb i hphase
      · -- The call retrieves the intent that the payments row names.
        cases hread with
        | booking => cases hphase
        | unnamed => cases hphase
        | replaced => cases hphase
        | named cb' j hreading hread =>
          cases hphase
          unfold existingPaymentIntent at hread
          split at hread
          · cases hread
          · rename_i p hp
            split at hread
            · cases hread
            · injection hread with hi
              exact hinv.view.named p (Table.mem_of_find? hp) i hi
  | reused call cb i hcall hphase h =>
    rw [h]
    exact (hinv.view.endCall call).shareAgain
      (hinv.view.retrieving call (Table.mem_of_find? hcall) cb i hphase)
  | created call cb hlabel hcall hphase hpos h =>
    rw [h]
    obtain ⟨delivered, rfl⟩ := hlabel
    exact hinv.created hcall hphase (hguard call.id call cb delivered rfl hcall hphase)
  | createdLost call cb hcall hphase h =>
    rw [h]
    exact (hinv.view.endCall call).create _ _ _ fun _ => rfl
  | upserted call cb i db hcall hphase hupsert h =>
    rw [h]
    exact hinv.upserted hcall hphase hupsert
  | moved i status hfind hmove h =>
    rw [h]
    exact hinv.view.move hfind hmove
  | charged call claim status hcall hphase hnew h =>
    rw [h]
    refine hinv.view.create _ _ _ fun hflow => ?_
    cases hflow
  | paid i hfind hsucceeded hflow hstatus h =>
    rw [h]
    exact hinv.view.settle _ _ (by intro r; rfl) fun _ => rfl
  | failed intent h =>
    rw [h]
    exact hinv.view.settle _ _ (by intro r; rfl) fun _ => rfl
  | refunded b fullyRefunded hstatus h =>
    rw [h]
    exact hinv.view.settle _ _ (by intro r; rfl) fun _ => rfl

/-! ## What follows for payments -/

/-- A succeeded legacy intent is shared, and so it is payable. -/
theorem World.CheckoutInv.shared_of_succeeded {w : World} (hinv : w.CheckoutInv) {b : BookingId}
    (hb : w.db.flowOf b = some .destinationChargeLegacy) {i : PaymentIntentId}
    (hi : w.succeeded b i) :
    ∃ r ∈ w.view.intents.rows, r.id = i ∧ r.bookingId = b ∧ r.flow = .destinationChargeLegacy ∧
      r.status ≠ .canceled ∧ i ∈ w.view.sharedSecrets := by
  obtain ⟨r, hr, hrb, hst⟩ := World.succeeded_iff.mp hi
  have hmem := Table.mem_of_find? hr
  have hflow : r.flow = .destinationChargeLegacy := by
    have hagree := hinv.agree.intents r hmem
    rw [hrb, hb] at hagree
    exact (Option.some.inj hagree).symm
  have hid : r.id = i := Table.key_of_find? hr
  refine ⟨r, hmem, hid, hrb, hflow, by rw [hst]; decide, ?_⟩
  by_contra hnot
  rw [← hid] at hnot
  rcases hinv.view.unshared r hmem hflow hnot with h | h
  · rw [hst] at h
    cases h
  · rw [hst] at h
    cases h

theorem World.CheckoutInv.succeeded_unique {w : World} (hinv : w.CheckoutInv) {b : BookingId}
    (hb : w.db.flowOf b = some .destinationChargeLegacy) {i j : PaymentIntentId}
    (hi : w.succeeded b i) (hj : w.succeeded b j) : i = j := by
  obtain ⟨r, hr, rfl, hrb, hflow, hst, hshared⟩ := hinv.shared_of_succeeded hb hi
  obtain ⟨s, hs, rfl, hsb, hflow', hst', hshared'⟩ := hinv.shared_of_succeeded hb hj
  rw [hinv.view.alone r hr s hs hflow hflow' (hrb.trans hsb.symm) (.inr ⟨hst, hshared⟩)
    (.inr ⟨hst', hshared'⟩)]

theorem World.CheckoutInv.named_of_succeeded {w : World} (hinv : w.CheckoutInv) {b : BookingId}
    (hb : w.db.flowOf b = some .destinationChargeLegacy) {i : PaymentIntentId}
    (hi : w.succeeded b i) :
    ∃ p, w.db.payments.find? b = some p ∧ p.providerPaymentIntentId = some i := by
  obtain ⟨r, hr, rfl, rfl, hflow, hst, hshared⟩ := hinv.shared_of_succeeded hb hi
  exact hinv.view.placed r hr hflow hst hshared

/-- No checkout is about to name an intent for a booking that has been paid. -/
theorem World.CheckoutInv.not_upserting {w : World} (hinv : w.CheckoutInv) {b : BookingId}
    (hb : w.db.flowOf b = some .destinationChargeLegacy) {i : PaymentIntentId}
    (hi : w.succeeded b i) {call : CheckoutCall} (hcall : call ∈ w.checkouts.rows)
    {cb : CheckoutBooking} {j : PaymentIntentId} (hphase : call.phase = .upserting cb j) :
    call.bookingId ≠ b := by
  rintro rfl
  obtain ⟨r, hr, rfl, hrb, hflow, hst, hshared⟩ := hinv.shared_of_succeeded hb hi
  obtain ⟨s, hs, hsb, hflow'⟩ :=
    (hinv.agree.linked.calls call hcall).intent j (by rw [hphase]; rfl)
  obtain rfl : s.id = j := Table.key_of_find? hs
  have hsame := hinv.view.alone r hr s (Table.mem_of_find? hs) hflow hflow' (hrb.trans hsb.symm)
    (.inr ⟨hst, hshared⟩) (.inl ⟨call, hcall, cb, hphase⟩)
  rw [hsame] at hshared
  exact (hinv.view.storing call hcall cb s.id hphase).1 hshared

/-- The booking's payments row is `paid`. -/
def World.paid (w : World) (b : BookingId) : Bool :=
  (w.db.payments.find? b).any fun p => decide (p.status = .paid)

/-- The payments row of `b` was `paid` in some state of the run. -/
def EverPaid (w : World) (ls : List Label) (b : BookingId) : Prop :=
  Once World.step (fun w b => w.paid b) w ls b

/-- A row becomes `paid` only for an intent of the booking that succeeded. -/
theorem World.Linked.paid_step {w : World} (hinv : w.Linked) {l : Label} {b : BookingId}
    (hpaid : (w.step l).paid b) : w.paid b ∨ ∃ i, w.succeeded b i := by
  unfold World.paid at hpaid
  obtain ⟨p, hp, hst⟩ := Option.any_eq_true _ _ |>.mp hpaid
  have hst' : p.status = .paid := by simpa using hst
  have hview : (w.step l).view.payments.find? b = some p := hp
  have hold : w.view.payments.find? b = some p → w.paid b ∨ ∃ i, w.succeeded b i := fun h =>
    .inl ((Option.any_eq_true _ _).mpr ⟨p, h, hst⟩)
  cases w.checkoutStep l with
  | frame h => rw [h] at hview; exact hold hview
  | started b hflow h => rw [h] at hview; exact hold hview
  | ended call h => rw [h] at hview; exact hold hview
  | read call phase hcall hread h => rw [h] at hview; exact hold hview
  | reused call cb i hcall hphase h => rw [h] at hview; exact hold hview
  | created call cb hlabel hcall hphase hpos h => rw [h] at hview; exact hold hview
  | createdLost call cb hcall hphase h => rw [h] at hview; exact hold hview
  | upserted call cb i db hcall hphase hupsert h =>
    rw [h] at hview
    rcases mem_upsertPayment hupsert (Table.mem_of_find? hview) with ⟨hmem, -⟩ | ⟨-, -, hpending, -⟩
    · exact hold (Table.find?_eq_some_iff.mpr ⟨hmem, Table.key_of_find? hview⟩)
    · rw [hst'] at hpending
      cases hpending
  | moved i status hfind hmove h => rw [h] at hview; exact hold hview
  | charged call claim status hcall hphase hnew h => rw [h] at hview; exact hold hview
  | paid i hfind hsucceeded hflow hstatus h =>
    rw [h] at hview
    have hrow := (Table.find?_updateWhere _ _ _ (by intro r; rfl) _).symm.trans hview
    obtain ⟨q, hq, hqp⟩ := Option.map_eq_some_iff.mp hrow
    split at hqp
    · rename_i hnamed
      -- The row names the succeeded intent, which is an intent of its booking.
      right
      refine ⟨i.id, World.succeeded_iff.mpr ⟨i, hfind, ?_, hsucceeded⟩⟩
      obtain ⟨r, hr, hrb, -⟩ := (hinv.payments q (Table.mem_of_find? hq)).intent i.id
        (by simpa using hnamed)
      have hri : w.stripe.intents.find? i.id = some r := hr
      rw [hfind] at hri
      cases hri
      rw [hrb]
      exact Table.key_of_find? hq
    · rw [hqp] at hq
      exact hold hq
  | failed intent h =>
    rw [h] at hview
    have hrow := (Table.find?_updateWhere _ _ _ (by intro r; rfl) _).symm.trans hview
    obtain ⟨q, hq, hqp⟩ := Option.map_eq_some_iff.mp hrow
    split at hqp
    · rw [← hqp] at hst'
      cases hst'
    · rw [hqp] at hq
      exact hold hq
  | refunded c fullyRefunded hstatus h =>
    rw [h] at hview
    have hrow := (Table.find?_updateWhere _ _ _ (by intro r; rfl) _).symm.trans hview
    obtain ⟨q, hq, hqp⟩ := Option.map_eq_some_iff.mp hrow
    split at hqp
    · rw [← hqp] at hst'
      cases fullyRefunded <;> cases hst'
    · rw [hqp] at hq
      exact hold hq

/-- A checkout call that stores nothing leaves the payments alone. -/
theorem World.stepCheckout_payments (w : World) (call : CheckoutCall) (answer : CreateAnswer)
    {b : BookingId} (hb : ∀ cb i, call.phase = .upserting cb i → call.bookingId ≠ b) :
    (w.stepCheckout call answer).db.payments.find? b = w.db.payments.find? b := by
  unfold stepCheckout
  split
  · split <;> rfl
  · split <;> rfl
  · split
    · rfl
    · split <;> rfl
  · split
    · rfl
    · split
      · rfl
      · simp only
        split <;> rfl
  · rename_i cb i hphase
    split
    · rename_i hupsert
      obtain ⟨row, -, -, -, -, hfind, -⟩ := upsertPayment_eq_ok hupsert
      refine (hfind b).trans ?_
      rw [if_neg (Ne.symm (hb cb i hphase))]
    · rfl

/-! ## Whole runs -/

/-- What the checkout is to guarantee for booking `b` along the run. -/
structure PaidOnce (w : World) (ls : List Label) (b : BookingId) : Prop where
  unique : ∀ i j, EverSucceeded w ls b i → EverSucceeded w ls b j → i = j
  named : ∀ pre now i suf, ls = pre ++ .paymentSucceeded now i :: suf →
    (run World.step w pre).succeeded b i →
    ∃ p, (run World.step w pre).db.payments.find? b = some p ∧ p.providerPaymentIntentId = some i
  keepsPaid : ∀ pre call answer suf, ls = pre ++ .checkout call answer :: suf → EverPaid w pre b →
    (run World.step w (pre ++ [.checkout call answer])).db.payments.find? b =
      (run World.step w pre).db.payments.find? b

theorem flowOf_run {w : World} {b : BookingId} {flow : PaymentFlowVersion}
    (h : w.db.flowOf b = some flow) (ls : List Label) : (run World.step w ls).db.flowOf b = some flow :=
  run_invariant' (I := fun w : World => w.db.flowOf b = some flow)
    (fun w l h => (w.grows_step l).flow b flow h) h ls

theorem checkoutInv_run {db : Db} (hpayments : db.payments.rows = []) {ls : List Label}
    (hguard : Guarded World.step CreatesAlone (World.start db) ls) :
    (run World.step (World.start db) ls).CheckoutInv :=
  run_invariant (I := World.CheckoutInv) (fun _ _ hinv hguard => hinv.step hguard)
    ⟨.start hpayments, .start hpayments⟩ hguard

/-- A booking whose payments row has ever been `paid` has a succeeded intent. -/
theorem succeeded_of_everPaid {db : Db} (hpayments : db.payments.rows = []) {ls : List Label}
    {b : BookingId} (h : EverPaid (World.start db) ls b) :
    ∃ i, (run World.step (World.start db) ls).succeeded b i := by
  obtain ⟨pre, suf, rfl, hpaid⟩ := h
  have hstep : ∀ (w : World) (l : Label), w.Linked ∧ (w.paid b → ∃ i, w.succeeded b i) →
      (w.step l).Linked ∧ ((w.step l).paid b → ∃ i, (w.step l).succeeded b i) := by
    intro w l ⟨hlinked, hsucceeded⟩
    refine ⟨hlinked.step l, fun hnow => ?_⟩
    obtain ⟨i, hi⟩ : ∃ i, w.succeeded b i := (hlinked.paid_step hnow).elim hsucceeded id
    exact ⟨i, World.succeeded_step hi l⟩
  have hstart : ¬ (World.start db).paid b := by
    intro hnow
    unfold World.paid Table.find? at hnow
    rw [show (World.start db).db.payments.rows = [] from hpayments] at hnow
    cases hnow
  have hinv := run_invariant' (I := fun w : World => w.Linked ∧ (w.paid b → ∃ i, w.succeeded b i))
    hstep ⟨.start hpayments, fun hnow => absurd hnow hstart⟩ pre
  obtain ⟨i, hi⟩ := hinv.2 hpaid
  exact ⟨i, EverSucceeded.last ⟨pre, suf, rfl, hi⟩⟩

/-- A succeeded intent has the flow of its booking, at that point and from then on. -/
theorem flowOf_of_succeeded {w : World} (hinv : w.FlowsAgree) {b : BookingId} {i : PaymentIntentId}
    (hi : w.succeeded b i) (suf : List Label) {flow : PaymentFlowVersion}
    (hlast : (run World.step w suf).db.flowOf b = some flow) : w.db.flowOf b = some flow := by
  obtain ⟨r, hr, rfl, -⟩ := World.succeeded_iff.mp hi
  have hagree := hinv.intents r (Table.mem_of_find? hr)
  have hlater := flowOf_run hagree suf
  rw [hlast] at hlater
  rw [hagree, ← hlater]

/-- From a database without payments, a run whose checkouts create an intent only
for bookings without a payable one lets no legacy booking be paid twice. -/
theorem paidOnce_run {db : Db} (hpayments : db.payments.rows = []) {ls : List Label}
    (hguard : Guarded World.step CreatesAlone (World.start db) ls) {b : BookingId}
    (hb : (run World.step (World.start db) ls).db.flowOf b = some .destinationChargeLegacy) :
    PaidOnce (World.start db) ls b := by
  have hpre : ∀ pre suf, ls = pre ++ suf →
      (run World.step (World.start db) pre).CheckoutInv := by
    rintro pre suf rfl
    exact checkoutInv_run hpayments (guarded_append.mp hguard).1
  have hflow : ∀ pre suf, ls = pre ++ suf → ∀ i, (run World.step (World.start db) pre).succeeded b i →
      (run World.step (World.start db) pre).db.flowOf b = some .destinationChargeLegacy := by
    intro pre suf hls i hi
    refine flowOf_of_succeeded (hpre pre suf hls).agree hi suf ?_
    rw [← run_append, ← hls]
    exact hb
  constructor
  · intro i j hi hj
    exact (hpre ls [] (by simp)).succeeded_unique hb hi.last hj.last
  · intro pre now i suf hls hi
    exact (hpre pre _ hls).named_of_succeeded (hflow pre _ hls i hi) hi
  · intro pre call answer suf hls hpaid
    obtain ⟨i, hi⟩ := succeeded_of_everPaid hpayments hpaid
    rw [run_concat]
    simp only [World.step]
    split
    · rename_i c hc
      refine World.stepCheckout_payments _ c answer fun cb j hphase => ?_
      exact (hpre pre _ hls).not_upserting (hflow pre _ hls i hi) hi (Table.mem_of_find? hc) hphase
    · rfl

/-- One checkout, paid and announced. -/
def checkedOutOnce : List Label :=
  [ .transaction (.createBooking 0 false (sampleRequest "a")),
    .startCheckout 1,
    .checkout 1 .refused,
    .checkout 1 .refused,
    .checkout 1 (.created true),
    .checkout 1 .refused,
    .moveIntent 1 .succeeded,
    .paymentSucceeded 0 1 ]

theorem checkedOutOnce_paidOnce : PaidOnce (World.start sampleDb) checkedOutOnce 1 := by
  refine paidOnce_run rfl ?_ (by decide)
  have hother : ∀ {w : World} {l : Label}, (∀ call delivered, l ≠ .checkout call (.created delivered)) →
      CreatesAlone w l := fun hl call _ _ delivered h => absurd h (hl call delivered)
  refine ⟨hother nofun, hother nofun, hother nofun, hother nofun, ?_, hother nofun, hother nofun,
    hother nofun, trivial⟩
  intro call c cb delivered h hc hphase r hr
  have hnone : (run World.step (World.start sampleDb) (checkedOutOnce.take 4)).stripe.intents.rows = [] := by
    decide
  have hr' : r ∈ (run World.step (World.start sampleDb) (checkedOutOnce.take 4)).stripe.intents.rows := hr
  rw [hnone] at hr'
  cases hr'

/-- Two browser tabs check out together, and the guest confirms both intents. -/
def checkedOutTwice : List Label :=
  [ .transaction (.createBooking 0 false (sampleRequest "a")),
    .startCheckout 1,
    .startCheckout 1,
    .checkout 1 .refused,
    .checkout 1 .refused,
    .checkout 2 .refused,
    .checkout 2 .refused,
    .checkout 1 (.created true),
    .checkout 1 .refused,
    .checkout 2 (.created true),
    .checkout 2 .refused,
    .moveIntent 1 .succeeded,
    .moveIntent 2 .succeeded ]

theorem checkedOutTwice_paidTwice : ¬ PaidOnce (World.start sampleDb) checkedOutTwice 1 := by
  intro h
  have hsame : (1 : PaymentIntentId) = 2 := h.unique 1 2 ⟨checkedOutTwice, [], rfl, by decide⟩
    ⟨checkedOutTwice, [], rfl, by decide⟩
  cases hsame

end HostPlatform
