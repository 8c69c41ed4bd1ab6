-- SUMMARY: Every PaymentIntent is of its booking's payment flow, and one that succeeded stays so, in any reachable state.
import HostPlatform.ChargeSteps
import HostPlatform.PaymentLinks

namespace HostPlatform

open Lib (Table)
open Lib.Transition

/-! ## Flows -/

/-- Off-session charges are requested for delayed-flow bookings only, and every
intent has the flow of its booking. -/
structure World.FlowsAgree (w : World) : Prop where
  linked : w.Linked
  calling : ∀ c ∈ w.charges.rows, ∀ claim, c.phase = .calling claim →
    w.db.flowOf c.bookingId = some .separateChargesDelayedV1
  intents : ∀ r ∈ w.stripe.intents.rows, w.db.flowOf r.bookingId = some r.flow

theorem World.FlowsAgree.start {db : Db} (h : db.payments.rows = []) : (World.start db).FlowsAgree where
  linked := .start h
  calling _ hc := absurd hc List.not_mem_nil
  intents _ hr := absurd hr List.not_mem_nil

theorem Charges.mem_setPhase {v : Charges} {call c : ChargeCall} {phase : ChargePhase}
    (hcall : v.calls.find? call.id = some call) (h : c ∈ (v.setPhase call phase).calls.rows) :
    (c ∈ v.calls.rows ∧ c.id ≠ call.id) ∨ c = { call with phase := phase } :=
  Table.mem_modify_of_find? (by intro r; rfl) hcall h

theorem Charges.mem_endCall {v : Charges} {call c : ChargeCall}
    (h : c ∈ (v.endCall call).calls.rows) : c ∈ v.calls.rows :=
  (List.mem_filter.mp h).1

/-- A call under way was there before, up to its phase, or has just started. -/
theorem World.charge_origin (w : World) (l : Label) {c : ChargeCall}
    (hc : c ∈ (w.step l).charges.rows) :
    (∃ c₀ ∈ w.charges.rows, c = { c₀ with phase := c.phase }) ∨
      ∃ pc, Starts w l c.bookingId pc ∧ c.amountMinor = pc.guestTotalMinor ∧
        c.currency = pc.currency := by
  have hview : c ∈ (w.step l).chargeView.calls.rows := hc
  have hold : c ∈ w.charges.rows → ∃ c₀ ∈ w.charges.rows, c = { c₀ with phase := c.phase } :=
    fun h => ⟨c, h, rfl⟩
  have hphase : ∀ {call : ChargeCall} {phase : ChargePhase}, w.charges.find? call.id = some call →
      c ∈ (w.chargeView.setPhase call phase).calls.rows →
      ∃ c₀ ∈ w.charges.rows, c = { c₀ with phase := c.phase } := by
    intro call phase hcall h
    rcases Charges.mem_setPhase hcall h with ⟨hmem, -⟩ | rfl
    · exact hold hmem
    · exact ⟨call, Table.mem_of_find? hcall, rfl⟩
  cases w.chargeStep l with
  | frame h =>
    rw [h] at hview
    exact .inl (hold hview)
  | started b pc hstarts h =>
    rw [h] at hview
    rcases List.mem_append.mp hview with hmem | hnew
    · exact .inl (hold hmem)
    · rw [List.mem_singleton.mp hnew]
      exact .inr ⟨pc, hstarts, rfl, rfl⟩
  | ended call h =>
    rw [h] at hview
    exact .inl (hold (Charges.mem_endCall hview))
  | decided now call claim hdecides hcall hdecision h =>
    rw [h] at hview
    exact .inl (hphase hcall hview)
  | answered call claim status details hcall hcalling h =>
    rw [h] at hview
    exact .inl (hphase hcall hview)
  | charged call claim intentStatus status details hcall hcalling hkey h =>
    rw [h] at hview
    exact .inl (hphase hcall hview)
  | recorded now call claim status details hcall hrecording h =>
    rw [h] at hview
    exact .inl (hold (Charges.mem_endCall hview))
  | marked attemptId i h =>
    rw [h] at hview
    exact .inl (hold hview)
  | checkout params hflow h =>
    rw [h] at hview
    exact .inl (hold hview)
  | moved i status hfind hmove h =>
    rw [h] at hview
    exact .inl (hold hview)

/-- A call that is being charged was before, or was just decided. -/
theorem World.calling_step (w : World) (l : Label) {c : ChargeCall} {claim : ChargeClaim}
    (hc : c ∈ (w.step l).charges.rows) (hphase : c.phase = .calling claim) :
    c ∈ w.charges.rows ∨ ∃ now call, w.charges.find? call.id = some call ∧ Decides w l now call ∧
      (w.decision now call).1 = .charge claim ∧ c = { call with phase := .calling claim } := by
  have hview : c ∈ (w.step l).chargeView.calls.rows := hc
  cases w.chargeStep l with
  | frame h =>
    rw [h] at hview
    exact .inl hview
  | started b pc hstarts h =>
    rw [h] at hview
    rcases List.mem_append.mp hview with hold | hnew
    · exact .inl hold
    · rw [List.mem_singleton.mp hnew] at hphase
      cases hphase
  | ended call h =>
    rw [h] at hview
    exact .inl (Charges.mem_endCall hview)
  | decided now call claim' hdecides hcall hdecision h =>
    rw [h] at hview
    rcases Charges.mem_setPhase hcall hview with ⟨hold, -⟩ | rfl
    · exact .inl hold
    · cases hphase
      exact .inr ⟨now, call, hcall, hdecides, hdecision, rfl⟩
  | answered call claim' status details hcall hcalling h =>
    rw [h] at hview
    rcases Charges.mem_setPhase hcall hview with ⟨hold, -⟩ | rfl
    · exact .inl hold
    · cases hphase
  | charged call claim' intentStatus status details hcall hcalling hkey h =>
    rw [h] at hview
    rcases Charges.mem_setPhase hcall hview with ⟨hold, -⟩ | rfl
    · exact .inl hold
    · cases hphase
  | recorded now call claim' status details hcall hrecording h =>
    rw [h] at hview
    exact .inl (Charges.mem_endCall hview)
  | marked attemptId i h =>
    rw [h] at hview
    exact .inl hview
  | checkout params hflow h =>
    rw [h] at hview
    exact .inl hview
  | moved i status hfind hmove h =>
    rw [h] at hview
    exact .inl hview

/-- An intent was there before, up to its status, or is a new legacy or off-session one. -/
inductive IntentOrigin (w : World) (r : PaymentIntent) : Prop
  | old (s : PaymentIntent) (hs : s ∈ w.stripe.intents.rows) (hid : r.id = s.id)
      (hparams : r.params = s.params) (hkey : r.idempotencyKey = s.idempotencyKey)
      (hstatus : r.status = s.status ∨
        Stripe.mayMove (w.stripe.sharedSecrets.contains s.id) s.status r.status)
  | checkout (call : CheckoutCall) (cb : CheckoutBooking)
      (hcall : w.checkouts.find? call.id = some call) (hphase : call.phase = .creating cb)
      (hid : r.id = w.stripe.intents.freshKey) (hparams : r.params = World.destinationChargeParams cb)
      (hkey : r.idempotencyKey = none) (hstatus : r.status = .requiresPaymentMethod)
  | charge (call : ChargeCall) (claim : ChargeClaim) (hcall : w.charges.find? call.id = some call)
      (hphase : call.phase = .calling claim)
      (hnew : w.stripe.intentByKey claim.idempotencyKey = none)
      (hid : r.id = w.stripe.intents.freshKey) (hparams : r.params = World.offSessionParams call claim)
      (hkey : r.idempotencyKey = some claim.idempotencyKey)

theorem World.intentOrigin (w : World) (l : Label) {r : PaymentIntent}
    (hr : r ∈ (w.step l).stripe.intents.rows) : IntentOrigin w r := by
  have hview : r ∈ (w.step l).view.intents.rows := hr
  have hold : r ∈ w.view.intents.rows → IntentOrigin w r := fun h =>
    .old r h rfl rfl rfl (.inl rfl)
  cases w.checkoutStep l with
  | frame h => rw [h] at hview; exact hold hview
  | started b hflow h => rw [h] at hview; exact hold hview
  | ended call h => rw [h] at hview; exact hold hview
  | read call phase hcall hread h => rw [h] at hview; exact hold hview
  | reused call cb i hcall hphase h => rw [h] at hview; exact hold hview
  | created call cb hlabel hcall hphase hpos h =>
    rw [h] at hview
    rcases PaymentIntents.mem_create hview with hmem | ⟨hid, hparams, hkey, hstatus⟩
    · exact hold hmem
    · exact .checkout call cb hcall hphase hid hparams hkey hstatus
  | createdLost call cb hcall hphase h =>
    rw [h] at hview
    rcases PaymentIntents.mem_create hview with hmem | ⟨hid, hparams, hkey, hstatus⟩
    · exact hold hmem
    · exact .checkout call cb hcall hphase hid hparams hkey hstatus
  | upserted call cb i db hcall hphase hupsert h => rw [h] at hview; exact hold hview
  | moved i status hfind hmove h =>
    rw [h] at hview
    obtain ⟨hmem, -⟩ | rfl := Table.mem_modify_of_find? (by intro r; rfl) hfind hview
    · exact hold hmem
    · exact .old i (Table.mem_of_find? hfind) rfl rfl rfl (.inr hmove)
  | charged call claim status hcall hphase hnew h =>
    rw [h] at hview
    rcases PaymentIntents.mem_create hview with hmem | ⟨hid, hparams, hkey, -⟩
    · exact hold hmem
    · exact .charge call claim hcall hphase hnew hid hparams hkey
  | paid i hfind hsucceeded hflow hstatus h => rw [h] at hview; exact hold hview
  | failed intent h => rw [h] at hview; exact hold hview
  | refunded b fullyRefunded hstatus h => rw [h] at hview; exact hold hview

theorem World.FlowsAgree.step {w : World} (hinv : w.FlowsAgree) (l : Label) :
    (w.step l).FlowsAgree := by
  have hflow := (w.grows_step l).flow
  refine ⟨hinv.linked.step l, ?_, ?_⟩
  · intro c hc claim hphase
    rcases w.calling_step l hc hphase with hold | ⟨now, call, -, -, hdecision, rfl⟩
    · exact hflow _ _ (hinv.calling c hold claim hphase)
    · obtain ⟨booking, hb, hdelayed, -⟩ := decideCharge_eq_charge hdecision
      apply hflow
      unfold Db.flowOf
      rw [show w.db.bookings.find? call.bookingId = some booking from hb, Option.map_some, hdelayed]
  · intro r hr
    apply hflow
    unfold PaymentIntent.bookingId PaymentIntent.flow
    cases w.intentOrigin l hr with
    | old s hs hid hparams hkey hstatus =>
      rw [hparams]
      exact hinv.intents s hs
    | checkout call cb hcall hphase hid hparams hkey hstatus =>
      have hlinked := hinv.linked.calls call (Table.mem_of_find? hcall)
      have hb := hlinked.booking cb (by rw [hphase]; rfl)
      rw [hparams]
      show w.db.flowOf cb.bookingId = _
      rw [hb]
      exact hlinked.flow
    | charge call claim hcall hphase hnew hid hparams hkey =>
      rw [hparams]
      exact hinv.calling call (Table.mem_of_find? hcall) claim hphase

/-! ## Success is final -/

/-- Intent `i` of booking `b` has succeeded. -/
def World.succeeded (w : World) (b : BookingId) (i : PaymentIntentId) : Bool :=
  (w.stripe.intents.find? i).any fun r => decide (r.bookingId = b ∧ r.status = .succeeded)

theorem World.succeeded_iff {w : World} {b : BookingId} {i : PaymentIntentId} :
    w.succeeded b i ↔
      ∃ r, w.stripe.intents.find? i = some r ∧ r.bookingId = b ∧ r.status = .succeeded := by
  unfold World.succeeded
  rw [Option.any_eq_true]
  simp only [decide_eq_true_eq]

/-- Intent `i` of booking `b` succeeded in some state of the run. -/
def EverSucceeded (w : World) (ls : List Label) (b : BookingId) (i : PaymentIntentId) : Prop :=
  Once World.step (fun w i => w.succeeded b i) w ls i

theorem World.succeeded_step {w : World} {b : BookingId} {i : PaymentIntentId}
    (h : w.succeeded b i) (l : Label) : (w.step l).succeeded b i := by
  obtain ⟨r, hr, hb, hst⟩ := World.succeeded_iff.mp h
  obtain ⟨r', hr', hstays⟩ := w.intentStays l hr
  refine World.succeeded_iff.mpr ⟨r', hr', ?_, ?_⟩
  · unfold PaymentIntent.bookingId at hb ⊢
    rw [hstays.params, hb]
  · rcases hstays.status with hsame | hmove
    · rw [hsame, hst]
    · rw [hst] at hmove
      cases hmove

theorem EverSucceeded.last {w : World} {ls : List Label} {b : BookingId} {i : PaymentIntentId}
    (h : EverSucceeded w ls b i) : (run World.step w ls).succeeded b i := by
  obtain ⟨pre, suf, rfl, hsucceeded⟩ := h
  rw [run_append]
  exact run_invariant' (I := fun w : World => w.succeeded b i) (fun w l h => World.succeeded_step h l) hsucceeded suf

/-! ## A charge

Several concrete runs begin with it. -/

/-- A guest books 40 days ahead, and the card is charged as soon as it is saved. -/
def chargedAtOnce : List Label :=
  [ .transaction (.createBooking (60 * msPerDay) true (sampleRequest "a")),
    .transaction (.saveSetupIntent 1 1 1),
    .transaction (.configureTaxTreatment 1 .platformRemits),
    .setupIntentSucceeded 1 1,
    .setupIntentContinue (60 * msPerDay) 1,
    .charge (60 * msPerDay) 1 (.processed .succeeded none true),
    .charge (60 * msPerDay) 1 (.processed .succeeded none true),
    .charge (60 * msPerDay) 1 (.processed .succeeded none true) ]

end HostPlatform
