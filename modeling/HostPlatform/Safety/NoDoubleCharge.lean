-- SUMMARY: When the card of a delayed-flow booking can be charged twice.
import HostPlatform.AttemptSlots

/-!
# Off-session charges

Each attempt of a booking has its own idempotency key, and Stripe answers a repeated
key with the same PaymentIntent. So a booking can be charged twice only under two
attempts, and a new attempt is safe as long as nothing can still come of the
earlier ones: the invariant is that only the latest key can succeed.
-/

namespace HostPlatform

open Lib (Table)
open Lib.Transition

/-! ## The invariant -/

/-- The intent can no longer succeed, unless a guest holds its client secret. -/
def IntentStatus.dead : IntentStatus → Bool
  | .requiresPaymentMethod | .canceled => true
  | _ => false

/-- The claim under which the call is about to send its request. -/
def ChargePhase.request? : ChargePhase → Option ChargeClaim
  | .calling claim => some claim
  | _ => none

/-- Nothing can come of the earlier charges of the booking any more: its intents
are dead, and every request under way would be answered with one of them. -/
structure NothingPending (w : World) (b : BookingId) : Prop where
  intents : ∀ r ∈ w.stripe.intents.rows, r.bookingId = b → r.status.dead
  requests : ∀ c ∈ w.charges.rows, c.bookingId = b → ∀ claim ∈ c.phase.request?,
    (w.stripe.intentByKey claim.idempotencyKey).isSome

/-- A new attempt is reserved only when nothing is pending under the earlier ones. -/
def ReservesAlone (w : World) (l : Label) : Prop :=
  ∀ c, Reserves w l c → NothingPending w c.bookingId

/-- Keys name their attempt, and only the latest key of a booking can succeed. -/
structure World.ChargeInv (w : World) : Prop where
  agree : w.FlowsAgree
  key : ∀ a ∈ w.db.paymentAttempts.rows, a.idempotencyKey = ⟨a.bookingId, a.attemptNumber⟩
  calling : ∀ c ∈ w.charges.rows, ∀ claim, c.phase = .calling claim →
    ∃ a ∈ w.db.paymentAttempts.rows, a.bookingId = c.bookingId ∧
      a.idempotencyKey = claim.idempotencyKey
  intents : ∀ r ∈ w.stripe.intents.rows, r.flow = .separateChargesDelayedV1 →
    ∃ a ∈ w.db.paymentAttempts.rows, a.bookingId = r.bookingId ∧
      r.idempotencyKey = some a.idempotencyKey
  keyOnce : ∀ r ∈ w.stripe.intents.rows, ∀ r' ∈ w.stripe.intents.rows, ∀ k,
    r.idempotencyKey = some k → r'.idempotencyKey = some k → r = r'
  current : ∀ r ∈ w.stripe.intents.rows, r.flow = .separateChargesDelayedV1 → ¬ r.status.dead →
    r.idempotencyKey = some ⟨r.bookingId, w.db.maxAttemptNumber r.bookingId⟩
  callingCurrent : ∀ c ∈ w.charges.rows, ∀ claim, c.phase = .calling claim →
    claim.idempotencyKey = ⟨c.bookingId, w.db.maxAttemptNumber c.bookingId⟩ ∨
      (w.stripe.intentByKey claim.idempotencyKey).isSome

theorem World.ChargeInv.start {db : Db} (hpayments : db.payments.rows = [])
    (hattempts : db.paymentAttempts.rows = []) : (World.start db).ChargeInv := by
  constructor
  case agree => exact .start hpayments
  case key =>
    intro a ha
    have ha' : a ∈ db.paymentAttempts.rows := ha
    rw [hattempts] at ha'
    cases ha'
  all_goals exact fun _ h => absurd h List.not_mem_nil

theorem intentByKey_isSome_iff {s : Stripe} {k : AttemptKey} :
    (s.intentByKey k).isSome ↔ ∃ r ∈ s.intents.rows, r.idempotencyKey = some k := by
  unfold Stripe.intentByKey
  rw [List.find?_isSome]
  simp

theorem intentByKey_step {w : World} (l : Label) {k : AttemptKey}
    (h : (w.stripe.intentByKey k).isSome) : ((w.step l).stripe.intentByKey k).isSome := by
  obtain ⟨r, hr, hk⟩ := intentByKey_isSome_iff.mp h
  obtain ⟨r', hr', hstays⟩ := w.intentStays l (Table.find?_of_mem hr)
  exact intentByKey_isSome_iff.mpr ⟨r', Table.mem_of_find? hr', by rw [hstays.key, hk]⟩

/-- A dead off-session intent stays dead: no guest holds its secret. -/
theorem World.FlowsAgree.dead_step {w : World} (hinv : w.FlowsAgree) {s r : PaymentIntent}
    (hs : s ∈ w.stripe.intents.rows) (hflow : s.flow = .separateChargesDelayedV1)
    (hstatus : r.status = s.status ∨
      Stripe.mayMove (w.stripe.sharedSecrets.contains s.id) s.status r.status)
    (hdead : s.status.dead) : r.status.dead := by
  rcases hstatus with hsame | hmove
  · rw [hsame]
    exact hdead
  · have hunshared : w.stripe.sharedSecrets.contains s.id = false := by
      by_contra hshared
      obtain ⟨b, r', hr', -, hflow'⟩ := hinv.linked.shared s.id (by simpa [World.view] using hshared)
      have hs' : w.stripe.intents.find? s.id = some s := Table.find?_of_mem hs
      rw [show w.stripe.intents.find? s.id = some r' from hr'] at hs'
      cases hs'
      rw [hflow] at hflow'
      cases hflow'
    rw [hunshared] at hmove
    generalize s.status = st, r.status = st' at hdead hmove
    cases st <;> cases st' <;> simp_all [IntentStatus.dead, Stripe.mayMove]

/-! ## One step -/

section

variable {w : World} {l : Label}

theorem World.ChargeInv.key_step (hinv : w.ChargeInv) :
    ∀ a ∈ (w.step l).db.paymentAttempts.rows, a.idempotencyKey = ⟨a.bookingId, a.attemptNumber⟩ := by
  intro a ha
  by_cases h : ∃ c, Reserves w l c
  · obtain ⟨c, hc⟩ := h
    obtain ⟨row, hb, hnumber, hkey, -, hrows⟩ := hc.attempts
    rw [hrows] at ha
    rcases List.mem_append.mp ha with hold | hnew
    · exact hinv.key a hold
    · rw [List.mem_singleton.mp hnew, hkey, hb, hnumber]
  · obtain ⟨a₀, ha₀, hslot⟩ := (attempts_rowwise fun c hc => h ⟨c, hc⟩).to_find? (Table.find?_of_mem ha)
    rw [hslot.idempotencyKey, hslot.bookingId, hslot.attemptNumber]
    exact hinv.key a₀ (Table.mem_of_find? ha₀)

/-- The attempt a decision claims, in the state after it. -/
theorem World.ChargeInv.claimed (hinv : w.ChargeInv) {now : Int} {c : ChargeCall} {claim : ChargeClaim}
    (hdecides : Decides w l now c) (hclaim : (w.decision now c).1 = .charge claim) :
    (∃ a ∈ (w.step l).db.paymentAttempts.rows, a.bookingId = c.bookingId ∧
        a.idempotencyKey = claim.idempotencyKey) ∧
      claim.idempotencyKey = ⟨c.bookingId, (w.step l).db.maxAttemptNumber c.bookingId⟩ := by
  obtain ⟨-, -, -, ⟨latest, hlatest, hreusable, -, hkey, -⟩ | ⟨hnone, -, hkey, -⟩⟩ :=
    decideCharge_eq_charge hclaim
  · obtain ⟨hmem, hb, hnumber⟩ := Db.latestAttempt_eq_some hlatest
    have hnot : ∀ c', ¬ Reserves w l c' := by
      rintro c' ⟨now', claim', hdecides', -, hnone⟩
      obtain ⟨rfl, rfl⟩ := hdecides.unique hdecides'
      rw [hlatest, Option.filter_some, if_pos hreusable] at hnone
      cases hnone
    obtain ⟨a, ha, hslot⟩ := attempt_stays l hmem
    refine ⟨⟨a, ha, hslot.bookingId.trans hb, hslot.idempotencyKey.trans hkey.symm⟩, ?_⟩
    rw [Db.maxAttemptNumber_congr (attempts_rowwise hnot), hkey, hinv.key latest hmem, hb, hnumber]
  · obtain ⟨row, hb, hnumber, hrowkey, -, hrows⟩ :=
      Reserves.attempts ⟨now, claim, hdecides, hclaim, hnone⟩
    refine ⟨⟨row, by rw [hrows]; simp, hb, hrowkey.trans hkey.symm⟩, ?_⟩
    rw [maxAttemptNumber_reserved hb hnumber hrows, if_pos rfl, hkey]

/-- The latest number of a booking changes only when nothing is pending for it. -/
theorem ReservesAlone.max_step (hguard : ReservesAlone w l) (b : BookingId) :
    (w.step l).db.maxAttemptNumber b = w.db.maxAttemptNumber b ∨ NothingPending w b := by
  by_cases h : ∃ c, Reserves w l c
  · obtain ⟨c, hc⟩ := h
    obtain ⟨row, hb, hnumber, -, -, hrows⟩ := hc.attempts
    by_cases hbc : b = c.bookingId
    · rw [hbc]
      exact .inr (hguard c hc)
    · rw [maxAttemptNumber_reserved hb hnumber hrows, if_neg hbc]
      exact .inl rfl
  · exact .inl (Db.maxAttemptNumber_congr (attempts_rowwise fun c hc => h ⟨c, hc⟩) b)

theorem World.ChargeInv.step (hinv : w.ChargeInv) (hguard : ReservesAlone w l) :
    (w.step l).ChargeInv := by
  constructor
  case agree => exact hinv.agree.step l
  case key => exact hinv.key_step
  case calling =>
    intro c hc claim hphase
    rcases w.calling_step l hc hphase with hold | ⟨now, call, -, hdecides, hdecision, rfl⟩
    · obtain ⟨a, ha, hb, hkey⟩ := hinv.calling c hold claim hphase
      obtain ⟨a', ha', hslot⟩ := attempt_stays l ha
      exact ⟨a', ha', hslot.bookingId.trans hb, hslot.idempotencyKey.trans hkey⟩
    · exact (hinv.claimed hdecides hdecision).1
  case intents =>
    intro r hr hflow
    have hcarry : ∀ {b : BookingId} {k : AttemptKey}, (∃ a ∈ w.db.paymentAttempts.rows,
        a.bookingId = b ∧ a.idempotencyKey = k) → ∃ a ∈ (w.step l).db.paymentAttempts.rows,
        a.bookingId = b ∧ some k = some a.idempotencyKey := by
      rintro b k ⟨a, ha, hb, rfl⟩
      obtain ⟨a', ha', hslot⟩ := attempt_stays l ha
      exact ⟨a', ha', hslot.bookingId.trans hb, by rw [hslot.idempotencyKey]⟩
    unfold PaymentIntent.flow at hflow
    unfold PaymentIntent.bookingId
    cases w.intentOrigin l hr with
    | old s hs hid hparams hkey hstatus =>
      rw [hparams] at hflow ⊢
      obtain ⟨a, ha, hb, hk⟩ := hinv.intents s hs hflow
      rw [hkey, hk]
      exact hcarry ⟨a, ha, hb, rfl⟩
    | checkout call cb hcall hphase hid hparams hkey hstatus =>
      rw [hparams] at hflow
      cases hflow
    | charge call claim hcall hphase hnew hid hparams hkey =>
      rw [hparams, hkey]
      exact hcarry (hinv.calling call (Table.mem_of_find? hcall) claim hphase)
  case keyOnce =>
    intro r hr r' hr' k hk hk'
    apply Table.key_inj hr hr'
    show r.id = r'.id
    have hunseen : ∀ {claim : ChargeClaim} {s : PaymentIntent}, s ∈ w.stripe.intents.rows →
        s.idempotencyKey = some claim.idempotencyKey →
        w.stripe.intentByKey claim.idempotencyKey ≠ none := by
      intro claim s hs hsk hnone
      have hsome := intentByKey_isSome_iff.mpr ⟨s, hs, hsk⟩
      rw [hnone] at hsome
      cases hsome
    cases w.intentOrigin l hr with
    | old s hs hid hparams hkey hstatus =>
      cases w.intentOrigin l hr' with
      | old s' hs' hid' hparams' hkey' hstatus' =>
        rw [hid, hid', hinv.keyOnce s hs s' hs' k (hkey ▸ hk) (hkey' ▸ hk')]
      | checkout call cb hcall hphase hid' hparams' hkey' hstatus' =>
        rw [hkey'] at hk'
        cases hk'
      | charge call claim hcall hphase hnew hid' hparams' hkey' =>
        rw [hkey'] at hk'
        cases hk'
        exact absurd hnew (hunseen hs (hkey ▸ hk))
    | checkout call cb hcall hphase hid hparams hkey hstatus =>
      rw [hkey] at hk
      cases hk
    | charge call claim hcall hphase hnew hid hparams hkey =>
      rw [hkey] at hk
      cases hk
      cases w.intentOrigin l hr' with
      | old s' hs' hid' hparams' hkey' hstatus' =>
        exact absurd hnew (hunseen hs' (hkey' ▸ hk'))
      | checkout call' cb hcall' hphase' hid' hparams' hkey' hstatus' =>
        rw [hkey'] at hk'
        cases hk'
      | charge call' claim' hcall' hphase' hnew' hid' hparams' hkey' => rw [hid, hid']
  case current =>
    intro r hr hflow halive
    unfold PaymentIntent.flow at hflow
    unfold PaymentIntent.bookingId
    cases w.intentOrigin l hr with
    | old s hs hid hparams hkey hstatus =>
      rw [hparams] at hflow ⊢
      have hsalive : ¬ s.status.dead := fun hdead =>
        halive (hinv.agree.dead_step hs hflow hstatus hdead)
      rcases hguard.max_step s.bookingId with hmax | hnothing
      · rw [hkey, hinv.current s hs hflow hsalive]
        exact congrArg (fun n => some (AttemptKey.mk s.bookingId n)) hmax.symm
      · exact absurd (hnothing.intents s hs rfl) hsalive
    | checkout call cb hcall hphase hid hparams hkey hstatus =>
      rw [hparams] at hflow
      cases hflow
    | charge call claim hcall hphase hnew hid hparams hkey =>
      have hmem := Table.mem_of_find? hcall
      rw [hparams, hkey]
      rcases hguard.max_step call.bookingId with hmax | hnothing
      · rcases hinv.callingCurrent call hmem claim hphase with hcurrent | hseen
        · rw [hcurrent]
          exact congrArg (fun n => some (AttemptKey.mk call.bookingId n)) hmax.symm
        · rw [hnew] at hseen
          cases hseen
      · have hseen := hnothing.requests call hmem rfl claim (by rw [hphase]; rfl)
        rw [hnew] at hseen
        cases hseen
  case callingCurrent =>
    intro c hc claim hphase
    rcases w.calling_step l hc hphase with hold | ⟨now, call, -, hdecides, hdecision, rfl⟩
    · rcases hinv.callingCurrent c hold claim hphase with hcurrent | hseen
      · rcases hguard.max_step c.bookingId with hmax | hnothing
        · left
          rw [hmax]
          exact hcurrent
        · exact .inr (intentByKey_step l (hnothing.requests c hold rfl claim (by rw [hphase]; rfl)))
      · exact .inr (intentByKey_step l hseen)
    · exact .inl (hinv.claimed hdecides hdecision).2

end

/-! ## Whole runs -/

theorem World.ChargeInv.succeeded_unique {w : World} (hinv : w.ChargeInv) {b : BookingId}
    (hb : w.db.flowOf b = some .separateChargesDelayedV1) {i j : PaymentIntentId}
    (hi : w.succeeded b i) (hj : w.succeeded b j) : i = j := by
  have hkey : ∀ {k r}, w.stripe.intents.find? k = some r → r.bookingId = b → r.status = .succeeded →
      r.idempotencyKey = some ⟨b, w.db.maxAttemptNumber b⟩ := by
    rintro k r hr rfl hst
    have hmem := Table.mem_of_find? hr
    have hflow := hinv.agree.intents r hmem
    rw [hb] at hflow
    exact hinv.current r hmem (Option.some.inj hflow).symm (by rw [hst]; decide)
  obtain ⟨r, hr, hrb, hst⟩ := World.succeeded_iff.mp hi
  obtain ⟨s, hs, hsb, hst'⟩ := World.succeeded_iff.mp hj
  have hsame := hinv.keyOnce r (Table.mem_of_find? hr) s (Table.mem_of_find? hs) _ (hkey hr hrb hst)
    (hkey hs hsb hst')
  rw [← Table.key_of_find? hr, ← Table.key_of_find? hs, hsame]

/-- From a database without payments and attempts, a run that reserves a new attempt
only when nothing is pending under the earlier ones charges no booking twice. -/
theorem chargedOnce_run {db : Db} (hpayments : db.payments.rows = [])
    (hattempts : db.paymentAttempts.rows = []) {ls : List Label}
    (hguard : Guarded World.step ReservesAlone (World.start db) ls) {b : BookingId}
    (hb : (run World.step (World.start db) ls).db.flowOf b = some .separateChargesDelayedV1)
    {i j : PaymentIntentId} (hi : EverSucceeded (World.start db) ls b i)
    (hj : EverSucceeded (World.start db) ls b j) : i = j := by
  have hinv : (run World.step (World.start db) ls).ChargeInv :=
    run_invariant (I := World.ChargeInv) (fun _ _ hinv hguard => hinv.step hguard)
      (.start hpayments hattempts) hguard
  exact hinv.succeeded_unique hb hi.last hj.last

theorem reservesAlone_charge {w : World} {now : Int} {call : Nat} {answer : ChargeAnswer} {c : ChargeCall}
    (hc : w.charges.find? call = some c) (h : c.phase = .deciding → NothingPending w c.bookingId) :
    ReservesAlone w (.charge now call answer) := by
  rintro c' ⟨now', claim, ⟨call', answer', hl, hc', hphase⟩, -⟩
  cases hl
  rw [hc] at hc'
  cases hc'
  exact h hphase

/-- A guest books long ahead and saves a card; the charge is due 60 days before check-in. -/
def cardSaved : List Label :=
  [ .transaction (.createBooking 0 true (sampleRequest "a")),
    .transaction (.saveSetupIntent 1 1 1),
    .transaction (.configureTaxTreatment 1 .platformRemits),
    .setupIntentSucceeded 1 1,
    .setupIntentContinue 0 1 ]

/-- One sweep that charges the booking, with the answer to its request. -/
def swept (now : Int) (call : Nat) (answer : ChargeAnswer) : List Label :=
  [ .sweepCharge now 1,
    .charge now call answer,
    .charge now call answer,
    .charge now call answer ]

/-- The card is declined, and accepted on the next day. -/
def declinedThenCharged : List Label :=
  cardSaved ++ swept (40 * msPerDay) 1 (.processed .declined none true) ++
    swept (41 * msPerDay) 1 (.processed .succeeded none true)

theorem declinedThenCharged_chargedOnce :
    EverSucceeded (World.start sampleDb) declinedThenCharged 1 2 ∧
      ∀ i, EverSucceeded (World.start sampleDb) declinedThenCharged 1 i → i = 2 := by
  have hsucceeded : EverSucceeded (World.start sampleDb) declinedThenCharged 1 2 :=
    ⟨declinedThenCharged, [], rfl, by decide⟩
  refine ⟨hsucceeded, fun i hi => chargedOnce_run rfl rfl ?_ (by decide) hi hsucceeded⟩
  have hother : ∀ {w : World} {l : Label}, (∀ now call answer, l ≠ .charge now call answer) →
      ReservesAlone w l := by
    rintro w l hl c ⟨now, claim, ⟨call, answer, h, -⟩, -⟩
    exact absurd h (hl now call answer)
  exact ⟨hother nofun, hother nofun, hother nofun, hother nofun, hother nofun, hother nofun,
    reservesAlone_charge (c := ⟨1, 1, 20000, "GBP", .deciding⟩) (by decide) fun _ => ⟨by decide, by decide⟩,
    reservesAlone_charge (c := ⟨1, 1, 20000, "GBP", .calling ⟨1, ⟨1, 1⟩, 0, 1, 1⟩⟩) (by decide) nofun,
    reservesAlone_charge (c := ⟨1, 1, 20000, "GBP", .recording ⟨1, ⟨1, 1⟩, 0, 1, 1⟩ .failed
      ⟨some 1, none, none⟩⟩) (by decide) nofun,
    hother nofun,
    reservesAlone_charge (c := ⟨1, 1, 20000, "GBP", .deciding⟩) (by decide) fun _ => ⟨by decide, by decide⟩,
    reservesAlone_charge (c := ⟨1, 1, 20000, "GBP", .calling ⟨2, ⟨1, 2⟩, 1, 1, 1⟩⟩) (by decide) nofun,
    reservesAlone_charge (c := ⟨1, 1, 20000, "GBP", .recording ⟨2, ⟨1, 2⟩, 1, 1, 1⟩ .succeeded
      ⟨some 2, none, none⟩⟩) (by decide) nofun, trivial⟩

/-- The response to the first charge is lost, and the retry charges again. -/
def chargedAgain : List Label :=
  cardSaved ++ swept (40 * msPerDay) 1 (.processed .succeeded none false) ++
    swept (41 * msPerDay) 1 (.processed .succeeded none true)

theorem chargedAgain_twice : ¬ ∀ i j, EverSucceeded (World.start sampleDb) chargedAgain 1 i →
    EverSucceeded (World.start sampleDb) chargedAgain 1 j → i = j := by
  intro h
  have hsame : (1 : PaymentIntentId) = 2 := h 1 2 ⟨chargedAgain, [], rfl, by decide⟩
    ⟨chargedAgain, [], rfl, by decide⟩
  cases hsame

end HostPlatform
