-- SUMMARY: Leases, claims and slots of attempts over every run, and when a succeeded attempt stays succeeded.
import HostPlatform.AttemptSlots
import HostPlatform.OnSession

/-!
# The discipline of attempts

A decision leases its attempt to one worker under a fresh token, and an outcome is
recorded only under the stored token and never over a success. `markAttemptStatus`
checks neither: an on-session call that loses its idempotency key to the worker of a
scheduled charge writes `failed` over the success of that charge.
-/

namespace HostPlatform

open Lib (Table)
open Lib.Transition

/-- The claim a worker holds. -/
def ChargePhase.claim? : ChargePhase → Option ChargeClaim
  | .deciding => none
  | .calling claim | .recording claim _ _ => some claim

/-- At time `t` the worker of the call holds an unexpired lease on the attempt. -/
def World.HoldsLease (w : World) (t : Int) (attemptId : AttemptId) (c : ChargeCall) : Prop :=
  c ∈ w.charges.rows ∧ ∃ claim, c.phase.claim? = some claim ∧ claim.attemptId = attemptId ∧
    ∃ a, w.db.paymentAttempts.find? attemptId = some a ∧ a.claimToken = some claim.claimToken ∧
      leaseActive a t

/-- No two workers hold a lease, and no decision claims what a worker holds. -/
structure World.LeasesExclusive (w : World) : Prop where
  one : ∀ t attemptId c c', w.HoldsLease t attemptId c → w.HoldsLease t attemptId c' → c = c'
  refused : ∀ now call claim, (w.decision now call).1 = .charge claim →
    ∀ c, ¬ w.HoldsLease now claim.attemptId c

/-- An outcome under another token than the stored one changes nothing. -/
def Db.RejectsStale (db : Db) : Prop :=
  ∀ now b attemptId claimToken status details,
    (∀ a, db.paymentAttempts.find? attemptId = some a → a.claimToken ≠ some claimToken) →
    recordChargeOutcome now b attemptId claimToken status details db = (false, db)

/-- No two attempts of a booking have the same number or the same key. -/
def Db.SlotsDistinct (db : Db) : Prop :=
  ∀ a ∈ db.paymentAttempts.rows, ∀ a' ∈ db.paymentAttempts.rows, a.bookingId = a'.bookingId →
    a.attemptNumber = a'.attemptNumber ∨ a.idempotencyKey = a'.idempotencyKey → a = a'

/-- Succeeded attempts are still succeeded. -/
def Db.KeepsSucceeded (db db' : Db) : Prop :=
  ∀ attemptId a, db.paymentAttempts.find? attemptId = some a → a.status = .succeeded →
    ∃ a', db'.paymentAttempts.find? attemptId = some a' ∧ a'.status = .succeeded

/-- What the writers of attempts promise each other, in every state of the run. -/
structure AttemptDiscipline (w : OnSession) (ls : List OnSessionLabel) : Prop where
  absorbing : ∀ pre mid suf, ls = pre ++ mid ++ suf →
    (run OnSession.step w pre).world.db.KeepsSucceeded (run OnSession.step w (pre ++ mid)).world.db
  stale : ∀ pre suf, ls = pre ++ suf → (run OnSession.step w pre).world.db.RejectsStale
  leased : ∀ pre suf, ls = pre ++ suf → (run OnSession.step w pre).world.LeasesExclusive
  slots : ∀ pre suf, ls = pre ++ suf → (run OnSession.step w pre).world.db.SlotsDistinct

/-- The attempt an on-session call is about to mark, and the answer it has. -/
def OnSession.marking (w : OnSession) : OnSessionLabel → Option (AttemptId × ImmediateAnswer)
  | .immediate call _ =>
    (w.calls.find? call).bind fun c =>
      match c.phase with
      | .marking attemptId answer => some (attemptId, answer)
      | _ => none
  | _ => none

/-- An on-session call marks an attempt only while it has not succeeded. -/
def MarksUnsettled (w : OnSession) (l : OnSessionLabel) : Prop :=
  ∀ m ∈ w.marking l, ∀ a ∈ w.world.db.paymentAttempts.find? m.1, a.status ≠ .succeeded

instance (w : OnSession) (l : OnSessionLabel) : Decidable (MarksUnsettled w l) :=
  inferInstanceAs (Decidable (∀ m ∈ w.marking l, ∀ a ∈ w.world.db.paymentAttempts.find? m.1,
    a.status ≠ .succeeded))

/-! ## Stale outcomes -/

theorem Db.rejectsStale (db : Db) : db.RejectsStale := by
  intro now b attemptId claimToken status details hstale
  have hnot : recordable db attemptId claimToken = false := by
    unfold recordable
    cases ha : db.paymentAttempts.find? attemptId with
    | none => rfl
    | some a => exact decide_eq_false fun h => hstale a ha h.1
  simp only [recordChargeOutcome, hnot, Bool.false_eq_true, if_false]

/-! ## Tokens -/

theorem World.nextToken_step (w : World) (l : Label) : w.nextToken ≤ (w.step l).nextToken := by
  cases l with
  | transaction t =>
    obtain ⟨db, h, -⟩ := w.transaction_eq t
    rw [h]
  | cancelBookingAndRefund now input =>
    obtain ⟨db, refundCalls, h, -⟩ := w.cancelBookingAndRefund_eq now input
    simp only [step, h, le_refl]
  | sweepCharge now b =>
    rcases w.sweepCharge_eq now b with h | ⟨amountMinor, currency, h⟩
    · simp only [step, h, le_refl]
    · simp only [step, h, addCharge, le_refl]
  | setupIntentSucceeded b paymentMethodId =>
    obtain ⟨db, handlers, h, -⟩ := w.setupIntentSucceeded_eq b paymentMethodId
    simp only [step, h, le_refl]
  | setupIntentContinue now b =>
    obtain ⟨db, handlers, -, h | ⟨amountMinor, currency, h⟩⟩ := w.setupIntentContinue_eq now b
    · simp only [step, h, le_refl]
    · simp only [step, h, addCharge, le_refl]
  | charge now call answer =>
    simp only [step]
    split
    · unfold stepCharge
      split
      · dsimp only
        split
        · exact Nat.le_succ _
        · exact le_refl _
      · exact le_refl _
      · exact le_refl _
    · exact le_refl _
  | chargeCrash call =>
    simp only [step]
    split
    · exact le_refl _
    · exact le_refl _
  | startCheckout b =>
    obtain ⟨checkouts, h⟩ := w.startCheckout_eq b
    simp only [step, h, le_refl]
  | checkout call answer =>
    simp only [step]
    split
    · rename_i c _
      obtain ⟨payments, intents, sharedSecrets, checkouts, h⟩ := w.stepCheckout_eq c answer
      rw [h]
    · exact le_refl _
  | checkoutCrash call =>
    simp only [step]
    split
    · exact le_refl _
    · exact le_refl _
  | moveIntent intentId status => exact le_refl _
  | paymentSucceeded now intentId =>
    simp only [step]
    split
    · split
      · unfold paymentSucceeded
        split
        · exact le_refl _
        · exact le_refl _
        · exact le_refl _
      · exact le_refl _
    · exact le_refl _
  | insertEntitlement handler =>
    simp only [step]
    split
    · exact le_refl _
    · exact le_refl _
  | entitlementCrash handler => exact le_refl _
  | paymentFailed intentId lastPaymentError =>
    simp only [step]
    split
    · split
      · exact le_refl _
      · exact le_refl _
    · exact le_refl _
  | disputeCreated dispute =>
    simp only [step]
    split
    · split
      · exact le_refl _
      · exact le_refl _
    · exact le_refl _
  | adminRefund b amountMinor reason =>
    obtain ⟨refundCalls, h⟩ := w.adminRefund_eq b amountMinor reason
    simp only [step, h, le_refl]
  | refund call answer =>
    simp only [step]
    split
    · rename_i c _
      obtain ⟨refunds, stripeRefunds, refundCalls, h⟩ := w.stepRefund_eq c answer
      rw [h]
    · exact le_refl _
  | refundCrash call =>
    simp only [step]
    split
    · exact le_refl _
    · exact le_refl _
  | settleRefund stripeRefundId status => exact le_refl _
  | refundEvent stripeRefundId =>
    simp only [step]
    split
    · exact le_refl _
    · exact le_refl _
  | refundFailed stripeRefundId =>
    simp only [step]
    split
    · split
      · exact le_refl _
      · exact le_refl _
    · exact le_refl _
  | startDiscard b guestId => exact le_refl _
  | discard now call =>
    obtain ⟨db, discards, h, hdb⟩ := w.discard_eq now call
    rw [h]
  | discardCrash call =>
    obtain ⟨discards, h⟩ := w.discardCrash_eq call
    rw [h]

theorem Decides.nextToken {w : World} {l : Label} {now : Int} {c : ChargeCall} {claim : ChargeClaim}
    (h : Decides w l now c) (hclaim : (w.decision now c).1 = .charge claim) :
    (w.step l).nextToken = w.nextToken + 1 := by
  obtain ⟨call, answer, rfl, hc, hphase⟩ := h
  have hclaim' : (decideCharge now w.nextToken c.bookingId c.amountMinor c.currency w.db).1 =
    .charge claim := hclaim
  simp only [World.step, hc, World.stepCharge, hphase, hclaim']

/-- A claim under way was held before by the same call, or was just decided for it. -/
theorem World.claim_step (w : World) (l : Label) {c : ChargeCall} {claim : ChargeClaim}
    (hc : c ∈ (w.step l).charges.rows) (hclaim : c.phase.claim? = some claim) :
    (∃ c₀ ∈ w.charges.rows, c₀.id = c.id ∧ c₀.phase.claim? = some claim) ∨
      ∃ now call, Decides w l now call ∧ (w.decision now call).1 = .charge claim ∧
        c.id = call.id := by
  have hview : c ∈ (w.step l).chargeView.calls.rows := hc
  have hold : c ∈ w.charges.rows → (∃ c₀ ∈ w.charges.rows, c₀.id = c.id ∧ c₀.phase.claim? = some claim) ∨
      ∃ now call, Decides w l now call ∧ (w.decision now call).1 = .charge claim ∧ c.id = call.id :=
    fun h => .inl ⟨c, h, rfl, hclaim⟩
  cases w.chargeStep l with
  | frame h =>
    rw [h] at hview
    exact hold hview
  | started b pc hstarts h =>
    rw [h] at hview
    rcases List.mem_append.mp hview with hmem | hnew
    · exact hold hmem
    · rw [List.mem_singleton.mp hnew] at hclaim
      cases hclaim
  | ended call h =>
    rw [h] at hview
    exact hold (Charges.mem_endCall hview)
  | decided now call claim' hdecides hcall hdecision h =>
    rw [h] at hview
    rcases Charges.mem_setPhase hcall hview with ⟨hmem, -⟩ | rfl
    · exact hold hmem
    · cases hclaim
      exact .inr ⟨now, call, hdecides, hdecision, rfl⟩
  | answered call claim' status details hcall hphase h =>
    rw [h] at hview
    rcases Charges.mem_setPhase hcall hview with ⟨hmem, -⟩ | rfl
    · exact hold hmem
    · cases hclaim
      exact .inl ⟨call, Table.mem_of_find? hcall, rfl, by rw [hphase]; rfl⟩
  | charged call claim' intentStatus status details hcall hphase hkey h =>
    rw [h] at hview
    rcases Charges.mem_setPhase hcall hview with ⟨hmem, -⟩ | rfl
    · exact hold hmem
    · cases hclaim
      exact .inl ⟨call, Table.mem_of_find? hcall, rfl, by rw [hphase]; rfl⟩
  | recorded now call claim' status details hcall hphase h =>
    rw [h] at hview
    exact hold (Charges.mem_endCall hview)
  | marked attemptId i h =>
    rw [h] at hview
    exact hold hview
  | checkout params hflow h =>
    rw [h] at hview
    exact hold hview
  | moved i status hfind hmove h =>
    rw [h] at hview
    exact hold hview

/-- Tokens of claims under way were issued, each for one worker. -/
structure World.TokensFresh (w : World) : Prop where
  issued : ∀ c ∈ w.charges.rows, ∀ claim, c.phase.claim? = some claim → claim.claimToken < w.nextToken
  distinct : ∀ c ∈ w.charges.rows, ∀ c' ∈ w.charges.rows, ∀ claim claim', c.phase.claim? = some claim →
    c'.phase.claim? = some claim' → claim.claimToken = claim'.claimToken → c = c'

theorem World.TokensFresh.start (db : Db) : (World.start db).TokensFresh :=
  ⟨fun _ h => absurd h List.not_mem_nil, fun _ h => absurd h List.not_mem_nil⟩

theorem World.TokensFresh.step {w : World} (hinv : w.TokensFresh) (l : Label) :
    (w.step l).TokensFresh := by
  have htoken : ∀ {now call claim}, (w.decision now call).1 = .charge claim →
      claim.claimToken = w.nextToken := fun h =>
    have ⟨_, _, _, _, hclaim, _⟩ := decideCharge_passed h
    hclaim
  constructor
  case issued =>
    intro c hc claim hclaim
    rcases w.claim_step l hc hclaim with ⟨c₀, hc₀, -, hclaim₀⟩ | ⟨now, call, hdecides, hdecision, -⟩
    · exact (hinv.issued c₀ hc₀ claim hclaim₀).trans_le (w.nextToken_step l)
    · rw [hdecides.nextToken hdecision, htoken hdecision]
      exact Nat.lt_succ_self _
  case distinct =>
    intro c hc c' hc' claim claim' hclaim hclaim' hsame
    apply Table.key_inj hc hc'
    show c.id = c'.id
    rcases w.claim_step l hc hclaim with ⟨c₀, hc₀, hid, hold⟩ | ⟨now, call, hdecides, hdecision, hid⟩
    · rcases w.claim_step l hc' hclaim' with ⟨c₁, hc₁, hid', hold'⟩ | ⟨now', call', -, hdecision', -⟩
      · rw [← hid, ← hid', hinv.distinct c₀ hc₀ c₁ hc₁ claim claim' hold hold' hsame]
      · have hlt := hinv.issued c₀ hc₀ claim hold
        rw [hsame, htoken hdecision'] at hlt
        exact absurd hlt (Nat.lt_irrefl _)
    · rcases w.claim_step l hc' hclaim' with ⟨c₁, hc₁, -, hold'⟩ | ⟨now', call', hdecides', -, hid'⟩
      · have hlt := hinv.issued c₁ hc₁ claim' hold'
        rw [← hsame, htoken hdecision] at hlt
        exact absurd hlt (Nat.lt_irrefl _)
      · rw [hid, hid', (hdecides.unique hdecides').2]

theorem World.TokensFresh.leasesExclusive {w : World} (hinv : w.TokensFresh) :
    w.LeasesExclusive := by
  constructor
  case one =>
    rintro t attemptId c c' ⟨hc, claim, hclaim, -, a, ha, htoken, -⟩
      ⟨hc', claim', hclaim', -, a', ha', htoken', -⟩
    rw [ha] at ha'
    cases ha'
    rw [htoken] at htoken'
    exact hinv.distinct c hc c' hc' claim claim' hclaim hclaim' (Option.some.inj htoken')
  case refused =>
    rintro now call claim hdecision c ⟨-, claim', -, -, a, ha, -, hactive⟩
    rw [leaseActive_of_charge hdecision ha] at hactive
    cases hactive

/-! ## Attempts -/

theorem Db.AttemptsGrow.keepsSucceeded {db db' : Db} (h : db.AttemptsGrow db') :
    db.KeepsSucceeded db' := by
  intro attemptId a ha hsucceeded
  cases h with
  | updated hrowwise =>
    obtain ⟨a', ha', hkept⟩ := hrowwise.of_find? ha
    exact ⟨a', ha', hkept.succeeded hsucceeded⟩
  | inserted row hkey hfree hrows =>
    obtain ⟨hmem, hid⟩ := Table.find?_eq_some_iff.mp ha
    refine ⟨a, Table.find?_eq_some_iff.mpr ⟨?_, hid⟩, hsucceeded⟩
    rw [hrows]
    exact List.mem_append_left _ hmem

theorem Db.SlotsTaken.distinct {db : Db} (h : db.SlotsTaken) : db.SlotsDistinct := by
  intro a ha a' ha' hb hsame
  apply h.number a ha a' ha' hb
  rcases hsame with hnumber | hkey
  · exact hnumber
  · rw [h.key a ha, h.key a' ha'] at hkey
    exact congrArg AttemptKey.attemptNumber hkey

/-! ## On-session calls -/

theorem onPaymentSucceeded_attempts {now : Int} {intent : PaymentIntentObject} {db db' : Db}
    {input : Option EntitlementInput} (h : onPaymentSucceeded now intent db = .ok (input, db')) :
    Table.Rowwise PaymentAttempt.Kept db.paymentAttempts db'.paymentAttempts := by
  obtain rfl | rfl | ⟨b, -, u, hlegacy⟩ := onPaymentSucceeded_eq_ok h
  · exact .refl .refl _
  · unfold onNewFlowPaymentSucceeded
    split
    · exact .refl .refl _
    · split
      · exact .refl .refl _
      · exact markAttemptSucceeded_rowwise db intent.paymentAttemptId intent.id
  · obtain ⟨bookings, payments, payouts, ledgerEntries, hdb⟩ := onLegacyPaymentSucceeded_eq hlegacy
    rw [hdb]
    exact .refl .refl _

namespace OnSession

theorem stepImmediate_grow (w : OnSession) (call : ImmediateCall) (answer : ImmediateAnswer)
    (h : ∀ attemptId answered, call.phase ≠ .marking attemptId answered) :
    w.world.db.AttemptsGrow (w.stepImmediate call answer).world.db := by
  unfold stepImmediate
  cases hphase : call.phase with
  | reading =>
    dsimp only
    split
    · exact .of_eq rfl
    · exact .of_eq rfl
  | counting booking => exact .of_eq rfl
  | inserting booking attemptNumber =>
    dsimp only
    split
    · rename_i attemptId key db hinsert
      obtain ⟨hfree, hrows⟩ := recordNewAttempt_eq_some hinsert
      exact .inserted _ rfl hfree hrows
    · exact .of_eq rfl
  | creating request => exact .of_eq rfl
  | marking attemptId answered => exact absurd hphase (h attemptId answered)

/-- A step that marks no attempt only adds attempts or keeps them. -/
theorem step_grow (w : OnSession) (l : OnSessionLabel) (h : w.marking l = none) :
    w.world.db.AttemptsGrow (w.step l).world.db := by
  cases l with
  | system l => exact w.world.attemptsGrow_step l
  | startImmediate b => exact .of_eq rfl
  | immediate call answer =>
    simp only [step]
    cases hc : w.calls.find? call with
    | none => exact .of_eq rfl
    | some c =>
      apply w.stepImmediate_grow c answer
      intro attemptId answered hphase
      simp only [marking, hc, Option.bind_some, hphase, reduceCtorEq] at h
  | immediateCrash call =>
    simp only [step]
    split
    · exact .of_eq rfl
    · exact .of_eq rfl
  | paymentSucceeded now intent =>
    simp only [step, paymentSucceeded]
    split
    · exact .of_eq rfl
    · rename_i hok
      exact .updated (onPaymentSucceeded_attempts hok)
    · rename_i hok
      exact .updated (onPaymentSucceeded_attempts hok)
  | paymentFailed intent => exact .of_eq rfl

/-- A step that marks an attempt does nothing else to attempts. -/
theorem step_marking (w : OnSession) (l : OnSessionLabel) {m : AttemptId × ImmediateAnswer}
    (h : w.marking l = some m) :
    (w.step l).world.db = markAttemptStatus w.world.db m.1 m.2.status m.2.details := by
  cases l with
  | immediate call answer =>
    simp only [marking] at h
    simp only [step]
    cases hc : w.calls.find? call with
    | none =>
      rw [hc] at h
      cases h
    | some c =>
      rw [hc, Option.bind_some] at h
      simp only [stepImmediate]
      cases hphase : c.phase with
      | marking attemptId answered =>
        rw [hphase] at h
        cases h
        rfl
      | _ =>
        rw [hphase] at h
        cases h
  | _ => cases h

/-- Whether a step keeps every success is decided by the attempt it marks, if any. -/
theorem keepsSucceeded_iff (w : OnSession) (l : OnSessionLabel) :
    w.world.db.KeepsSucceeded (w.step l).world.db ↔ MarksUnsettled w l := by
  unfold MarksUnsettled
  cases hm : w.marking l with
  | none => exact ⟨fun _ => nofun, fun _ => (w.step_grow l hm).keepsSucceeded⟩
  | some m =>
    have hfind : ∀ attemptId, (w.step l).world.db.paymentAttempts.find? attemptId =
        (w.world.db.paymentAttempts.find? attemptId).map fun a => if a.id == m.1 then
          { a with
            status := m.2.status
            providerPaymentIntentId := m.2.details.providerPaymentIntentId.or a.providerPaymentIntentId
            failureCode := m.2.details.failureCode
            failureMessage := m.2.details.failureMessage } else a := by
      intro attemptId
      rw [w.step_marking l hm]
      exact Table.find?_updateWhere _ _ _ (by intro a; rfl) _
    constructor
    · rintro hkeeps _ ⟨rfl⟩ a ha hsucceeded
      have hid : a.id = m.1 := Table.key_of_find? ha
      obtain ⟨a', ha', hsucceeded'⟩ := hkeeps m.1 a ha hsucceeded
      rw [hfind, show w.world.db.paymentAttempts.find? m.1 = some a from ha, Option.map_some, hid,
        beq_self_eq_true, if_pos rfl] at ha'
      cases ha'
      exact m.2.status_ne_succeeded hsucceeded'
    · intro hguard attemptId a ha hsucceeded
      refine ⟨a, ?_, hsucceeded⟩
      have hid : a.id = attemptId := Table.key_of_find? ha
      have hne : a.id ≠ m.1 := fun h => hguard m rfl a (by rw [← h, hid]; exact ha) hsucceeded
      rw [hfind, ha, Option.map_some, if_neg (by simpa using hne)]

theorem slotsTaken_step (w : OnSession) (l : OnSessionLabel) (h : w.world.db.SlotsTaken) :
    (w.step l).world.db.SlotsTaken := by
  cases hm : w.marking l with
  | none => exact h.grow (w.step_grow l hm)
  | some m =>
    rw [w.step_marking l hm]
    exact h.rowwise (.modify .refl (by intro a; rfl) fun _ _ => ⟨rfl, rfl, rfl⟩)

/-- An on-session step leaves the workers of scheduled charges alone. -/
theorem tokensFresh_step (w : OnSession) (l : OnSessionLabel) (h : w.world.TokensFresh) :
    (w.step l).world.TokensFresh := by
  have hframe : ∀ w' : OnSession, w'.world.charges = w.world.charges →
      w'.world.nextToken = w.world.nextToken → w'.world.TokensFresh := by
    intro w' hcharges htoken
    constructor
    case issued =>
      rw [hcharges, htoken]
      exact h.issued
    case distinct =>
      rw [hcharges]
      exact h.distinct
  cases l with
  | system l => exact h.step l
  | startImmediate b => exact hframe _ rfl rfl
  | immediate call answer =>
    simp only [step]
    split
    · rename_i c _
      unfold stepImmediate
      split
      · split
        · exact hframe _ rfl rfl
        · exact hframe _ rfl rfl
      · exact hframe _ rfl rfl
      · split
        · exact hframe _ rfl rfl
        · exact hframe _ rfl rfl
      · exact hframe _ rfl rfl
      · exact hframe _ rfl rfl
    · exact h
  | immediateCrash call =>
    simp only [step]
    split
    · exact hframe _ rfl rfl
    · exact h
  | paymentSucceeded now intent =>
    simp only [step, paymentSucceeded]
    split
    · exact h
    · exact hframe _ rfl rfl
    · exact hframe _ rfl rfl
  | paymentFailed intent => exact hframe _ rfl rfl

end OnSession

/-! ## Whole runs -/

/-- From a database without attempts, the writers keep their discipline exactly in the
runs whose on-session calls mark no succeeded attempt. -/
theorem attemptDiscipline_iff {db : Db} (hattempts : db.paymentAttempts.rows = [])
    (ls : List OnSessionLabel) :
    AttemptDiscipline (.start db) ls ↔ Guarded OnSession.step MarksUnsettled (.start db) ls := by
  have habsorbing : (∀ pre mid suf, ls = pre ++ mid ++ suf →
      (run OnSession.step (.start db) pre).world.db.KeepsSucceeded
        (run OnSession.step (.start db) (pre ++ mid)).world.db) ↔
      Guarded OnSession.step MarksUnsettled (.start db) ls :=
    relates_iff_guarded (I := fun _ => True)
      (R := fun w w' : OnSession => w.world.db.KeepsSucceeded w'.world.db) (fun _ _ _ => trivial)
      (fun _ attemptId a ha hsucceeded => ⟨a, ha, hsucceeded⟩)
      (fun _ _ _ h h' attemptId a ha hsucceeded =>
        have ⟨a', ha', hsucceeded'⟩ := h attemptId a ha hsucceeded
        h' attemptId a' ha' hsucceeded')
      (fun w l _ => w.keepsSucceeded_iff l) trivial
  constructor
  · intro h
    exact habsorbing.mp h.absorbing
  · intro hguard
    have htokens : ∀ pre, (run OnSession.step (.start db) pre).world.TokensFresh :=
      run_invariant' (I := fun w : OnSession => w.world.TokensFresh)
        (fun w l h => w.tokensFresh_step l h) (.start db)
    have hslots : ∀ pre, (run OnSession.step (.start db) pre).world.db.SlotsTaken :=
      run_invariant' (I := fun w : OnSession => w.world.db.SlotsTaken)
        (fun w l h => w.slotsTaken_step l h) (Db.SlotsTaken.of_empty hattempts)
    exact
      { absorbing := habsorbing.mpr hguard
        stale := fun pre _ _ => Db.rejectsStale _
        leased := fun pre _ _ => (htokens pre).leasesExclusive
        slots := fun pre _ _ => (hslots pre).distinct }

/-- The guest pays through an on-session charge that no other worker takes up. -/
def paidOnSession : List OnSessionLabel :=
  [ .system (.transaction (.createBooking (60 * msPerDay) true (sampleRequest "a"))),
    .system (.transaction (.configureTaxTreatment 1 .platformRemits)),
    .startImmediate 1,
    .immediate 1 (.created 7),
    .immediate 1 (.created 7),
    .immediate 1 (.created 7),
    .immediate 1 (.created 7),
    .immediate 1 (.created 7),
    .paymentSucceeded (60 * msPerDay) ⟨7, some 1, some 1, some .separateChargesDelayedV1, none⟩ ]

theorem paidOnSession_attemptDiscipline :
    ((run OnSession.step (.start sampleDb) paidOnSession).world.db.hasSucceededAttempt 1) ∧
      AttemptDiscipline (.start sampleDb) paidOnSession :=
  ⟨by decide, (attemptDiscipline_iff rfl paidOnSession).mpr (by decide)⟩

/-- The worker of the saved card takes up the attempt of an on-session call and charges
under its key, so the on-session request is a conflict. -/
def chargedThenFailed : List OnSessionLabel :=
  [ .system (.transaction (.createBooking (60 * msPerDay) true (sampleRequest "a"))),
    .system (.transaction (.saveSetupIntent 1 1 1)),
    .system (.transaction (.configureTaxTreatment 1 .platformRemits)),
    .startImmediate 1,
    .immediate 1 (.refused ""),
    .immediate 1 (.refused ""),
    .immediate 1 (.refused ""),
    .system (.setupIntentSucceeded 1 1),
    .system (.setupIntentContinue (60 * msPerDay) 1),
    .system (.charge (60 * msPerDay) 1 (.processed .succeeded none true)),
    .system (.charge (60 * msPerDay) 1 (.processed .succeeded none true)),
    .system (.charge (60 * msPerDay) 1 (.processed .succeeded none true)),
    .immediate 1 (.refused "Keys for idempotent requests can only be used with the same parameters they were first used with."),
    .immediate 1 (.refused "") ]

theorem chargedThenFailed_downgrades : ¬ AttemptDiscipline (.start sampleDb) chargedThenFailed := by
  intro h
  have hkeeps := h.absorbing (chargedThenFailed.take 13) [.immediate 1 (.refused "")] [] rfl
  rw [run_concat] at hkeeps
  exact absurd ((OnSession.keepsSucceeded_iff _ _).mp hkeeps) (by decide)

end HostPlatform
