-- SUMMARY: The end states of an entitlement are final and true: exactly if no failure is recorded once Stripe has a transfer, and no transfer is made once a failure is recorded.
import HostPlatform.Transfers
import HostPlatform.Safety.HostEntitlement

namespace HostPlatform

open Lib Lib.Transition

/-- Stripe has a transfer for the entitlement. -/
def Transfers.HasTransfer (s : Transfers) (b : BookingId) : Prop :=
  ∃ t ∈ s.transfers.rows, t.hostEntitlementId = some b

/-- `transfer_created` and `transfer_failed` say what Stripe has, and the first one stays. -/
structure EndStatesTruthful (s : Transfers) (ls : List TransferLabel) (b : BookingId) : Prop where
  single : ∀ pre suf, ls = pre ++ suf → ∀ t ∈ (run Transfers.step s pre).transfers.rows,
    ∀ t' ∈ (run Transfers.step s pre).transfers.rows,
      t.hostEntitlementId = some b → t'.hostEntitlementId = some b → t = t'
  final : ∀ pre mid suf, ls = pre ++ mid ++ suf → ∀ e,
    (run Transfers.step s pre).world.db.entitlements.find? b = some e → e.status = .transferCreated →
      ∃ e', (run Transfers.step s (pre ++ mid)).world.db.entitlements.find? b = some e' ∧
        e'.status = .transferCreated ∧ e'.providerTransferId = e.providerTransferId
  failed : ∀ pre suf, ls = pre ++ suf → ∀ e,
    (run Transfers.step s pre).world.db.entitlements.find? b = some e → e.status = .transferFailed →
      ¬ (run Transfers.step s pre).HasTransfer b

def ReleasePhase.isCreating : ReleasePhase → Bool
  | .creating _ => true
  | _ => false

/-- A call of the entitlement records a failure only while Stripe has no transfer, and a
request that makes the transfer finds no failure recorded. -/
def FailsUntransferred (b : BookingId) (s : Transfers) : TransferLabel → Prop
  | .release c answer =>
    ∀ call ∈ s.releases.find? c, call.entitlementId = b →
      (call.phase = .failing → transferByKey s.transfers b = none) ∧
      (call.phase.isCreating → answer ≠ .refused → transferByKey s.transfers b = none →
        ∀ e ∈ s.world.db.entitlements.find? b, e.status ≠ .transferFailed)
  | _ => True

instance (b : BookingId) (s : Transfers) : ∀ l, Decidable (FailsUntransferred b s l)
  | .release c answer =>
    inferInstanceAs (Decidable (∀ call ∈ s.releases.find? c, call.entitlementId = b →
      (call.phase = .failing → transferByKey s.transfers b = none) ∧
      (call.phase.isCreating → answer ≠ .refused → transferByKey s.transfers b = none →
        ∀ e ∈ s.world.db.entitlements.find? b, e.status ≠ .transferFailed)))
  | .system _ | .setConnectAccount .. | .otherTransfer _ | .findReleaseDue .. | .claim ..
  | .workerCrash _ | .attemptRelease .. | .releaseCrash _ => isTrue trivial

/-! ## Transfers at Stripe -/

theorem transferByKey_eq_none_iff {s : Transfers} {b : BookingId} :
    transferByKey s.transfers b = none ↔ ¬ s.HasTransfer b := by
  unfold transferByKey Transfers.HasTransfer
  rw [List.find?_eq_none]
  simp only [decide_eq_true_eq, not_exists, not_and]

theorem requestTransfer_eq_some {transfers transfers' : Table StripeTransfer} {params : TransferParams}
    {id : TransferId} (h : requestTransfer transfers params = (some id, transfers')) :
    ∃ t ∈ transfers'.rows, t.id = id ∧ t.hostEntitlementId = some params.hostEntitlementId := by
  unfold requestTransfer at h
  split at h
  · rename_i t hkey
    split at h
    · cases h
      have hb := List.find?_some hkey
      exact ⟨t, List.mem_of_find?_eq_some hkey, rfl, of_decide_eq_true hb⟩
    · cases h
  · cases h
    refine ⟨createdTransfer params transfers.freshKey, ?_, rfl, rfl⟩
    rw [rows_makeTransfer]
    exact List.mem_append_right _ (List.mem_singleton.mpr rfl)

theorem listedTransfer_eq_some {transfers : Table StripeTransfer} {params : TransferParams}
    {t : StripeTransfer} (h : listedTransfer transfers params = some t) :
    t ∈ transfers.rows ∧ t.hostEntitlementId = some params.hostEntitlementId := by
  dsimp only [listedTransfer] at h
  have hb := List.find?_some h
  have hmem := (List.mem_filter.mp (List.mem_of_mem_take (List.mem_of_find?_eq_some h))).1
  exact ⟨List.mem_reverse.mp hmem, of_decide_eq_true hb⟩

namespace Transfers

variable {s : Transfers} {l : TransferLabel}

/-- Transfers stay, and a step makes at most one: for the entitlement of a creating call, or
for other code. -/
theorem StripeStep.mem {transfers : Table StripeTransfer} (h : s.StripeStep l transfers)
    {t : StripeTransfer} (ht : t ∈ s.transfers.rows) : t ∈ transfers.rows := by
  cases h with
  | same => exact ht
  | other destination =>
    rw [Table.rows_insertNew]
    exact List.mem_append_left _ ht
  | created call answer params hl hcall hphase hanswer hnone =>
    rw [rows_makeTransfer]
    exact List.mem_append_left _ ht

theorem StripeStep.cases_mem {transfers : Table StripeTransfer} (h : s.StripeStep l transfers)
    {t : StripeTransfer} (ht : t ∈ transfers.rows) {b : BookingId} (hb : t.hostEntitlementId = some b) :
    t ∈ s.transfers.rows ∨
      ∃ call answer params, l = .release call.id answer ∧ s.releases.find? call.id = some call ∧
        call.phase = .creating params ∧ answer ≠ .refused ∧ params.hostEntitlementId = b ∧
        transferByKey s.transfers b = none ∧ t = createdTransfer params s.transfers.freshKey := by
  cases h with
  | same => exact .inl ht
  | other destination =>
    rw [Table.rows_insertNew] at ht
    rcases List.mem_append.mp ht with hold | hnew
    · exact .inl hold
    · rw [List.mem_singleton.mp hnew] at hb
      cases hb
  | created call answer params hl hcall hphase hanswer hnone =>
    rw [rows_makeTransfer] at ht
    rcases List.mem_append.mp ht with hold | hnew
    · exact .inl hold
    · rw [List.mem_singleton.mp hnew] at hb
      have hparams : params.hostEntitlementId = b := Option.some.inj hb
      rw [hparams] at hnone
      exact .inr ⟨call, answer, params, hl, hcall, hphase, hanswer, hparams, hnone,
        List.mem_singleton.mp hnew⟩

/-! ## What holds in every run -/

/-- One transfer for a key; calls are about rows that exist, and hold transfers that exist;
a recorded transfer is the one Stripe has. -/
structure Sound (s : Transfers) : Prop where
  keyed : ∀ t ∈ s.transfers.rows, ∀ t' ∈ s.transfers.rows, ∀ b,
    t.hostEntitlementId = some b → t'.hostEntitlementId = some b → t = t'
  called : ∀ id c, s.releases.find? id = some c →
    ∃ e, s.world.db.entitlements.find? c.entitlementId = some e
  params : ∀ id c params, s.releases.find? id = some c →
    c.phase = .listing params ∨ c.phase = .creating params → params.hostEntitlementId = c.entitlementId
  recorded : ∀ id c transferId, s.releases.find? id = some c → c.phase = .recording transferId →
    ∃ t ∈ s.transfers.rows, t.id = transferId ∧ t.hostEntitlementId = some c.entitlementId
  created : ∀ b e, s.world.db.entitlements.find? b = some e → e.status = .transferCreated →
    ∃ t ∈ s.transfers.rows, e.providerTransferId = some t.id ∧ t.hostEntitlementId = some b

theorem Sound.start {w : World} (h : ∀ e ∈ w.db.entitlements.rows, e.Untouched) : (start w).Sound where
  keyed t ht := by cases ht
  called id c hc := by cases Table.mem_of_find? hc
  params id c params hc := by cases Table.mem_of_find? hc
  recorded id c transferId hc := by cases Table.mem_of_find? hc
  created b e he hstatus := by
    have huntouched := h e (Table.mem_of_find? he)
    rw [huntouched.1] at hstatus
    cases hstatus

/-- The key of an entitlement makes a transfer only when it has made none. -/
theorem Sound.keyed_stripe (h : s.Sound) {transfers : Table StripeTransfer}
    (hstripe : s.StripeStep l transfers) {t t' : StripeTransfer} (ht : t ∈ transfers.rows)
    (ht' : t' ∈ transfers.rows) {b : BookingId} (hb : t.hostEntitlementId = some b)
    (hb' : t'.hostEntitlementId = some b) : t = t' := by
  cases hstripe with
  | same => exact h.keyed t ht t' ht' b hb hb'
  | other destination =>
    rw [Table.rows_insertNew] at ht ht'
    rcases List.mem_append.mp ht with hold | hnew
    · rcases List.mem_append.mp ht' with hold' | hnew'
      · exact h.keyed t hold t' hold' b hb hb'
      · rw [List.mem_singleton.mp hnew'] at hb'
        cases hb'
    · rw [List.mem_singleton.mp hnew] at hb
      cases hb
  | created call answer params hl hcall hphase hanswer hnone =>
    have hfree : ∀ {u : StripeTransfer}, u ∈ s.transfers.rows → u.hostEntitlementId = some b →
        params.hostEntitlementId ≠ b := by
      rintro u hu hub rfl
      exact transferByKey_eq_none_iff.mp hnone ⟨u, hu, hub⟩
    rw [rows_makeTransfer] at ht ht'
    rcases List.mem_append.mp ht with hold | hnew
    · rcases List.mem_append.mp ht' with hold' | hnew'
      · exact h.keyed t hold t' hold' b hb hb'
      · rw [List.mem_singleton.mp hnew'] at hb'
        exact absurd (Option.some.inj hb') (hfree hold hb)
    · rcases List.mem_append.mp ht' with hold' | hnew'
      · rw [List.mem_singleton.mp hnew] at hb
        exact absurd (Option.some.inj hb) (hfree hold' hb')
      · rw [List.mem_singleton.mp hnew, List.mem_singleton.mp hnew']

theorem Sound.step (h : s.Sound) (l : TransferLabel) : (s.step l).Sound := by
  have hstripe := s.stripe_step l
  constructor
  · intro t ht t' ht' b hb hb'
    exact h.keyed_stripe hstripe ht ht' hb hb'
  · intro id c' hc'
    have hrow : ∀ {b : BookingId}, (∃ e, s.world.db.entitlements.find? b = some e) →
        ∃ e, (s.step l).world.db.entitlements.find? b = some e := by
      rintro b ⟨e, he⟩
      obtain ⟨e', he', -⟩ := s.row_step l he
      exact ⟨e', he'⟩
    cases s.call_step l hc' with
    | same _ hcall => exact hrow (h.called _ _ hcall)
    | read id enabled b params hl hread =>
      obtain ⟨-, e, he, -⟩ := releaseParams_eq_ok hread
      exact hrow ⟨e, he⟩
    | listed call params t hcall => exact hrow (h.called _ call hcall)
    | unlisted call params hcall => exact hrow (h.called _ call hcall)
    | created call params transferId hcall => exact hrow (h.called _ call hcall)
    | failed call params hcall => exact hrow (h.called _ call hcall)
  · intro id c' params hc' hphase'
    cases s.call_step l hc' with
    | same _ hcall => exact h.params _ _ params hcall hphase'
    | read id enabled b params' hl hread =>
      rcases hphase' with hphase' | hphase'
      · cases hphase'
        exact (releaseParams_eq_ok hread).1
      · cases hphase'
    | listed call params' t hcall hphase => rcases hphase' with hphase' | hphase' <;> cases hphase'
    | unlisted call params' hcall hphase =>
      rcases hphase' with hphase' | hphase'
      · cases hphase'
      · cases hphase'
        exact h.params _ call params hcall (.inl hphase)
    | created call params' transferId hcall hphase => rcases hphase' with hphase' | hphase' <;> cases hphase'
    | failed call params' hcall hphase => rcases hphase' with hphase' | hphase' <;> cases hphase'
  · intro id c' transferId hc' hphase'
    cases s.call_step l hc' with
    | same _ hcall =>
      obtain ⟨t, ht, hid, hb⟩ := h.recorded _ _ transferId hcall hphase'
      exact ⟨t, hstripe.mem ht, hid, hb⟩
    | read id enabled b params' hl hread => cases hphase'
    | listed call params t hcall hphase hlisted =>
      cases hphase'
      obtain ⟨ht, hb⟩ := listedTransfer_eq_some hlisted
      rw [h.params _ _ params hcall (.inl hphase)] at hb
      exact ⟨t, hstripe.mem ht, rfl, hb⟩
    | unlisted call params hcall hphase => cases hphase'
    | created call params transferId' hcall hphase hcreated =>
      cases hphase'
      obtain ⟨t, ht, hid, hb⟩ := requestTransfer_eq_some hcreated
      rw [h.params _ _ params hcall (.inr hphase)] at hb
      exact ⟨t, ht, hid, hb⟩
    | failed call params hcall hphase => cases hphase'
  · intro b e' he' hstatus
    rcases s.row_cases l he' with ⟨e, he, hmove⟩ | ⟨-, huntouched⟩
    · obtain rfl : e.bookingId = b := Table.key_of_find? he
      cases hmove with
      | same =>
        obtain ⟨t, ht, hid, hb⟩ := h.created _ e' he hstatus
        exact ⟨t, hstripe.mem ht, hid, hb⟩
      | claimed worker hl hworker hfound hentitled => cases hstatus
      | failed call answer hl hcall hentitlement hphase => cases hstatus
      | created call answer transferId hl hcall hentitlement hphase =>
        obtain ⟨t, ht, rfl, hb⟩ := h.recorded _ _ transferId hcall hphase
        rw [hentitlement] at hb
        exact ⟨t, hstripe.mem ht, rfl, hb⟩
    · rw [huntouched.1] at hstatus
      cases hstatus

/-! ## The recorded end states -/

/-- A failure recorded for the entitlement means that Stripe has no transfer. -/
def FailedUntransferred (s : Transfers) (b : BookingId) : Prop :=
  ∀ e, s.world.db.entitlements.find? b = some e → e.status = .transferFailed → ¬ s.HasTransfer b

/-- What the condition says of a call about to record a failure. -/
theorem not_hasTransfer_of_failing {b : BookingId} {call : ReleaseCall} {answer : TransferAnswer}
    (hg : FailsUntransferred b s (.release call.id answer)) (hcall : s.releases.find? call.id = some call)
    (hentitlement : call.entitlementId = b) (hphase : call.phase = .failing) : ¬ s.HasTransfer b :=
  transferByKey_eq_none_iff.mp ((hg call hcall hentitlement).1 hphase)

theorem failedUntransferred_step {b : BookingId} (h : s.Sound) (hfailed : s.FailedUntransferred b)
    (hg : FailsUntransferred b s l) : (s.step l).FailedUntransferred b := by
  rintro e' he' hstatus ⟨t, ht, hb⟩
  rcases (s.stripe_step l).cases_mem ht hb with
    hold | ⟨call, answer, params, rfl, hcall, hphase, hanswer, hparams, hnone, -⟩
  · -- Stripe had the transfer before: the step does not record a failure.
    rcases s.row_cases l he' with ⟨e, he, hmove⟩ | ⟨-, huntouched⟩
    · obtain rfl : e.bookingId = b := Table.key_of_find? he
      cases hmove with
      | same => exact hfailed e' he hstatus ⟨t, hold, hb⟩
      | claimed worker hl hworker hfound hentitled => cases hstatus
      | failed call answer hl hcall hentitlement hphase =>
        subst hl
        exact not_hasTransfer_of_failing hg hcall hentitlement hphase ⟨t, hold, hb⟩
      | created call answer transferId hl hcall hentitlement hphase => cases hstatus
    · rw [huntouched.1] at hstatus
      cases hstatus
  · -- The step makes the transfer: the row it finds is not failed, and stays as it is.
    have hentitlement : call.entitlementId = b :=
      (h.params _ call params hcall (.inr hphase)).symm.trans hparams
    rcases s.row_cases _ he' with ⟨e, he, hmove⟩ | ⟨-, huntouched⟩
    · have hnotFailed : e.status ≠ .transferFailed :=
        (hg call hcall hentitlement).2 (by rw [hphase]; rfl) hanswer hnone e he
      cases hmove with
      | same => exact hnotFailed hstatus
      | claimed worker hl hworker hfound hentitled => cases hl
      | failed call' answer' hl hcall' hentitlement' hphase' =>
        have hid : call.id = call'.id := (TransferLabel.release.inj hl).1
        rw [← hid, hcall] at hcall'
        cases hcall'
        rw [hphase] at hphase'
        cases hphase'
      | created call' answer' transferId hl hcall' hentitlement' hphase' => cases hstatus
    · rw [huntouched.1] at hstatus
      cases hstatus

theorem failsUntransferred_of_step {b : BookingId} (h : s.Sound) (hfailed : (s.step l).FailedUntransferred b) :
    FailsUntransferred b s l := by
  cases l with
  | release c answer =>
    intro call hcall hentitlement
    have hfind : s.releases.find? c = some call := hcall
    obtain rfl : call.id = c := Table.key_of_find? hcall
    subst hentitlement
    obtain ⟨e, he⟩ := h.called _ call hcall
    have hstep : s.step (.release call.id answer) = s.stepRelease call answer := by
      simp only [Transfers.step, hfind]
    rw [hstep] at hfailed
    constructor
    · intro hphase
      refine transferByKey_eq_none_iff.mpr fun htransfer => ?_
      have hwritten : (s.stepRelease call answer).world.db.entitlements.find? call.entitlementId =
          some { e with status := .transferFailed } := by
        simp only [stepRelease, hphase, db_setDb, markTransferFailed]
        rw [Table.find?_modify, if_pos rfl, he]
        rfl
      refine hfailed _ hwritten rfl ?_
      simp only [stepRelease, hphase]
      exact htransfer
    · intro hcreating hanswer hnone e' he' hstatus
      obtain ⟨params, hphase⟩ : ∃ params, call.phase = .creating params := by
        cases hphase : call.phase with
        | creating params => exact ⟨params, rfl⟩
        | listing params => rw [hphase] at hcreating; cases hcreating
        | failing => rw [hphase] at hcreating; cases hcreating
        | recording transferId => rw [hphase] at hcreating; cases hcreating
      have hkey : transferByKey s.transfers params.hostEntitlementId = none := by
        rw [h.params _ call params hcall (.inr hphase)]
        exact hnone
      have hrequest : requestTransfer s.transfers params =
          (some s.transfers.freshKey, makeTransfer s.transfers params) := by
        unfold requestTransfer
        rw [hkey]
      have hmade : (s.stepRelease call answer).transfers = makeTransfer s.transfers params ∧
          (s.stepRelease call answer).world = s.world := by
        cases answer with
        | refused => exact absurd rfl hanswer
        | answered => simp only [stepRelease, hphase, hrequest]; exact ⟨trivial, rfl⟩
        | lost => simp only [stepRelease, hphase, hrequest]; exact ⟨trivial, rfl⟩
      refine hfailed e' (by rw [hmade.2]; exact he') hstatus
        ⟨createdTransfer params s.transfers.freshKey, ?_, ?_⟩
      · rw [hmade.1, rows_makeTransfer]
        exact List.mem_append_right _ (List.mem_singleton.mpr rfl)
      · rw [← h.params _ call params hcall (.inr hphase)]
        rfl
  | system l => trivial
  | setConnectAccount hostId account => trivial
  | otherTransfer destination => trivial
  | findReleaseDue now ids => trivial
  | claim worker b => trivial
  | workerCrash worker => trivial
  | attemptRelease enabled b => trivial
  | releaseCrash call => trivial

/-- A recorded transfer stays recorded. -/
def TransferRecorded (b : BookingId) (transferId : Option TransferId) (s : Transfers) : Prop :=
  ∃ e, s.world.db.entitlements.find? b = some e ∧ e.status = .transferCreated ∧
    e.providerTransferId = transferId

theorem transferRecorded_step {b : BookingId} {transferId : Option TransferId} (h : s.Sound)
    (hrecorded : TransferRecorded b transferId s) (hg : FailsUntransferred b s l) :
    TransferRecorded b transferId (s.step l) := by
  obtain ⟨e, he, hstatus, rfl⟩ := hrecorded
  obtain ⟨e', he', hmove⟩ := s.row_step l he
  obtain ⟨t, ht, hid, hb⟩ := h.created b e he hstatus
  obtain rfl : e.bookingId = b := Table.key_of_find? he
  refine ⟨e', he', ?_⟩
  cases hmove with
  | same => exact ⟨hstatus, rfl⟩
  | claimed worker hl hworker hfound hentitled =>
    rw [hstatus] at hentitled
    cases hentitled
  | failed call answer hl hcall hentitlement hphase =>
    subst hl
    exact absurd ⟨t, ht, hb⟩ (not_hasTransfer_of_failing hg hcall hentitlement hphase)
  | created call answer transferId hl hcall hentitlement hphase =>
    -- The call holds the only transfer of the entitlement, which is recorded already.
    obtain ⟨t', ht', rfl, hb'⟩ := h.recorded _ call transferId hcall hphase
    rw [hentitlement] at hb'
    rw [h.keyed t' ht' t ht _ hb' hb, hid]
    exact ⟨rfl, rfl⟩

end Transfers

/-- From a system in which no transfer was tried yet, the end states of an entitlement are
true and final exactly if the condition holds at each step of the run. One transfer at
most is made for it in any case. -/
theorem endStatesTruthful_iff {w : World} (hstart : ∀ e ∈ w.db.entitlements.rows, e.Untouched)
    (b : BookingId) (ls : List TransferLabel) :
    EndStatesTruthful (.start w) ls b ↔
      Guarded Transfers.step (FailsUntransferred b) (.start w) ls := by
  have hsound : ∀ pre, (run Transfers.step (.start w) pre).Sound :=
    run_invariant' (I := Transfers.Sound) (fun s l h => h.step l) (.start hstart)
  have hzero : (Transfers.start w).FailedUntransferred b := by
    rintro e - - ⟨t, ht, -⟩
    cases ht
  have halways : (∀ pre suf, ls = pre ++ suf →
      (run Transfers.step (.start w) pre).FailedUntransferred b) ↔
        Guarded Transfers.step (FailsUntransferred b) (.start w) ls :=
    always_iff_guarded (I := Transfers.Sound) (fun s l h => h.step l)
      (fun s l h hfailed => ⟨Transfers.failsUntransferred_of_step h,
        Transfers.failedUntransferred_step h hfailed⟩)
      (.start hstart) hzero
  constructor
  · intro h
    exact halways.mp h.failed
  · intro hg
    constructor
    · intro pre suf hls t ht t' ht' hb hb'
      exact (hsound pre).keyed t ht t' ht' b hb hb'
    · rintro pre mid suf rfl e he hstatus
      have hmid := (guarded_append.mp (guarded_append.mp hg).1).2
      rw [run_append]
      exact (run_invariant (I := fun s => s.Sound ∧ Transfers.TransferRecorded b e.providerTransferId s)
        (fun s l hs hl => ⟨hs.1.step l, Transfers.transferRecorded_step hs.1 hs.2 hl⟩)
        ⟨hsound pre, e, he, hstatus, rfl⟩ hmid).2
    · exact halways.mpr hg

/-! ## One release, and a lost answer -/

/-- The platform once the host of booking 1 is entitled. -/
def entitledWorld : World := run World.step (World.start sampleDb) handledAtOnce

/-- A worker finds the entitlement, claims it and starts its release. -/
def releaseStarted : List TransferLabel :=
  [ .findReleaseDue (startOfDay 101) [1],
    .claim 1 1,
    .attemptRelease true 1,
    .release 1 .answered ]

def releasedOnce : List TransferLabel :=
  releaseStarted ++ [.release 1 .answered, .release 1 .answered]

theorem releasedOnce_truthful : EndStatesTruthful (.start entitledWorld) releasedOnce 1 :=
  (endStatesTruthful_iff (by decide) 1 releasedOnce).mpr (by decide)

/-- Stripe makes the transfer, and its answer is lost. -/
def releaseAnswerLost : List TransferLabel :=
  releaseStarted ++ [.release 1 .lost, .release 1 .answered]

/-- The entitlement is failed, and its host was paid. -/
theorem releaseAnswerLost_untruthful : ¬ EndStatesTruthful (.start entitledWorld) releaseAnswerLost 1 := by
  intro h
  have hnone := h.failed releaseAnswerLost [] (List.append_nil _).symm _ (Option.some_get (by decide)).symm
    (by decide)
  exact hnone ⟨_, List.mem_singleton.mpr rfl, by decide⟩

end HostPlatform
