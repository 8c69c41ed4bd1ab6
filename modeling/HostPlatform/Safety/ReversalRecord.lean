-- SUMMARY: When the recorded reversals of a transfer add up to the requested ones, and stay confirmed.
import HostPlatform.TransferReversals
import HostPlatform.Safety.HostTransferRecord

/-!
# The record of transfer reversals

The idempotency key of a row is made of its amount and reason, so a request finds the row of
an equal one and records nothing. An execution reads the status of its row once, and a call
whose answer is lost marks the row failed, whatever another execution made of it.
-/

namespace HostPlatform

open Lib (Table)
open Lib.Transition

/-- What a label asks to have reversed of the entitlement's transfer. -/
def requestedAmount (e : BookingId) : ReversalLabel → Int
  | .requestReversal key _ => if key.entitlementId = e then key.amountMinor else 0
  | _ => 0

namespace Reversals

/-- Stripe has made at most one reversal for each row. -/
def Single (s : Reversals) : Prop :=
  ∀ r ∈ s.provider.rows, ∀ r' ∈ s.provider.rows, ∀ id,
    r.hostReversalId = some id → r'.hostReversalId = some id → r = r'

/-- The step makes a confirmed row of the entitlement a failed one. -/
def Unconfirms (e : BookingId) (s : Reversals) (l : ReversalLabel) : Prop :=
  ∃ id row row', s.reversals.find? id = some row ∧ row.entitlementId = e ∧
    row.status = .reversalConfirmed ∧ (s.step l).reversals.find? id = some row' ∧
    row'.status = .reversalFailed

/-- No reversal of the entitlement's transfer is lost or doubled in the run. -/
structure Accounted (e : BookingId) (s₀ : Reversals) (ls : List ReversalLabel) : Prop where
  recorded : ∀ pre suf, ls = pre ++ suf →
    recordedAmount (run step s₀ pre).reversals e =
      recordedAmount s₀.reversals e + (pre.map (requestedAmount e)).sum
  single : ∀ pre suf, ls = pre ++ suf → (run step s₀ pre).Single
  confirmed : ∀ pre l suf, ls = pre ++ l :: suf → ¬ Unconfirms e (run step s₀ pre) l

/-- A request of a non-zero amount finds no row of its amount and reason, and no execution
writes its failure to a confirmed row. -/
def Unobstructed (e : BookingId) (s : Reversals) : ReversalLabel → Prop
  | .requestReversal key _ =>
    key.entitlementId = e → key.amountMinor = 0 ∨ hasReversalKey key s.reversals = false
  | .call c answer _ =>
    ∀ call ∈ s.calls.find? c, call.phase = .failing → answer ≠ .refused →
      ∀ row ∈ s.reversals.find? call.params.hostReversalId,
        row.entitlementId = e → row.status ≠ .reversalConfirmed
  | _ => True

instance (e : BookingId) (s : Reversals) : ∀ l, Decidable (Unobstructed e s l)
  | .requestReversal key _ =>
    inferInstanceAs (Decidable (key.entitlementId = e →
      key.amountMinor = 0 ∨ hasReversalKey key s.reversals = false))
  | .call c answer _ =>
    inferInstanceAs (Decidable (∀ call ∈ s.calls.find? c, call.phase = .failing → answer ≠ .refused →
      ∀ row ∈ s.reversals.find? call.params.hostReversalId,
        row.entitlementId = e → row.status ≠ .reversalConfirmed))
  | .transfers _ | .otherReversal _ | .executeReversal _ | .crash _ => isTrue trivial

variable {s : Reversals} {e : BookingId}

/-! ## One reversal for each row -/

/-- What Stripe and the calls know of a row is its key. -/
structure Keys (s : Reversals) : Prop where
  calls : ∀ c ∈ s.calls.rows,
    reversalKeyOf s.reversals c.params.hostReversalId = some c.params.idempotencyKey
  provider : ∀ r ∈ s.provider.rows, ∀ params, r.params = some params →
    reversalKeyOf s.reversals params.hostReversalId = some params.idempotencyKey
  keyed : ∀ r ∈ s.provider.rows, ∀ r' ∈ s.provider.rows, ∀ key,
    r.idempotencyKey = some key → r'.idempotencyKey = some key → r = r'

theorem Keys.start (t : Transfers) : (Reversals.start t).Keys := by
  constructor
  case calls => simp [Reversals.start]
  case provider => simp [Reversals.start]
  case keyed => simp [Reversals.start]

theorem Keys.single (h : s.Keys) : s.Single := by
  intro r hr r' hr' id hid hid'
  simp only [StripeReversal.hostReversalId, Option.map_eq_some_iff] at hid hid'
  obtain ⟨params, hparams, rfl⟩ := hid
  obtain ⟨params', hparams', hsame⟩ := hid'
  have hkey := h.provider r hr params hparams
  have hkey' := h.provider r' hr' params' hparams'
  rw [hsame, hkey] at hkey'
  have hkeys := Option.some.inj hkey'
  apply h.keyed r hr r' hr' params.idempotencyKey
  · simp [StripeReversal.idempotencyKey, hparams]
  · simp [StripeReversal.idempotencyKey, hparams', hkeys]

/-- Statements that keep the keys of the rows keep what is known of them. -/
theorem Keys.setReversals (h : s.Keys) {reversals : Table TransferReversal}
    (hkept : ∀ id key, reversalKeyOf s.reversals id = some key → reversalKeyOf reversals id = some key) :
    (s.setReversals reversals).Keys where
  calls c hc := hkept _ _ (h.calls c hc)
  provider r hr params hparams := hkept _ _ (h.provider r hr params hparams)
  keyed := h.keyed

theorem Keys.endCall (h : s.Keys) (call : ReversalCall) : (s.endCall call).Keys where
  calls c hc := h.calls c (List.mem_of_mem_filter hc)
  provider := h.provider
  keyed := h.keyed

theorem Keys.setPhase (h : s.Keys) (call : ReversalCall) (phase : ReversalPhase) :
    (s.setPhase call phase).Keys where
  calls c hc := by
    rcases (Table.mem_modify (by intro c; rfl)).mp hc with ⟨c', hc', -, rfl⟩ | ⟨hc', -⟩
    · exact h.calls c' hc'
    · exact h.calls c hc'
  provider := h.provider
  keyed := h.keyed

theorem Keys.step (h : s.Keys) (l : ReversalLabel) : (s.step l).Keys := by
  have hmoves := s.moves_step l
  generalize s.step l = s' at hmoves
  cases hmoves with
  | rests | throws => exact h
  | transfers l => exact ⟨h.calls, h.provider, h.keyed⟩
  | requests key now => exact h.setReversals fun id k hk => reversalKeyOf_requestReversal s.reversals hk
  | other transferId =>
    constructor
    case calls => exact h.calls
    case provider =>
      intro r hr params hparams
      rcases List.mem_append.mp hr with hr | hr
      · exact h.provider r hr params hparams
      · cases List.mem_singleton.mp hr
        cases hparams
    case keyed =>
      intro r hr r' hr' key hkey hkey'
      rcases List.mem_append.mp hr with hr | hr
      · rcases List.mem_append.mp hr' with hr' | hr'
        · exact h.keyed r hr r' hr' key hkey hkey'
        · cases List.mem_singleton.mp hr'
          cases hkey'
      · cases List.mem_singleton.mp hr
        cases hkey
  | executes reversalId params hread =>
    obtain ⟨hid, row, hrow, -, hkey⟩ := executeReversalParams_eq_ok hread
    constructor
    case calls =>
      intro c hc
      rcases List.mem_append.mp hc with hc | hc
      · exact h.calls c hc
      · cases List.mem_singleton.mp hc
        simp [reversalKeyOf, hid, hrow, hkey]
    case provider => exact h.provider
    case keyed => exact h.keyed
  | crashes call => exact ⟨fun c hc => h.calls c (List.mem_of_mem_filter hc), h.provider, h.keyed⟩
  | ends call answer now => exact h.endCall call
  | proceeds call answer now phase => exact h.setPhase call phase
  | creates call answer now phase hcall hnone =>
    have hnew : ∀ r ∈ s.provider.rows, r.idempotencyKey ≠ some call.params.idempotencyKey := by
      simpa [reversalByKey] using hnone
    constructor
    case calls => exact (h.setPhase call phase).calls
    case provider =>
      intro r hr params hparams
      rcases List.mem_append.mp hr with hr | hr
      · exact h.provider r hr params hparams
      · cases List.mem_singleton.mp hr
        cases hparams
        exact h.calls call (Table.mem_of_find? hcall)
    case keyed =>
      intro r hr r' hr' key hkey hkey'
      rcases List.mem_append.mp hr with hr | hr
      · rcases List.mem_append.mp hr' with hr' | hr'
        · exact h.keyed r hr r' hr' key hkey hkey'
        · cases List.mem_singleton.mp hr'
          cases hkey'
          exact absurd hkey (hnew r hr)
      · cases List.mem_singleton.mp hr
        cases hkey
        rcases List.mem_append.mp hr' with hr' | hr'
        · exact absurd hkey' (hnew r' hr')
        · exact (List.mem_singleton.mp hr').symm
  | confirms call answer now providerReversalId s' hs' =>
    rcases hs' with rfl | rfl
    · apply (h.endCall call).setReversals
      intro id key hkey
      simpa using hkey
    · apply (h.setPhase call .failing).setReversals
      intro id key hkey
      simpa using hkey
  | fails call answer now hcall hphase hanswer =>
    apply (h.endCall call).setReversals
    intro id key hkey
    simpa using hkey

/-! ## What is recorded -/

theorem isSome_entitlement_step (h : (s.entitlement e).isSome) (l : ReversalLabel) :
    ((s.step l).entitlement e).isSome := by
  have hmoves := s.moves_step l
  generalize s.step l = s' at hmoves
  cases hmoves with
  | transfers l =>
    obtain ⟨row, hrow⟩ := Option.isSome_iff_exists.mp h
    obtain ⟨row', hrow', -⟩ := s.transfers.row_step l hrow
    exact Option.isSome_iff_exists.mpr ⟨row', hrow'⟩
  | confirms call answer now providerReversalId s' hs' =>
    rcases hs' with rfl | rfl
    · exact h
    · exact h
  | _ => exact h

/-- A step records what it asks for, unless it is a request and a row has its key. -/
theorem recordedAmount_step (h : (s.entitlement e).isSome) (l : ReversalLabel) :
    recordedAmount (s.step l).reversals e = recordedAmount s.reversals e + requestedAmount e l ↔
      ∀ key now, l = .requestReversal key now → key.entitlementId = e →
        key.amountMinor = 0 ∨ hasReversalKey key s.reversals = false := by
  have hmoves := s.moves_step l
  generalize s.step l = s' at hmoves
  cases hmoves with
  | rests l hl =>
    have hzero : requestedAmount e l = 0 := by
      cases l with
      | requestReversal key now => exact absurd rfl (hl key now)
      | _ => rfl
    simp [hzero, hl]
  | throws key now hnone =>
    have hne : key.entitlementId ≠ e := by
      rintro rfl
      simp [hnone] at h
    simp [requestedAmount, hne]
  | requests key now =>
    simp only [reversals_setReversals, recordedAmount_requestReversal, requestedAmount]
    by_cases he : key.entitlementId = e
    · cases hkey : hasReversalKey key s.reversals with
      | true =>
        simp only [he, Bool.true_eq_false, and_false, if_false, if_true]
        constructor
        · rintro hsum _ _ ⟨⟩ -
          left
          omega
        · intro hclean
          have hzero : key.amountMinor = 0 := by simpa [hkey] using hclean key now rfl he
          omega
      | false => simp [he, hkey]
    · simp [he]
  | confirms call answer now providerReversalId s' hs' => simp [requestedAmount]
  | fails call answer now hcall hphase hanswer => simp [requestedAmount]
  | _ => simp [requestedAmount]

/-! ## What is confirmed -/

/-- Only the failure of a call makes a confirmed row fail. -/
theorem unconfirms_iff (l : ReversalLabel) :
    Unconfirms e s l ↔
      ∃ call answer now row, l = .call call.id answer now ∧ s.calls.find? call.id = some call ∧
        call.phase = .failing ∧ answer ≠ .refused ∧
        s.reversals.find? call.params.hostReversalId = some row ∧ row.entitlementId = e ∧
        row.status = .reversalConfirmed := by
  constructor
  · rintro ⟨id, row, row', hrow, he, hconfirmed, hrow', hfailed⟩
    have hmoves := s.moves_step l
    generalize s.step l = s' at hmoves hrow'
    cases hmoves with
    | requests key now =>
      have hne : id ≠ s.reversals.freshKey := by
        rintro rfl
        simp at hrow
      simp only [reversals_setReversals, requestReversal] at hrow'
      split at hrow'
      · simp_all
      · simp_all
    | confirms call answer now providerReversalId s' hs' =>
      simp only [reversals_setReversals, confirmReversal, Table.find?_modify] at hrow'
      split at hrow'
      · simp only [Option.map_eq_some_iff] at hrow'
        obtain ⟨_, -, rfl⟩ := hrow'
        cases hfailed
      · simp_all
    | fails call answer now hcall hphase hanswer =>
      simp only [reversals_setReversals, markReversalFailed, Table.find?_modify] at hrow'
      split at hrow'
      · rename_i hid
        rw [hid] at hrow
        exact ⟨call, answer, now, row, rfl, hcall, hphase, hanswer, hrow, he, hconfirmed⟩
      · simp_all
    | _ => simp_all
  · rintro ⟨call, answer, now, row, rfl, hcall, hphase, hanswer, hrow, he, hconfirmed⟩
    refine ⟨call.params.hostReversalId, row, { row with status := .reversalFailed }, hrow, he, hconfirmed, ?_, rfl⟩
    cases answer with
    | refused => exact absurd rfl hanswer
    | answered | lost => simp [step, hcall, stepCall, hphase, markReversalFailed, hrow]

theorem unobstructed_iff (h : (s.entitlement e).isSome) (l : ReversalLabel) :
    recordedAmount (s.step l).reversals e = recordedAmount s.reversals e + requestedAmount e l ∧
        ¬ Unconfirms e s l ↔
      Unobstructed e s l := by
  rw [recordedAmount_step h, unconfirms_iff]
  cases l with
  | requestReversal key now => simp [Unobstructed]
  | call c answer now =>
    simp only [Unobstructed, reduceCtorEq, false_implies, implies_true, true_and, not_exists, not_and]
    constructor
    · intro hfails call hcall hphase hanswer row hrow
      obtain rfl : call.id = c := Table.key_of_find? hcall
      exact hfails call answer now row rfl hcall hphase hanswer hrow
    · rintro hguard call _ _ row ⟨⟩ hcall hphase hanswer hrow
      exact hguard call hcall hphase hanswer row hrow
  | _ => simp [Unobstructed]

/-- From a system in which no reversal was requested yet, the recorded reversals of an entitlement's
transfer add up to the requested ones and stay confirmed exactly if no step of the run is
obstructed. Each row has at most one reversal at Stripe in any case. -/
theorem accounted_iff {t : Transfers} (hentitlement : (t.world.db.entitlements.find? e).isSome)
    (ls : List ReversalLabel) :
    Accounted e (.start t) ls ↔ Guarded step (Unobstructed e) (.start t) ls := by
  have hkeys : ∀ pre, (run step (.start t) pre).Keys := run_invariant' (fun s l h => h.step l) (.start t)
  have hguards : Guarded step
      (fun s l => recordedAmount (s.step l).reversals e = recordedAmount s.reversals e + requestedAmount e l ∧
        ¬ Unconfirms e s l) (.start t) ls ↔ Guarded step (Unobstructed e) (.start t) ls :=
    guarded_congr (I := fun s => (s.entitlement e).isSome) (fun s l h => isSome_entitlement_step h l)
      (fun s l h => unobstructed_iff h l) hentitlement
  have hrecorded : (∀ pre suf, ls = pre ++ suf →
      recordedAmount (run step (.start t) pre).reversals e =
        recordedAmount (start t).reversals e + (pre.map (requestedAmount e)).sum) ↔
      Guarded step (fun s l => recordedAmount (s.step l).reversals e =
        recordedAmount s.reversals e + requestedAmount e l) (.start t) ls := by
    exact accounts_iff_guarded (m := fun s : Reversals => recordedAmount s.reversals e)
  rw [← hguards, guarded_and, ← hrecorded, guarded_iff]
  constructor
  · intro h
    exact ⟨h.recorded, h.confirmed⟩
  · rintro ⟨hsum, hconfirmed⟩
    exact ⟨hsum, fun pre suf _ => (hkeys pre).single, hconfirmed⟩

end Reversals

/-! ## Two equal refunds, and a lost answer -/

/-- The transfer of the entitlement of booking 1 has been made. -/
def releasedTransfers : Transfers := run Transfers.step (.start entitledWorld) releasedOnce

def sampleReversal (amountMinor : Int) : ReversalKey := ⟨1, .refund, amountMinor⟩

/-- Two refunds of different amounts, executed one after the other, the first one twice. -/
def reversedInTurn : List ReversalLabel :=
  [ .requestReversal (sampleReversal 500) 0, .requestReversal (sampleReversal 700) 1,
    .executeReversal 1, .executeReversal 1,
    .call 1 .answered 2, .call 1 .answered 2, .call 1 .answered 2,
    .call 2 .answered 3, .call 2 .answered 3,
    .executeReversal 2, .call 1 .answered 4, .call 1 .refused 4, .call 1 .answered 4 ]

theorem reversedInTurn_accounted : Reversals.Accounted 1 (.start releasedTransfers) reversedInTurn :=
  (Reversals.accounted_iff (by decide) reversedInTurn).mpr (by decide)

/-- Two refunds of one amount, and two executions of the first at once: Stripe's answer to the
second of them is lost. -/
def reversedTwice : List ReversalLabel :=
  [ .requestReversal (sampleReversal 500) 0, .requestReversal (sampleReversal 500) 1,
    .executeReversal 1, .executeReversal 1,
    .call 1 .answered 2, .call 2 .answered 2, .call 1 .answered 3, .call 1 .answered 3,
    .call 2 .lost 3, .call 2 .answered 3 ]

/-- One refund of the two is not recorded, and the other is failed although it was confirmed. -/
theorem reversedTwice_lost :
    recordedAmount (run Reversals.step (.start releasedTransfers) reversedTwice).reversals 1 = 500 ∧
      (run Reversals.step (.start releasedTransfers) reversedTwice).provider.rows.length = 1 ∧
      Reversals.Unconfirms 1 (run Reversals.step (.start releasedTransfers) (reversedTwice.take 9))
        (.call 2 .answered 3) ∧
      ¬ Reversals.Accounted 1 (.start releasedTransfers) reversedTwice := by
  refine ⟨?_, by decide, ?_, fun h => ?_⟩
  · rw [recordedAmount_eq]
    decide
  · refine ⟨1, _, _, (Option.some_get (by decide)).symm, by decide, by decide,
      (Option.some_get (by decide)).symm, by decide⟩
  · have hsum := h.recorded reversedTwice [] (List.append_nil _).symm
    rw [recordedAmount_eq, recordedAmount_eq] at hsum
    exact absurd hsum (by decide)

end HostPlatform
