-- SUMMARY: The system with transfer reversals: requests and executions of them, statement by statement, among everything else that runs.
import HostPlatform.Payouts.TransferReversal
import HostPlatform.Transfers

/-!
# Transfer reversals in progress

Anyone may request a reversal, and any number of calls may execute one. Stripe keeps one
reversal for an idempotency key. The answer to a request of a call, or to a statement it
issues, may be lost, and a call may stop anywhere.
-/

namespace HostPlatform

open Lib (Keyed Table)

/-- Where a call of `executeReversal` is, once it has read its row. -/
inductive ReversalPhase where
  | listing
  | creating
  | confirming (providerReversalId : Nat)
  | failing
  deriving DecidableEq, Repr

structure ReversalCall where
  id : Nat
  params : ReversalParams
  phase : ReversalPhase
  deriving DecidableEq, Repr

instance : Keyed ReversalCall := ⟨ReversalCall.id⟩

structure Reversals where
  transfers : Transfers
  reversals : Table TransferReversal
  provider : Table StripeReversal
  calls : Table ReversalCall

/-- The system before any reversal is requested. -/
def Reversals.start (t : Transfers) : Reversals := ⟨t, .empty, .empty, .empty⟩

inductive ReversalLabel where
  | transfers (l : TransferLabel)
  | requestReversal (key : ReversalKey) (now : Int)
  | otherReversal (transferId : TransferId)
  | executeReversal (reversalId : Nat)
  | call (call : Nat) (answer : TransferAnswer) (now : Int)
  | crash (call : Nat)

namespace Reversals

def entitlement (s : Reversals) (e : BookingId) : Option Entitlement :=
  s.transfers.world.db.entitlements.find? e

def setReversals (s : Reversals) (reversals : Table TransferReversal) : Reversals :=
  { s with reversals := reversals }

def endCall (s : Reversals) (call : ReversalCall) : Reversals :=
  { s with calls := s.calls.deleteWhere fun c => c.id == call.id }

def setPhase (s : Reversals) (call : ReversalCall) (phase : ReversalPhase) : Reversals :=
  { s with calls := s.calls.modify call.id fun c => { c with phase := phase } }

@[simp] theorem reversals_setReversals (s : Reversals) (reversals : Table TransferReversal) :
    (s.setReversals reversals).reversals = reversals := rfl
@[simp] theorem reversals_endCall (s : Reversals) (call : ReversalCall) :
    (s.endCall call).reversals = s.reversals := rfl
@[simp] theorem reversals_setPhase (s : Reversals) (call : ReversalCall) (phase : ReversalPhase) :
    (s.setPhase call phase).reversals = s.reversals := rfl

/-- The row refers to an entitlement, so without one the insert throws. -/
def request (s : Reversals) (key : ReversalKey) (now : Int) : Reversals :=
  match s.entitlement key.entitlementId with
  | none => s
  | some _ => s.setReversals (requestReversal key now s.reversals).2

/-- A call up to its first request. -/
def execute (s : Reversals) (reversalId : Nat) : Reversals :=
  match executeReversalParams reversalId s.reversals s.transfers.world.db with
  | .error _ => s
  | .ok params => { s with calls := s.calls.insertNew fun id => ⟨id, params, .listing⟩ }

/-- One step of `executeReversal`. Errors of the creation and of the confirmation are caught,
errors of the listing are not. -/
def stepCall (s : Reversals) (call : ReversalCall) (answer : TransferAnswer) (now : Int) : Reversals :=
  match call.phase with
  | .listing =>
    match answer with
    | .answered =>
      match listedReversal s.provider call.params with
      | some r => s.setPhase call (.confirming r.id)
      | none => s.setPhase call .creating
    | .lost | .refused => s.endCall call
  | .creating =>
    match answer with
    | .refused => s.setPhase call .failing
    | .answered | .lost =>
      let (created, provider) := createReversal s.provider call.params
      match created, answer with
      | some providerReversalId, .answered =>
        { s.setPhase call (.confirming providerReversalId) with provider := provider }
      | _, _ => { s.setPhase call .failing with provider := provider }
  | .confirming providerReversalId =>
    let confirmed := confirmReversal call.params.hostReversalId providerReversalId now s.reversals
    match answer with
    | .answered => (s.endCall call).setReversals confirmed
    | .lost => (s.setPhase call .failing).setReversals confirmed
    | .refused => s.setPhase call .failing
  | .failing =>
    match answer with
    | .answered | .lost =>
      (s.endCall call).setReversals (markReversalFailed call.params.hostReversalId s.reversals)
    | .refused => s.endCall call

def step (s : Reversals) : ReversalLabel → Reversals
  | .transfers l => { s with transfers := s.transfers.step l }
  | .requestReversal key now => s.request key now
  | .otherReversal transferId =>
    { s with provider := s.provider.insertNew fun id => ⟨id, transferId, none⟩ }
  | .executeReversal reversalId => s.execute reversalId
  | .call call answer now =>
    match s.calls.find? call with
    | some c => s.stepCall c answer now
    | none => s
  | .crash call => { s with calls := s.calls.deleteWhere fun c => c.id == call }

/-! ## What a step does -/

/-- All that a step can make of the system. -/
inductive Moves (s : Reversals) : ReversalLabel → Reversals → Prop
  | rests (l : ReversalLabel) (hl : ∀ key now, l ≠ .requestReversal key now) : Moves s l s
  | transfers (l : TransferLabel) : Moves s (.transfers l) { s with transfers := s.transfers.step l }
  | throws (key : ReversalKey) (now : Int) (hnone : s.entitlement key.entitlementId = none) :
      Moves s (.requestReversal key now) s
  | requests (key : ReversalKey) (now : Int) :
      Moves s (.requestReversal key now) (s.setReversals (requestReversal key now s.reversals).2)
  | other (transferId : TransferId) :
      Moves s (.otherReversal transferId)
        { s with provider := s.provider.insertNew fun id => ⟨id, transferId, none⟩ }
  | executes (reversalId : Nat) (params : ReversalParams)
      (hread : executeReversalParams reversalId s.reversals s.transfers.world.db = .ok params) :
      Moves s (.executeReversal reversalId)
        { s with calls := s.calls.insertNew fun id => ⟨id, params, .listing⟩ }
  | crashes (call : Nat) :
      Moves s (.crash call) { s with calls := s.calls.deleteWhere fun c => c.id == call }
  | ends (call : ReversalCall) (answer : TransferAnswer) (now : Int) :
      Moves s (.call call.id answer now) (s.endCall call)
  | proceeds (call : ReversalCall) (answer : TransferAnswer) (now : Int) (phase : ReversalPhase) :
      Moves s (.call call.id answer now) (s.setPhase call phase)
  | creates (call : ReversalCall) (answer : TransferAnswer) (now : Int) (phase : ReversalPhase)
      (hcall : s.calls.find? call.id = some call)
      (hnone : reversalByKey s.provider call.params.idempotencyKey = none) :
      Moves s (.call call.id answer now)
        { s.setPhase call phase with
          provider := s.provider.insertNew (createdReversal call.params) (key_createdReversal call.params) }
  | confirms (call : ReversalCall) (answer : TransferAnswer) (now : Int) (providerReversalId : Nat)
      (s' : Reversals) (hs' : s' = s.endCall call ∨ s' = s.setPhase call .failing) :
      Moves s (.call call.id answer now)
        (s'.setReversals (confirmReversal call.params.hostReversalId providerReversalId now s.reversals))
  | fails (call : ReversalCall) (answer : TransferAnswer) (now : Int)
      (hcall : s.calls.find? call.id = some call) (hphase : call.phase = .failing)
      (hanswer : answer ≠ .refused) :
      Moves s (.call call.id answer now)
        ((s.endCall call).setReversals (markReversalFailed call.params.hostReversalId s.reversals))

theorem moves_stepCall (s : Reversals) {call : ReversalCall} (hcall : s.calls.find? call.id = some call)
    (answer : TransferAnswer) (now : Int) :
    s.Moves (.call call.id answer now) (s.stepCall call answer now) := by
  unfold stepCall
  split
  case h_1 hphase =>
    split
    · split
      · exact .proceeds ..
      · exact .proceeds ..
    · exact .ends ..
    · exact .ends ..
  case h_2 hphase =>
    -- whatever Stripe answers, it has made one reversal or none
    have hcreated : ∀ phase, s.Moves (.call call.id answer now)
        { s.setPhase call phase with provider := (createReversal s.provider call.params).2 } := by
      intro phase
      rcases createReversal_cases s.provider call.params with hsame | ⟨hnone, hnew⟩
      · rw [hsame]
        exact .proceeds ..
      · rw [hnew]
        exact .creates call answer now phase hcall hnone
    split
    · exact .proceeds ..
    · simp only
      split
      · exact hcreated _
      · exact hcreated _
    · simp only
      split
      · exact hcreated _
      · exact hcreated _
  case h_3 providerReversalId hphase =>
    simp only
    split
    · exact .confirms call .answered now providerReversalId _ (.inl rfl)
    · exact .confirms call .lost now providerReversalId _ (.inr rfl)
    · exact .proceeds ..
  case h_4 hphase =>
    split
    · exact .fails call .answered now hcall hphase nofun
    · exact .fails call .lost now hcall hphase nofun
    · exact .ends ..

theorem moves_step (s : Reversals) (l : ReversalLabel) : s.Moves l (s.step l) := by
  cases l with
  | transfers l => exact .transfers l
  | requestReversal key now =>
    simp only [step, request]
    split
    · rename_i hnone
      exact .throws key now hnone
    · exact .requests key now
  | otherReversal transferId => exact .other transferId
  | executeReversal reversalId =>
    simp only [step, execute]
    split
    · exact .rests _ (by rintro key now ⟨⟩)
    · rename_i params hread
      exact .executes reversalId params hread
  | call c answer now =>
    simp only [step]
    split
    · rename_i call hcall
      obtain rfl : call.id = c := Table.key_of_find? hcall
      exact s.moves_stepCall hcall answer now
    · exact .rests _ (by rintro key now ⟨⟩)
  | crash call => exact .crashes call

end Reversals

end HostPlatform
