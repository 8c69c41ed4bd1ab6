-- SUMMARY: The system with host transfers: finds, claims and releases of entitlements, statement by statement, among everything else that runs.
import HostPlatform.Payouts.HostTransfers
import HostPlatform.WorldDb

/-!
# Host transfers in progress

Nothing in the program calls `findReleaseDueEntitlementIds`, `claimEntitlement` and
`attemptRelease` yet. Here any number of workers do, beside the system of `World`.
A worker finds entitlements and claims some of them; anyone may attempt a release.
Stripe keeps one transfer for an idempotency key, answers the same parameters with it,
and refuses others. Its answer may be lost, and a call may stop anywhere.
-/

namespace HostPlatform

open Lib (Keyed Table)

/-! ## Stripe's side -/

/-- A transfer; the ones of other code carry no entitlement. -/
structure StripeTransfer where
  id : TransferId
  destination : Nat
  params : Option TransferParams
  deriving DecidableEq, Repr

instance : Keyed StripeTransfer := ⟨StripeTransfer.id⟩

def StripeTransfer.hostEntitlementId (t : StripeTransfer) : Option BookingId :=
  t.params.map TransferParams.hostEntitlementId

def transferListLimit : Nat := 20

/-- `transfers.list({ destination, limit: 20 })`, the latest first, and the first of them
with the entitlement in its metadata. -/
def listedTransfer (transfers : Table StripeTransfer) (params : TransferParams) :
    Option StripeTransfer :=
  let listed := transfers.rows.reverse.filter fun t => decide (t.destination = params.destination)
  (listed.take transferListLimit).find? fun t =>
    decide (t.hostEntitlementId = some params.hostEntitlementId)

/-- The transfer made under the idempotency key of the entitlement. -/
def transferByKey (transfers : Table StripeTransfer) (b : BookingId) : Option StripeTransfer :=
  transfers.rows.find? fun t => decide (t.hostEntitlementId = some b)

def createdTransfer (params : TransferParams) (id : TransferId) : StripeTransfer :=
  { id := id
    destination := params.destination
    params := some params }

def makeTransfer (transfers : Table StripeTransfer) (params : TransferParams) : Table StripeTransfer :=
  transfers.insertNew (createdTransfer params)

@[simp] theorem rows_makeTransfer (transfers : Table StripeTransfer) (params : TransferParams) :
    (makeTransfer transfers params).rows =
      transfers.rows ++ [createdTransfer params transfers.freshKey] := rfl

/-- Stripe's part of `transfers.create`: the id it answers with, or an error. -/
def requestTransfer (transfers : Table StripeTransfer) (params : TransferParams) :
    Option TransferId × Table StripeTransfer :=
  match transferByKey transfers params.hostEntitlementId with
  | some t => (if t.params = some params then some t.id else none, transfers)
  | none => (some transfers.freshKey, makeTransfer transfers params)

/-! ## Calls in progress -/

structure ReleaseWorker where
  id : Nat
  found : List BookingId
  deriving DecidableEq, Repr

/-- Where a call of `attemptRelease` is, once it has read its row. -/
inductive ReleasePhase where
  | listing (params : TransferParams)
  | creating (params : TransferParams)
  | failing
  | recording (transferId : TransferId)
  deriving DecidableEq, Repr

structure ReleaseCall where
  id : Nat
  entitlementId : BookingId
  phase : ReleasePhase
  deriving DecidableEq, Repr

instance : Keyed ReleaseWorker := ⟨ReleaseWorker.id⟩
instance : Keyed ReleaseCall := ⟨ReleaseCall.id⟩

structure Transfers where
  world : World
  transfers : Table StripeTransfer
  workers : Table ReleaseWorker
  releases : Table ReleaseCall

/-- The system before anything of it is in progress. -/
def Transfers.start (w : World) : Transfers := ⟨w, .empty, .empty, .empty⟩

/-- What happens to a request: it is answered, its answer is lost, or Stripe refuses it. -/
inductive TransferAnswer where
  | answered | lost | refused
  deriving DecidableEq, Repr

inductive TransferLabel where
  | system (l : Label)
  | setConnectAccount (hostId : HostId) (account : Option Nat)
  | otherTransfer (destination : Nat)
  | findReleaseDue (now : Int) (ids : List BookingId)
  | claim (worker : Nat) (entitlementId : BookingId)
  | workerCrash (worker : Nat)
  | attemptRelease (enabled : Bool) (entitlementId : BookingId)
  | release (call : Nat) (answer : TransferAnswer)
  | releaseCrash (call : Nat)

/-! ## Steps -/

namespace Transfers

def setDb (s : Transfers) (db : Db) : Transfers := { s with world := { s.world with db := db } }

def endRelease (s : Transfers) (call : ReleaseCall) : Transfers :=
  { s with releases := s.releases.deleteWhere fun c => c.id == call.id }

def setPhase (s : Transfers) (call : ReleaseCall) (phase : ReleasePhase) : Transfers :=
  { s with releases := s.releases.modify call.id fun c => { c with phase := phase } }

/-- A worker claims the next entitlement it found. -/
def claim (s : Transfers) (worker : ReleaseWorker) (b : BookingId) : Transfers :=
  if b ∈ worker.found then
    { s.setDb (claimEntitlement b s.world.db).2 with
      workers := s.workers.modify worker.id fun w => { w with found := w.found.erase b } }
  else s

/-- A call up to its first request. -/
def attemptRelease (s : Transfers) (enabled : Bool) (b : BookingId) : Transfers :=
  match releaseParams enabled b s.world.db with
  | .error _ => s
  | .ok params => { s with releases := s.releases.insertNew fun id => ⟨id, b, .listing params⟩ }

/-- One step of `attemptRelease`. Only an error of the creation is caught. -/
def stepRelease (s : Transfers) (call : ReleaseCall) (answer : TransferAnswer) : Transfers :=
  match call.phase with
  | .listing params =>
    match answer with
    | .answered =>
      match listedTransfer s.transfers params with
      | some t => s.setPhase call (.recording t.id)
      | none => s.setPhase call (.creating params)
    | .lost | .refused => s.endRelease call
  | .creating params =>
    match answer with
    | .refused => s.setPhase call .failing
    | .answered | .lost =>
      let (created, transfers) := requestTransfer s.transfers params
      match created, answer with
      | some transferId, .answered =>
        { s.setPhase call (.recording transferId) with transfers := transfers }
      | _, _ => { s.setPhase call .failing with transfers := transfers }
  | .failing => (s.endRelease call).setDb (markTransferFailed call.entitlementId s.world.db)
  | .recording transferId =>
    (s.endRelease call).setDb (markTransferCreated call.entitlementId transferId s.world.db)

def setConnectAccount (s : Transfers) (hostId : HostId) (account : Option Nat) : Transfers :=
  s.setDb { s.world.db with
    hostProfiles := s.world.db.hostProfiles.modify hostId fun h =>
      { h with stripeConnectAccountId := account } }

def step (s : Transfers) : TransferLabel → Transfers
  | .system l => { s with world := s.world.step l }
  | .setConnectAccount hostId account => s.setConnectAccount hostId account
  | .otherTransfer destination =>
    { s with transfers := s.transfers.insertNew fun id => ⟨id, destination, none⟩ }
  | .findReleaseDue now ids =>
    { s with
      workers := s.workers.insertNew fun id =>
        ⟨id, findReleaseDueEntitlementIds s.world.db now ids⟩ }
  | .claim worker b =>
    match s.workers.find? worker with
    | some w => s.claim w b
    | none => s
  | .workerCrash worker => { s with workers := s.workers.deleteWhere fun w => w.id == worker }
  | .attemptRelease enabled b => s.attemptRelease enabled b
  | .release call answer =>
    match s.releases.find? call with
    | some c => s.stepRelease c answer
    | none => s
  | .releaseCrash call => { s with releases := s.releases.deleteWhere fun c => c.id == call }

end Transfers

/-! ## What the rest of the system does to entitlements -/

/-- An entitlement nothing has been done with. -/
def Entitlement.Untouched (e : Entitlement) : Prop := e.status = .entitled ∧ e.providerTransferId = none

instance (e : Entitlement) : Decidable e.Untouched :=
  inferInstanceAs (Decidable (e.status = .entitled ∧ e.providerTransferId = none))

theorem createEntitlement_find? (input : EntitlementInput) (db : Db) (b : BookingId) :
    (createEntitlement input db).entitlements.find? b = db.entitlements.find? b ∨
      db.entitlements.find? b = none ∧
        (createEntitlement input db).entitlements.find? b = some (entitlementRow input) := by
  unfold createEntitlement
  split
  · rename_i entitlements hins
    rw [Table.find?_tryInsert hins]
    split
    · rename_i hb
      have hnone : db.entitlements.find? b = none := by
        rw [hb]
        exact Table.find?_eq_none_of_tryInsert hins
      exact .inr ⟨hnone, rfl⟩
    · exact .inl rfl
  · exact .inl rfl

/-- A row after a step of the system is the old one, or a new and untouched one. -/
theorem World.entitlement_step (w : World) (l : Label) (b : BookingId) :
    (w.step l).db.entitlements.find? b = w.db.entitlements.find? b ∨
      w.db.entitlements.find? b = none ∧
        ∃ e, (w.step l).db.entitlements.find? b = some e ∧ e.Untouched := by
  rcases w.dbStep l with h | ⟨t, h⟩
  · rw [h]
    exact .inl rfl
  · rw [h]
    rcases (t.payouts_entitlements w.db).2 with hsame | ⟨input, rfl⟩
    · rw [hsame]
      exact .inl rfl
    · rcases createEntitlement_find? input w.db b with hsame | ⟨hnone, hnew⟩
      · exact .inl hsame
      · exact .inr ⟨hnone, _, hnew, rfl, rfl⟩

/-! ## What a step does -/

namespace Transfers

/-- What a step can make of an entitlement's row. -/
inductive RowStep (s : Transfers) (l : TransferLabel) (e : Entitlement) : Entitlement → Prop
  | same : RowStep s l e e
  | claimed (worker : ReleaseWorker) (hl : l = .claim worker.id e.bookingId)
      (hworker : s.workers.find? worker.id = some worker) (hfound : e.bookingId ∈ worker.found)
      (hentitled : e.status = .entitled) :
      RowStep s l e { e with status := .transferClaimed }
  | failed (call : ReleaseCall) (answer : TransferAnswer) (hl : l = .release call.id answer)
      (hcall : s.releases.find? call.id = some call) (hentitlement : call.entitlementId = e.bookingId)
      (hphase : call.phase = .failing) : RowStep s l e { e with status := .transferFailed }
  | created (call : ReleaseCall) (answer : TransferAnswer) (transferId : TransferId)
      (hl : l = .release call.id answer) (hcall : s.releases.find? call.id = some call)
      (hentitlement : call.entitlementId = e.bookingId) (hphase : call.phase = .recording transferId) :
      RowStep s l e { e with status := .transferCreated, providerTransferId := some transferId }

/-- What a step can make of the transfers at Stripe. -/
inductive StripeStep (s : Transfers) (l : TransferLabel) : Table StripeTransfer → Prop
  | same : StripeStep s l s.transfers
  | other (destination : Nat) : StripeStep s l (s.transfers.insertNew fun id => ⟨id, destination, none⟩)
  | created (call : ReleaseCall) (answer : TransferAnswer) (params : TransferParams)
      (hl : l = .release call.id answer) (hcall : s.releases.find? call.id = some call)
      (hphase : call.phase = .creating params) (hanswer : answer ≠ .refused)
      (hnone : transferByKey s.transfers params.hostEntitlementId = none) :
      StripeStep s l (makeTransfer s.transfers params)

/-- Where a release call after a step comes from. -/
inductive CallStep (s : Transfers) (l : TransferLabel) : ReleaseCall → Prop
  | same (call : ReleaseCall) (hcall : s.releases.find? call.id = some call) : CallStep s l call
  | read (id : Nat) (enabled : Bool) (b : BookingId) (params : TransferParams)
      (hl : l = .attemptRelease enabled b) (hread : releaseParams enabled b s.world.db = .ok params) :
      CallStep s l ⟨id, b, .listing params⟩
  | listed (call : ReleaseCall) (params : TransferParams) (t : StripeTransfer)
      (hcall : s.releases.find? call.id = some call) (hphase : call.phase = .listing params)
      (hlisted : listedTransfer s.transfers params = some t) :
      CallStep s l { call with phase := .recording t.id }
  | unlisted (call : ReleaseCall) (params : TransferParams)
      (hcall : s.releases.find? call.id = some call) (hphase : call.phase = .listing params) :
      CallStep s l { call with phase := .creating params }
  | created (call : ReleaseCall) (params : TransferParams) (transferId : TransferId)
      (hcall : s.releases.find? call.id = some call) (hphase : call.phase = .creating params)
      (hcreated : requestTransfer s.transfers params = (some transferId, (s.step l).transfers)) :
      CallStep s l { call with phase := .recording transferId }
  | failed (call : ReleaseCall) (params : TransferParams)
      (hcall : s.releases.find? call.id = some call) (hphase : call.phase = .creating params) :
      CallStep s l { call with phase := .failing }

variable (s : Transfers)

@[simp] theorem db_setDb (db : Db) : (s.setDb db).world.db = db := rfl

/-- What a step writes to the entitlements: nothing, what the rest of the system inserts,
or one row that makes a move. -/
inductive RowsStep (l : TransferLabel) (entitlements : Table Entitlement) : Prop
  | same (h : entitlements = s.world.db.entitlements)
  | system (l' : Label) (h : entitlements = (s.world.step l').db.entitlements)
  | wrote (b : BookingId) (f : Entitlement → Entitlement) (hf : ∀ e, Lib.key (f e) = Lib.key e)
      (h : entitlements = s.world.db.entitlements.modify b f hf)
      (hmove : ∀ e, s.world.db.entitlements.find? b = some e → s.RowStep l e (f e))

theorem rows_step (l : TransferLabel) : s.RowsStep l (s.step l).world.db.entitlements := by
  cases l with
  | system l => exact .system l rfl
  | setConnectAccount hostId account => exact .same rfl
  | otherTransfer destination => exact .same rfl
  | findReleaseDue now ids => exact .same rfl
  | workerCrash worker => exact .same rfl
  | releaseCrash call => exact .same rfl
  | claim worker b =>
    simp only [step]
    split
    · rename_i w hw
      obtain rfl : w.id = worker := Table.key_of_find? hw
      unfold claim
      split
      · rename_i hfound
        simp only [db_setDb]
        unfold claimEntitlement
        split
        · exact .same rfl
        · rename_i claimed hclaimed
          refine .wrote b _ (by intro e; rfl) rfl fun e he => ?_
          rw [he] at hclaimed
          obtain rfl : e.bookingId = b := Table.key_of_find? he
          have hentitled := (Option.filter_eq_some_iff.mp hclaimed).2
          obtain rfl : e = claimed := Option.some.inj (Option.filter_eq_some_iff.mp hclaimed).1
          exact .claimed w rfl hw hfound (of_decide_eq_true hentitled)
      · exact .same rfl
    · exact .same rfl
  | attemptRelease enabled b =>
    simp only [step, attemptRelease]
    split
    · exact .same rfl
    · exact .same rfl
  | release c answer =>
    simp only [step]
    split
    · rename_i call hcall
      obtain rfl : call.id = c := Table.key_of_find? hcall
      unfold stepRelease
      split
      · split
        · split
          · exact .same rfl
          · exact .same rfl
        · exact .same rfl
        · exact .same rfl
      · split
        · exact .same rfl
        · simp only
          split
          · exact .same rfl
          · exact .same rfl
        · simp only
          split
          · exact .same rfl
          · exact .same rfl
      · rename_i hphase
        refine .wrote call.entitlementId _ (by intro e; rfl) rfl fun e he => ?_
        exact .failed call answer rfl hcall (Table.key_of_find? he).symm hphase
      · rename_i transferId hphase
        refine .wrote call.entitlementId _ (by intro e; rfl) rfl fun e he => ?_
        exact .created call answer transferId rfl hcall (Table.key_of_find? he).symm hphase
    · exact .same rfl

/-- A row stays over a step, and makes one of the moves. -/
theorem row_step (l : TransferLabel) {b : BookingId} {e : Entitlement}
    (he : s.world.db.entitlements.find? b = some e) :
    ∃ e', (s.step l).world.db.entitlements.find? b = some e' ∧ s.RowStep l e e' := by
  cases s.rows_step l with
  | same h => exact ⟨e, by rw [h, he], .same⟩
  | system l' h =>
    rw [h]
    rcases s.world.entitlement_step l' b with hrow | ⟨hnone, -⟩
    · exact ⟨e, hrow.trans he, .same⟩
    · rw [he] at hnone
      cases hnone
  | wrote b' f hf h hmove =>
    rw [h, Table.find?_modify]
    split
    · rename_i hb
      subst hb
      rw [he]
      exact ⟨f e, rfl, hmove e he⟩
    · exact ⟨e, he, .same⟩

/-- A row after a step is an old one that made a move, or a new and untouched one. -/
theorem row_cases (l : TransferLabel) {b : BookingId} {e' : Entitlement}
    (he' : (s.step l).world.db.entitlements.find? b = some e') :
    (∃ e, s.world.db.entitlements.find? b = some e ∧ s.RowStep l e e') ∨
      s.world.db.entitlements.find? b = none ∧ e'.Untouched := by
  cases he : s.world.db.entitlements.find? b with
  | some e =>
    obtain ⟨e'', he'', hstep⟩ := s.row_step l he
    rw [he'] at he''
    cases he''
    exact .inl ⟨e, rfl, hstep⟩
  | none =>
    right
    refine ⟨rfl, ?_⟩
    cases s.rows_step l with
    | same h =>
      rw [h, he] at he'
      cases he'
    | system l' h =>
      rw [h] at he'
      rcases s.world.entitlement_step l' b with hrow | ⟨-, e, hfind, huntouched⟩
      · rw [hrow, he] at he'
        cases he'
      · rw [he'] at hfind
        cases hfind
        exact huntouched
    | wrote b' f hf h hmove =>
      rw [h, Table.find?_modify] at he'
      split at he'
      · rename_i hb
        rw [← hb, he] at he'
        cases he'
      · rw [he] at he'
        cases he'

/-- The request of a creation makes at most one transfer, and only if there is none. -/
theorem requestTransfer_cases (transfers : Table StripeTransfer) (params : TransferParams) :
    (requestTransfer transfers params).2 = transfers ∨
      transferByKey transfers params.hostEntitlementId = none ∧
        (requestTransfer transfers params).2 = makeTransfer transfers params := by
  unfold requestTransfer
  split
  · exact .inl rfl
  · rename_i hnone
    exact .inr ⟨hnone, rfl⟩

theorem stripe_step (l : TransferLabel) : s.StripeStep l (s.step l).transfers := by
  cases l with
  | system l => exact .same
  | setConnectAccount hostId account => exact .same
  | otherTransfer destination => exact .other destination
  | findReleaseDue now ids => exact .same
  | workerCrash worker => exact .same
  | releaseCrash call => exact .same
  | claim worker b =>
    simp only [step]
    split
    · unfold claim
      split
      · exact .same
      · exact .same
    · exact .same
  | attemptRelease enabled b =>
    simp only [step, attemptRelease]
    split
    · exact .same
    · exact .same
  | release c answer =>
    simp only [step]
    split
    · rename_i call hcall
      obtain rfl : call.id = c := Table.key_of_find? hcall
      unfold stepRelease
      split
      · split
        · split
          · exact .same
          · exact .same
        · exact .same
        · exact .same
      · rename_i params hphase
        have hrequest : answer ≠ .refused →
            s.StripeStep (.release call.id answer) (requestTransfer s.transfers params).2 := by
          intro hanswer
          rcases requestTransfer_cases s.transfers params with hsame | ⟨hnone, hnew⟩
          · rw [hsame]
            exact .same
          · rw [hnew]
            exact .created call answer params rfl hcall hphase hanswer hnone
        split
        · exact .same
        · simp only
          split
          · exact hrequest (by rintro ⟨⟩)
          · exact hrequest (by rintro ⟨⟩)
        · simp only
          split
          · exact hrequest (by rintro ⟨⟩)
          · exact hrequest (by rintro ⟨⟩)
      · exact .same
      · exact .same
    · exact .same

theorem call_step (l : TransferLabel) {id : Nat} {c' : ReleaseCall}
    (hc' : (s.step l).releases.find? id = some c') : s.CallStep l c' := by
  have hold : s.releases.find? id = some c' → s.CallStep l c' := by
    intro h
    obtain rfl : c'.id = id := Table.key_of_find? h
    exact .same c' h
  have hended : ∀ (p : ReleaseCall → Bool), (s.releases.deleteWhere p).find? id = some c' →
      s.CallStep l c' := by
    intro p h
    have hmem := Table.mem_of_find? h
    rw [Table.rows_deleteWhere] at hmem
    exact .same c' (Table.find?_of_mem (List.mem_filter.mp hmem).1)
  have hmoved : ∀ (call : ReleaseCall) (phase : ReleasePhase),
      s.releases.find? call.id = some call → s.CallStep l { call with phase := phase } →
      (s.setPhase call phase).releases.find? id = some c' → s.CallStep l c' := by
    intro call phase hcall hstep h
    rw [setPhase, Table.find?_modify] at h
    split at h
    · rw [hcall] at h
      cases h
      exact hstep
    · exact hold h
  cases l with
  | system l => exact hold hc'
  | setConnectAccount hostId account => exact hold hc'
  | otherTransfer destination => exact hold hc'
  | findReleaseDue now ids => exact hold hc'
  | workerCrash worker => exact hold hc'
  | releaseCrash call => exact hended _ hc'
  | claim worker b =>
    simp only [step] at hc'
    split at hc'
    · unfold claim at hc'
      split at hc'
      · exact hold hc'
      · exact hold hc'
    · exact hold hc'
  | attemptRelease enabled b =>
    simp only [step, attemptRelease] at hc'
    split at hc'
    · exact hold hc'
    · rename_i params hread
      simp only at hc'
      rw [Table.find?_insertNew] at hc'
      split at hc'
      · cases hc'
        exact .read _ enabled b params rfl hread
      · exact hold hc'
  | release c answer =>
    cases hcall : s.releases.find? c with
    | none =>
      simp only [step, hcall] at hc'
      exact hold hc'
    | some call =>
      obtain rfl : call.id = c := Table.key_of_find? hcall
      have hstep : s.step (.release call.id answer) = s.stepRelease call answer := by
        simp only [step, hcall]
      rw [hstep] at hc'
      unfold stepRelease at hc'
      split at hc'
      · rename_i params hphase
        split at hc'
        · split at hc'
          · rename_i t hlisted
            exact hmoved call _ hcall (.listed call params t hcall hphase hlisted) hc'
          · exact hmoved call _ hcall (.unlisted call params hcall hphase) hc'
        · exact hended _ hc'
        · exact hended _ hc'
      · rename_i params hphase
        have hfailed : (s.setPhase call .failing).releases.find? id = some c' →
            s.CallStep (.release call.id answer) c' :=
          hmoved call _ hcall (.failed call params hcall hphase)
        split at hc'
        · exact hfailed hc'
        · simp only at hc'
          split at hc'
          · rename_i transferId hcreated _
            refine hmoved call _ hcall (.created call params transferId hcall hphase ?_) hc'
            rw [hstep]
            simp only [stepRelease, hphase, hcreated]
            rw [← hcreated]
          · exact hfailed hc'
        · simp only at hc'
          split at hc'
          · rename_i hanswer
            cases hanswer
          · exact hfailed hc'
      · exact hended _ hc'
      · exact hended _ hc'

end Transfers

end HostPlatform
