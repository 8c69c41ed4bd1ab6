-- SUMMARY: Reversals of host transfers: the rows, the statements on them, and the request to Stripe (`transferReversal.ts`).
import HostPlatform.Payouts.HostTransfers

/-!
# Transfer reversals

A reversal is requested in one call, which only records it, and executed in another.
-/

namespace HostPlatform

open Lib (Keyed Table require)

/-! ## The rows -/

inductive ReversalReason where
  | refund | dispute
  deriving DecidableEq, Repr

inductive ReversalStatus where
  | reversalRequested | reversalConfirmed | reversalFailed
  deriving DecidableEq, Repr

def ReversalStatus.text : ReversalStatus → String
  | .reversalRequested => "reversal_requested"
  | .reversalConfirmed => "reversal_confirmed"
  | .reversalFailed => "reversal_failed"

/-- What the idempotency key of a row is a hash of. -/
structure ReversalKey where
  entitlementId : BookingId
  reason : ReversalReason
  amountMinor : Int
  deriving DecidableEq, Repr

structure TransferReversal where
  id : Nat
  entitlementId : BookingId
  amountMinor : Int
  reason : ReversalReason
  status : ReversalStatus
  providerReversalId : Option Nat
  idempotencyKey : ReversalKey
  requestedAt : Int
  confirmedAt : Option Int
  deriving DecidableEq, Repr

instance : Keyed TransferReversal := ⟨TransferReversal.id⟩

def reversalRow (key : ReversalKey) (now : Int) (id : Nat) : TransferReversal :=
  { id := id
    entitlementId := key.entitlementId
    amountMinor := key.amountMinor
    reason := key.reason
    status := .reversalRequested
    providerReversalId := none
    idempotencyKey := key
    requestedAt := now
    confirmedAt := none }

theorem key_reversalRow (key : ReversalKey) (now : Int) (id : Nat) : Lib.key (reversalRow key now id) = id := rfl

def hasReversalKey (key : ReversalKey) (reversals : Table TransferReversal) : Bool :=
  reversals.rows.any fun r => decide (r.idempotencyKey = key)

/-- `INSERT .. ON CONFLICT (idempotency_key) DO NOTHING RETURNING id`. -/
def requestReversal (key : ReversalKey) (now : Int) (reversals : Table TransferReversal) :
    Option Nat × Table TransferReversal :=
  if hasReversalKey key reversals then (none, reversals)
  else (some reversals.freshKey, reversals.insertNew (reversalRow key now) (key_reversalRow key now))

def confirmReversal (reversalId providerReversalId : Nat) (now : Int) (reversals : Table TransferReversal) :
    Table TransferReversal :=
  reversals.modify reversalId fun r =>
    { r with
      status := .reversalConfirmed
      providerReversalId := some providerReversalId
      confirmedAt := some now }

def markReversalFailed (reversalId : Nat) (reversals : Table TransferReversal) : Table TransferReversal :=
  reversals.modify reversalId fun r => { r with status := .reversalFailed }

/-- `WHERE entitlement_id = $1 ORDER BY requested_at ASC`. -/
def listReversalsForEntitlement (e : BookingId) (reversals : Table TransferReversal) : List TransferReversal :=
  (reversals.select fun r => decide (r.entitlementId = e)).mergeSort fun r r' => decide (r.requestedAt ≤ r'.requestedAt)

/-! ## `executeReversal` up to its first request -/

/-- The parameters of `stripe.transfers.createReversal`. -/
structure ReversalParams where
  transferId : TransferId
  amount : Int
  hostReversalId : Nat
  idempotencyKey : ReversalKey
  deriving DecidableEq, Repr

/-- The row joined with its entitlement, and the reasons to refuse it. -/
def executeReversalParams (reversalId : Nat) (reversals : Table TransferReversal) (db : Db) :
    Except String ReversalParams :=
  match reversals.find? reversalId with
  | none => .error "reversal not found"
  | some r =>
    match db.entitlements.find? r.entitlementId with
    | none => .error "reversal not found"
    | some entitlement => do
      require (r.status = .reversalRequested)
        s!"reversal is not in reversal_requested status (was: {r.status.text}) — refusing to execute"
      match entitlement.providerTransferId with
      | none => .error "the entitlement has no provider_transfer_id — nothing to reverse yet"
      | some transferId => return ⟨transferId, r.amountMinor, reversalId, r.idempotencyKey⟩

/-- An execution that goes ahead read the row requested, with its key. -/
theorem executeReversalParams_eq_ok {reversalId : Nat} {reversals : Table TransferReversal} {db : Db}
    {params : ReversalParams} (h : executeReversalParams reversalId reversals db = .ok params) :
    params.hostReversalId = reversalId ∧ ∃ r, reversals.find? reversalId = some r ∧
      r.status = .reversalRequested ∧ r.idempotencyKey = params.idempotencyKey := by
  unfold executeReversalParams at h
  split at h
  · cases h
  · rename_i r hr
    split at h
    · cases h
    · obtain ⟨_, hrequested, h⟩ := Lib.bind_eq_ok.mp h
      split at h
      · cases h
      · cases h
        exact ⟨rfl, r, hr, Lib.require_eq_ok.mp hrequested, rfl⟩

/-! ## Stripe's side -/

/-- A reversal of a transfer; the ones of other code have no parameters of ours. -/
structure StripeReversal where
  id : Nat
  transferId : TransferId
  params : Option ReversalParams
  deriving DecidableEq, Repr

instance : Keyed StripeReversal := ⟨StripeReversal.id⟩

def StripeReversal.hostReversalId (r : StripeReversal) : Option Nat := r.params.map ReversalParams.hostReversalId

def StripeReversal.idempotencyKey (r : StripeReversal) : Option ReversalKey :=
  r.params.map ReversalParams.idempotencyKey

def reversalListLimit : Nat := 20

/-- `transfers.listReversals(id, { limit: 20 })`, the latest first, and the first of them with the
row's id in its metadata. -/
def listedReversal (provider : Table StripeReversal) (params : ReversalParams) : Option StripeReversal :=
  let listed := provider.rows.reverse.filter fun r => decide (r.transferId = params.transferId)
  (listed.take reversalListLimit).find? fun r => decide (r.hostReversalId = some params.hostReversalId)

/-- The reversal made under an idempotency key. -/
def reversalByKey (provider : Table StripeReversal) (key : ReversalKey) : Option StripeReversal :=
  provider.rows.find? fun r => decide (r.idempotencyKey = some key)

def createdReversal (params : ReversalParams) (id : Nat) : StripeReversal :=
  ⟨id, params.transferId, some params⟩

theorem key_createdReversal (params : ReversalParams) (id : Nat) : Lib.key (createdReversal params id) = id := rfl

/-- Stripe's part of `transfers.createReversal`: the id it answers with, or an error. The same
parameters under a used key are answered with the reversal made before, others are refused. -/
def createReversal (provider : Table StripeReversal) (params : ReversalParams) :
    Option Nat × Table StripeReversal :=
  match reversalByKey provider params.idempotencyKey with
  | some r => (if r.params = some params then some r.id else none, provider)
  | none => (some provider.freshKey, provider.insertNew (createdReversal params) (key_createdReversal params))

/-- A creation makes at most one reversal, and only if there is none under its key. -/
theorem createReversal_cases (provider : Table StripeReversal) (params : ReversalParams) :
    (createReversal provider params).2 = provider ∨
      reversalByKey provider params.idempotencyKey = none ∧
        (createReversal provider params).2 =
          provider.insertNew (createdReversal params) (key_createdReversal params) := by
  unfold createReversal
  split
  · exact .inl rfl
  · rename_i hnone
    exact .inr ⟨hnone, rfl⟩

/-! ## What the statements keep -/

variable (reversals : Table TransferReversal)

/-- The key a row was recorded under. -/
def reversalKeyOf (reversalId : Nat) : Option ReversalKey :=
  (reversals.find? reversalId).map TransferReversal.idempotencyKey

@[simp] theorem reversalKeyOf_confirmReversal (id providerReversalId : Nat) (now : Int) (reversalId : Nat) :
    reversalKeyOf (confirmReversal id providerReversalId now reversals) reversalId =
      reversalKeyOf reversals reversalId := by
  simp only [reversalKeyOf, confirmReversal, Table.find?_modify]
  split
  · rename_i hid
    rw [hid, Option.map_map]
    rfl
  · rfl

@[simp] theorem reversalKeyOf_markReversalFailed (id reversalId : Nat) :
    reversalKeyOf (markReversalFailed id reversals) reversalId = reversalKeyOf reversals reversalId := by
  simp only [reversalKeyOf, markReversalFailed, Table.find?_modify]
  split
  · rename_i hid
    rw [hid, Option.map_map]
    rfl
  · rfl

theorem reversalKeyOf_requestReversal {key : ReversalKey} {now : Int} {reversalId : Nat} {k : ReversalKey}
    (h : reversalKeyOf reversals reversalId = some k) :
    reversalKeyOf (requestReversal key now reversals).2 reversalId = some k := by
  unfold requestReversal
  split
  · exact h
  · have hne : reversalId ≠ reversals.freshKey := by
      rintro rfl
      simp [reversalKeyOf] at h
    simp only [reversalKeyOf, Table.find?_insertNew, if_neg hne]
    exact h

/-- The amounts recorded for an entitlement. -/
def recordedAmount (e : BookingId) : Int :=
  ((listReversalsForEntitlement e reversals).map TransferReversal.amountMinor).sum

theorem recordedAmount_eq (e : BookingId) :
    recordedAmount reversals e =
      reversals.sumWhere (fun r => decide (r.entitlementId = e)) TransferReversal.amountMinor :=
  ((List.mergeSort_perm _ _).map _).sum_eq

@[simp] theorem recordedAmount_confirmReversal (id providerReversalId : Nat) (now : Int) (e : BookingId) :
    recordedAmount (confirmReversal id providerReversalId now reversals) e = recordedAmount reversals e := by
  simp only [recordedAmount_eq, confirmReversal, Table.modify]
  apply Table.sumWhere_updateWhere
  intro r _ _
  rfl

@[simp] theorem recordedAmount_markReversalFailed (id : Nat) (e : BookingId) :
    recordedAmount (markReversalFailed id reversals) e = recordedAmount reversals e := by
  simp only [recordedAmount_eq, markReversalFailed, Table.modify]
  apply Table.sumWhere_updateWhere
  intro r _ _
  rfl

/-- A request records its amount, unless a row has its key. -/
theorem recordedAmount_requestReversal (key : ReversalKey) (now : Int) (e : BookingId) :
    recordedAmount (requestReversal key now reversals).2 e =
      recordedAmount reversals e +
        if key.entitlementId = e ∧ hasReversalKey key reversals = false then key.amountMinor else 0 := by
  unfold requestReversal
  cases hkey : hasReversalKey key reversals with
  | true => simp
  | false =>
    simp only [recordedAmount_eq, Bool.false_eq_true, if_false, Table.sumWhere_insertNew, and_true, reversalRow]
    by_cases he : key.entitlementId = e
    · simp [he]
    · simp [he]

end HostPlatform
