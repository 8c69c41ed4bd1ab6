-- SUMMARY: The host's entitlement to a transfer, and the statements and requests that release it (`hostTransfers.ts`).
import HostPlatform.Lib.Outcome
import HostPlatform.Schema

/-!
# Host transfers

An entitlement is found, claimed and released in three separate calls. The find reads
the booking; the claim and the release look at the entitlement alone.
-/

namespace HostPlatform

open Lib (require)

/-! ## The entitlement -/

structure EntitlementInput where
  bookingId : BookingId
  hostId : HostId
  amountMinor : Int
  taxAmountMinor : Option Int
  currency : String
  scheduledReleaseAt : Int
  deriving DecidableEq, Repr

def entitlementRow (input : EntitlementInput) : Entitlement :=
  { bookingId := input.bookingId
    hostId := input.hostId
    amountMinor := input.amountMinor
    taxAmountMinor := input.taxAmountMinor
    currency := input.currency
    status := .entitled
    scheduledReleaseAt := input.scheduledReleaseAt
    providerTransferId := none }

/-- `INSERT .. ON CONFLICT (booking_id) DO NOTHING`. -/
def createEntitlement (input : EntitlementInput) (db : Db) : Db :=
  match db.entitlements.tryInsert (entitlementRow input) with
  | some entitlements => { db with entitlements := entitlements }
  | none => db

theorem createEntitlement_frame (input : EntitlementInput) (db : Db) :
    createEntitlement input db = { db with entitlements := (createEntitlement input db).entitlements } := by
  unfold createEntitlement
  split <;> rfl

/-- After the insert the booking has its entitlement, and no other one changed. -/
theorem createEntitlement_isSome (input : EntitlementInput) (db : Db) (b : BookingId) :
    ((createEntitlement input db).entitlements.find? b).isSome =
      (decide (b = input.bookingId) || (db.entitlements.find? b).isSome) := by
  unfold createEntitlement
  split
  · rename_i entitlements hins
    rw [Lib.Table.find?_tryInsert hins b]
    split
    · rename_i hb
      have hb' : b = input.bookingId := hb
      simp [hb']
    · rename_i hb
      have hb' : b ≠ input.bookingId := hb
      simp [hb']
  · rename_i hins
    have htaken : (db.entitlements.find? input.bookingId).isSome :=
      Lib.Table.isSome_of_tryInsert_eq_none hins
    by_cases hb : b = input.bookingId
    · subst hb
      simpa using htaken
    · simp [hb]

/-! ## Finding and claiming -/

def Db.hasSucceededRefund (db : Db) (b : BookingId) : Bool :=
  db.refunds.rows.any fun r => decide (r.bookingId = b ∧ r.status = .succeeded)

/-- The release condition of `findReleaseDueEntitlementIds`. -/
def isReleaseDue (db : Db) (now : Int) (e : Entitlement) : Bool :=
  decide (e.status = .entitled ∧ e.scheduledReleaseAt ≤ now)
    && (db.bookings.find? e.bookingId).any (fun b => decide (b.status ∉ [.cancelled, .disputed]))
    && !db.hasSucceededRefund e.bookingId

def releaseDueLimit : Nat := 200

/-- `SELECT .. LIMIT 200` without an order: `ids` says which due rows it returns. -/
def findReleaseDueEntitlementIds (db : Db) (now : Int) (ids : List BookingId) : List BookingId :=
  let due (b : BookingId) : Bool := (db.entitlements.find? b).any (isReleaseDue db now)
  (ids.dedup.filter due).take releaseDueLimit

/-- `UPDATE .. SET status = 'transfer_claimed' WHERE id = $1 AND status = 'entitled'`, and
whether it took the row. -/
def claimEntitlement (b : BookingId) (db : Db) : Bool × Db :=
  match (db.entitlements.find? b).filter fun e => decide (e.status = .entitled) with
  | none => (false, db)
  | some _ =>
    (true, { db with
      entitlements := db.entitlements.modify b fun e => { e with status := .transferClaimed } })

/-! ## `attemptRelease` -/

def EntitlementStatus.text : EntitlementStatus → String
  | .entitled => "entitled"
  | .releaseDue => "release_due"
  | .transferClaimed => "transfer_claimed"
  | .transferCreated => "transfer_created"
  | .transferFailed => "transfer_failed"
  | .cancelledBeforeTransfer => "cancelled_before_transfer"

/-- The parameters of `stripe.transfers.create`. The idempotency key is a hash of the
booking id, so the booking stands for it. -/
structure TransferParams where
  amount : Int
  currency : String
  destination : Nat
  hostEntitlementId : BookingId
  deriving DecidableEq, Repr

/-- `toLowerCase`, of ASCII letters. -/
def toLowerCase (s : String) : String := String.ofList (s.toList.map Char.toLower)

/-- Everything before the first request: the flag, the row joined with the host, and the
reasons to refuse it. -/
def releaseParams (enabled : Bool) (b : BookingId) (db : Db) : Except String TransferParams := do
  require (enabled = true)
    "ENABLE_HOST_TRANSFER_EXECUTION is not set — real transfer creation is disabled"
  match db.entitlements.find? b with
  | none => .error "entitlement not found"
  | some e =>
    match db.hostProfiles.find? e.hostId with
    | none => .error "entitlement not found"
    | some host => do
      require (e.status = .transferClaimed)
        s!"entitlement is not in transfer_claimed status (was: {e.status.text}) — refusing to transfer"
      require (e.providerTransferId = none)
        "a provider_transfer_id already exists for this entitlement — refusing to create a second transfer"
      match host.stripeConnectAccountId with
      | none => .error "host has no connected Stripe account"
      | some account => return ⟨e.amountMinor, toLowerCase e.currency, account, b⟩

/-- The `catch` branch: any error of the request, whatever the row's status is by then. -/
def markTransferFailed (b : BookingId) (db : Db) : Db :=
  { db with entitlements := db.entitlements.modify b fun e => { e with status := .transferFailed } }

def markTransferCreated (b : BookingId) (transferId : TransferId) (db : Db) : Db :=
  { db with
    entitlements := db.entitlements.modify b fun e =>
      { e with status := .transferCreated, providerTransferId := some transferId } }

/-- A release that goes ahead read the entitlement claimed and without a transfer. -/
theorem releaseParams_eq_ok {enabled : Bool} {b : BookingId} {db : Db} {params : TransferParams}
    (h : releaseParams enabled b db = .ok params) :
    params.hostEntitlementId = b ∧ ∃ e, db.entitlements.find? b = some e ∧
      e.status = .transferClaimed ∧ e.providerTransferId = none := by
  unfold releaseParams at h
  obtain ⟨-, -, h⟩ := Lib.bind_eq_ok.mp h
  split at h
  · cases h
  · rename_i e he
    split at h
    · cases h
    · obtain ⟨_, hclaimed, h⟩ := Lib.bind_eq_ok.mp h
      obtain ⟨_, hnone, h⟩ := Lib.bind_eq_ok.mp h
      split at h
      · cases h
      · cases h
        exact ⟨rfl, e, he, Lib.require_eq_ok.mp hclaimed, Lib.require_eq_ok.mp hnone⟩

end HostPlatform
