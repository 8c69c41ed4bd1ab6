-- SUMMARY: Connecting a host to Stripe: the onboarding calls, the status checks and the account events (`onboarding.ts`, `webhookHandler.ts`).
import HostPlatform.Lib.Transition
import HostPlatform.Listings
import HostPlatform.Payments.StripeWebhook

/-!
# Connect onboarding

A host's payouts go to an account at Stripe, which is created at the first visit of the onboarding
page. Its status is copied to the host's row by the status page and by two kinds of events. Each of
them is a call of several statements, and none of them locks the row.
-/

namespace HostPlatform

open Lib (Table Keyed key)

/-- `configuration.recipient` of a v2 account. -/
structure RecipientConfiguration where
  applied : Option Bool
  /-- `capabilities?.stripe_balance?.stripe_transfers?.status`. -/
  stripeTransfers : Option String
  deriving DecidableEq, Repr

def computeReadinessStatus (recipient : Option RecipientConfiguration) : PayoutAccountStatus :=
  match recipient with
  | none => .notConnected
  | some r =>
    if r.applied ≠ some true then .notConnected
    else if r.stripeTransfers = some "active" then .active
    else .pending

/-- An account at one time: as it is retrieved, and as a v1 `account.updated` shows it. -/
structure AccountState where
  recipient : Option RecipientConfiguration
  chargesEnabled : Bool
  payoutsEnabled : Bool
  detailsSubmitted : Bool
  deriving DecidableEq, Repr

/-- An account at Stripe. `past` are the states before its present one, the last first. -/
structure ConnectAccount where
  id : Nat
  createdFor : HostId
  state : AccountState
  past : List AccountState
  deriving DecidableEq, Repr

instance : Keyed ConnectAccount := ⟨ConnectAccount.id⟩

def ConnectAccount.states (a : ConnectAccount) : List AccountState := a.state :: a.past

/-- The `data.object` of a v1 event. -/
def ConnectAccount.object (a : ConnectAccount) (state : AccountState) : AccountObject :=
  ⟨a.id, state.chargesEnabled, state.payoutsEnabled, state.detailsSubmitted⟩

/-! ## Statements -/

/-- `SELECT id FROM host_profiles WHERE user_id = $1`. -/
def hostProfileOf (db : ListingDb) (userId : UserId) : Option ListingHost :=
  db.hosts.rows.find? fun h => decide (h.userId = userId)

/-- `UPDATE host_profiles SET stripe_connect_account_id = $2, payout_account_status = 'pending'`. -/
def storeConnectAccount (db : ListingDb) (hostId : HostId) (account : Nat) : ListingDb :=
  { db with
    hosts := db.hosts.modify hostId fun h =>
      { h with stripeConnectAccountId := some account, payoutAccountStatus := .pending } }

theorem ListingHost.key_payoutAccountStatus (status : PayoutAccountStatus) (h : ListingHost) :
    key { h with payoutAccountStatus := status } = key h := rfl

/-- `UPDATE host_profiles SET payout_account_status = $2 WHERE stripe_connect_account_id = $1`. -/
def setConnectedAccountStatus (db : ListingDb) (account : Nat) (status : PayoutAccountStatus) : ListingDb :=
  { db with
    hosts := db.hosts.updateWhere (fun h => h.stripeConnectAccountId == some account)
      (fun h => { h with payoutAccountStatus := status }) (ListingHost.key_payoutAccountStatus status) }

/-! ## Calls -/

/-- A call by its next statement, with what it has read. -/
inductive ConnectPhase where
  /-- `POST /api/hosts/onboarding/connect-account`: `ensureHostProfile`, `recordHostAgreementAcceptance`. -/
  | findingProfile (userId : UserId)
  | creatingProfile (userId : UserId)
  | accepting (hostId : HostId)
  /-- `startHostConnectOnboarding`. -/
  | reading (hostId : HostId)
  | creatingAccount (hostId : HostId)
  | storing (hostId : HostId) (account : Nat)
  | linking (hostId : HostId) (account : Nat)
  /-- The host is sent to the onboarding of the account. -/
  | linked (hostId : HostId) (account : Nat)
  /-- `getHostOnboardingStatus`. -/
  | checking (hostId : HostId)
  | retrieving (hostId : HostId) (account : Nat) (stored : PayoutAccountStatus)
  | updating (hostId : HostId) (account : Nat) (status : PayoutAccountStatus)
  | checked (hostId : HostId) (status : PayoutAccountStatus)
  /-- `handleStripeV2ThinEvent`. -/
  | notified (account : Nat)
  | mirroring (account : Nat) (status : PayoutAccountStatus)
  | handled (account : Nat)
  | failed
  deriving DecidableEq, Repr

/-- A call that has returned is not stopped any more. -/
def ConnectPhase.stopped : ConnectPhase → ConnectPhase
  | .linked hostId account => .linked hostId account
  | .checked hostId status => .checked hostId status
  | .handled account => .handled account
  | _ => .failed

/-- The database, the accounts at Stripe, and the calls. -/
structure ConnectWorld where
  db : ListingDb
  accounts : Table ConnectAccount
  calls : List ConnectPhase

inductive ConnectStep where
  /-- A signed-in user asks to become a host. -/
  | connectAccount (userId : UserId)
  /-- `GET /api/hosts/onboarding/status`. -/
  | onboardingStatus (hostId : HostId)
  /-- A v2 event on the account arrives. -/
  | thinEvent (account : Nat)
  /-- A v1 event arrives: it shows a state of the account, the present one (0) or one before it. -/
  | accountUpdated (account : Nat) (age : Nat)
  /-- The account changes at Stripe. -/
  | accountChanges (account : Nat) (state : AccountState)
  /-- The next statement of a call; `made` is the state of the account that it creates. -/
  | next (i : Nat) (now : Int) (made : AccountState)
  /-- A statement of the call fails, or its process stops. -/
  | stop (i : Nat)

namespace ConnectWorld

def start (db : ListingDb) : ConnectWorld := ⟨db, .empty, []⟩

/-- A call arrives. -/
def arrive (w : ConnectWorld) (c : ConnectPhase) : ConnectWorld := { w with calls := w.calls ++ [c] }

/-- The next statement of a call: where it stands after it, and what it wrote. -/
def stepCall (w : ConnectWorld) (now : Int) (made : AccountState) (c : ConnectPhase) :
    ConnectPhase × ConnectWorld :=
  match c with
  | .findingProfile userId =>
    match hostProfileOf w.db userId with
    | some h => (.accepting h.id, w)
    | none => (.creatingProfile userId, w)
  | .creatingProfile userId =>
    -- `user_id` is unique, and the profile may have been created since
    if (hostProfileOf w.db userId).isSome then (.failed, w)
    else (.accepting w.db.hosts.freshKey, { w with db := ensureHostProfile w.db userId })
  | .accepting hostId =>
    if (w.db.hosts.find? hostId).isSome then
      (.reading hostId, { w with db := recordHostAgreementAcceptance w.db now hostId })
    else (.failed, w)
  | .reading hostId =>
    match w.db.hosts.find? hostId with
    | none => (.failed, w)
    | some h =>
      match h.stripeConnectAccountId with
      | none => (.creatingAccount hostId, w)
      | some account => (.linking hostId account, w)
  | .creatingAccount hostId =>
    (.storing hostId w.accounts.freshKey,
      { w with accounts := w.accounts.insertNew fun id => ⟨id, hostId, made, []⟩ })
  | .storing hostId account => (.linking hostId account, { w with db := storeConnectAccount w.db hostId account })
  | .linking hostId account => (.linked hostId account, w)
  | .checking hostId =>
    match w.db.hosts.find? hostId with
    | none => (.failed, w)
    | some h =>
      match h.stripeConnectAccountId with
      | none => (.checked hostId .notConnected, w)
      | some account => (.retrieving hostId account h.payoutAccountStatus, w)
  | .retrieving hostId account stored =>
    match w.accounts.find? account with
    | none => (.failed, w)
    | some a =>
      if computeReadinessStatus a.state.recipient ≠ stored then
        (.updating hostId account (computeReadinessStatus a.state.recipient), w)
      else (.checked hostId stored, w)
  | .updating hostId _ status => (.checked hostId status, { w with db := setPayoutAccountStatus w.db hostId status })
  | .notified account =>
    match w.accounts.find? account with
    | none => (.failed, w)
    | some a => (.mirroring account (computeReadinessStatus a.state.recipient), w)
  | .mirroring account status => (.handled account, { w with db := setConnectedAccountStatus w.db account status })
  | .linked .. | .checked .. | .handled _ | .failed => (c, w)

/-- `onConnectedAccountUpdated`, on a state that the account has had. -/
def accountUpdated (w : ConnectWorld) (account age : Nat) : ConnectWorld :=
  match w.accounts.find? account with
  | none => w
  | some a =>
    match a.states[age]? with
    | none => w
    | some state => { w with db := setConnectedAccountStatus w.db account (a.object state).readiness }

end ConnectWorld

def connectStep (w : ConnectWorld) : ConnectStep → ConnectWorld
  | .connectAccount userId => w.arrive (.findingProfile userId)
  | .onboardingStatus hostId => w.arrive (.checking hostId)
  | .thinEvent account => w.arrive (.notified account)
  | .accountUpdated account age => w.accountUpdated account age
  | .accountChanges account state =>
    { w with
      accounts := w.accounts.modify account fun a => { a with state := state, past := a.states } }
  | .next i now made =>
    match w.calls[i]? with
    | none => w
    | some c => { (w.stepCall now made c).2 with calls := w.calls.set i (w.stepCall now made c).1 }
  | .stop i =>
    match w.calls[i]? with
    | none => w
    | some c => { w with calls := w.calls.set i c.stopped }

end HostPlatform
