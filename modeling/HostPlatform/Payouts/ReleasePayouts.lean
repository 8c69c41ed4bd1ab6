-- SUMMARY: The statements of the sweep that pays out legacy payouts (`releasePayouts.ts`).
import HostPlatform.Payments.WebhookHandler

/-!
# Releasing due payouts

`releaseDuePayouts` selects due rows and then updates them by id, one row after the
other. No statement after the selection looks at the status of a row.
-/

namespace HostPlatform

open Lib (Table)

/-- The statuses of a dispute that is over. -/
def closedDisputeStatuses : List String := ["won", "lost", "closed"]

def Db.hasOpenDispute (db : Db) (b : BookingId) : Bool :=
  db.disputes.any fun d => decide (d.bookingId = b) && decide (d.status ∉ closedDisputeStatuses)

/-- The columns of a selected row that the loop uses. -/
structure DuePayout where
  id : Nat
  bookingId : BookingId
  deriving DecidableEq, Repr

/-- The `WHERE` clause of the selection, joined with the host's profile. -/
def isDuePayout (db : Db) (now : Int) (p : Payout) : Bool :=
  decide (p.status = .scheduled ∧ p.scheduledReleaseAt ≤ now)
    && (db.hostProfiles.find? p.hostId).isSome && !db.hasOpenDispute p.bookingId

def payoutSweepLimit : Nat := 100

/-- What the selection returns. It has a `LIMIT` and no `ORDER BY`, so it may return
any hundred due rows in any order: `ids` says which. -/
def findDuePayouts (db : Db) (now : Int) (ids : List Nat) : List DuePayout :=
  let rows := ids.dedup.filterMap fun id => (db.payouts.find? id).filter (isDuePayout db now)
  (rows.take payoutSweepLimit).map fun p => ⟨p.id, p.bookingId⟩

/-- `UPDATE payouts SET status = $2 WHERE id = $1`. -/
def setPayoutStatus (db : Db) (id : Nat) (status : PayoutStatus) : Db :=
  { db with payouts := db.payouts.modify id fun p => { p with status := status } }

/-- The host's pending ledger row of the booking is paid with the payout. -/
def payHostLedger (db : Db) (b : BookingId) : Db :=
  { db with
    ledgerEntries := db.ledgerEntries.map fun e =>
      if e.bookingId = b ∧ e.type = .hostPayout ∧ e.status = .pending then { e with status := .paid }
      else e }

end HostPlatform
