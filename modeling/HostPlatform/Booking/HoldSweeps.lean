-- SUMMARY: The sweep that releases expired holds one after the other, among other transactions (`cron/sweep`).
import HostPlatform.Lib.Transition
import HostPlatform.Transactions

/-!
# Sweeps of expired holds

A sweep lists the expired holds once, and releases each in a transaction of its own. Bookings
may be paid, cancelled or created in between. A release that fails ends the sweep.
-/

namespace HostPlatform

open Lib.Transition

/-- One turn of the sweep's loop: what commits before it, and the clock at it. -/
structure SweepTurn where
  before : List Tx
  now : Int

/-- The loop over the listed holds, with the bookings it has released. There are fewer turns than holds
if one fails. -/
def releaseEach (db : Db) : List BookingId → List SweepTurn → List BookingId × Db
  | [], _ => ([], db)
  | _ :: _, [] => ([], db)
  | b :: ids, turn :: turns =>
    let released := releaseExpiredHold turn.now b (run Tx.exec db turn.before)
    let rest := releaseEach released.2 ids turns
    (if released.1.isSome then b :: rest.1 else rest.1, rest.2)

inductive HoldLabel where
  | tx (t : Tx)
  /-- A sweep that lists the holds expired at `now`. -/
  | sweep (now : Int) (turns : List SweepTurn)

def HoldLabel.isSweep : HoldLabel → Bool
  | .sweep .. => true
  | .tx _ => false

def holdStep (db : Db) : HoldLabel → Db
  | .tx t => t.exec db
  | .sweep now turns => (releaseEach db (findExpiredHoldBookingIds now db) turns).2

end HostPlatform
