-- SUMMARY: The database statements of `initiateRefund` (`refund.ts`).
import HostPlatform.Schema

/-!
# Initiating a refund

`initiateRefund` is a sequence of single statements and Stripe calls, each
committed on its own. The statements are here; `HostPlatform.World` interleaves them.
-/

namespace HostPlatform

structure InitiateRefundInput where
  bookingId : BookingId
  paymentId : BookingId
  providerPaymentIntentId : Option PaymentIntentId
  amountMinor : Int
  currency : String
  reason : RefundReason
  initiatedBy : Actor
  deriving DecidableEq, Repr

/-- The pending row of the same booking, payment, amount and reason. -/
def InitiateRefundInput.matches (input : InitiateRefundInput) (r : Refund) : Bool :=
  decide (r.bookingId = input.bookingId ∧ r.paymentId = input.paymentId
    ∧ r.amountMinor = input.amountMinor ∧ r.reason = input.reason ∧ r.status = .pending)

/-- `SELECT .. ORDER BY created_at DESC LIMIT 1`: rows are kept in creation order. -/
def existingAttempt (input : InitiateRefundInput) (db : Db) : Option Refund :=
  (db.refunds.select input.matches).getLast?

/-- The row a retry reuses: the latest matching one, if Stripe's answer to it is unknown. -/
def unresolvedAttempt (input : InitiateRefundInput) (db : Db) : Option RefundId :=
  ((existingAttempt input db).filter fun r => r.providerRefundId.isNone).map Refund.id

/-- `INSERT INTO refunds .. 'pending'`. -/
def insertRefund (input : InitiateRefundInput) (db : Db) : RefundId × Db :=
  (db.refunds.freshKey,
    { db with
      refunds := db.refunds.insertNew fun id =>
        { id := id
          bookingId := input.bookingId
          paymentId := input.paymentId
          providerRefundId := none
          amountMinor := input.amountMinor
          currency := input.currency
          reason := input.reason
          initiatedBy := input.initiatedBy
          status := .pending } })

/-- `UPDATE refunds SET provider_refund_id = $2 WHERE id = $1`. -/
def linkRefund (refundRowId : RefundId) (stripeRefundId : StripeRefundId) (db : Db) : Db :=
  { db with
    refunds := db.refunds.modify refundRowId fun r =>
      { r with providerRefundId := some stripeRefundId } }

/-! ## Totals -/

namespace Db

/-- `SELECT SUM(amount_minor) .. WHERE booking_id = $1 AND status IN ('pending','succeeded')`. -/
def alreadyRefunded (db : Db) (b : BookingId) : Int :=
  db.refunds.sumWhere (fun r => decide (r.bookingId = b ∧ (r.status = .pending ∨ r.status = .succeeded)))
    Refund.amountMinor

/-- `SELECT SUM(amount_minor) .. WHERE booking_id = $1 AND status = 'succeeded'`. -/
def cumulativeRefunded (db : Db) (b : BookingId) : Int :=
  db.refunds.sumWhere (fun r => decide (r.bookingId = b ∧ r.status = .succeeded)) Refund.amountMinor

end Db

end HostPlatform
