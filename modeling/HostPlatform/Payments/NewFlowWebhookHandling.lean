-- SUMMARY: A succeeded PaymentIntent of the delayed flow: the confirming transaction, and the entitlement left to insert after it (`newFlowWebhookHandling.ts`).
import HostPlatform.Payments.ScheduledCharges
import HostPlatform.Payouts.HostTransfers
import HostPlatform.Stripe

/-!
# Succeeded payments of the delayed flow

The webhook confirms the booking and marks the attempt in one transaction. The
entitlement of the host is inserted after it, in a statement of its own: a crash in
between leaves a confirmed booking without one, and a later delivery stops at the status.
-/

namespace HostPlatform

/-- `Math.max(...cutoffs of the 100% tiers, 0)`. -/
def freeCancelCutoffHours (policy : List CancellationTier) : Int :=
  ((policy.filter fun r => decide (r.refundPercent = 100)).map CancellationTier.cutoffHours).foldr max 0

/-- The later of check-in and the end of the free-cancellation window. -/
def scheduledReleaseAt (now : Int) (booking : Booking) : Int :=
  max (startOfDay booking.checkIn)
    (now + freeCancelCutoffHours booking.cancellationPolicySnapshot * msPerHour)

/-- `UPDATE bookings SET status = 'confirmed' WHERE id = $1 AND status = 'pending_payment'`. -/
def confirmPendingBooking (db : Db) (b : BookingId) : Db :=
  updatePendingBooking db b fun r => { r with status := .confirmed }

theorem statusOf_confirmPendingBooking (db : Db) (b b' : BookingId) :
    (confirmPendingBooking db b).statusOf b' =
      if b' = b ∧ db.statusOf b = some .pendingPayment then some .confirmed else db.statusOf b' := by
  unfold confirmPendingBooking updatePendingBooking Db.statusOf
  rw [Lib.Table.find?_updateWhere]
  cases hr : db.bookings.find? b' with
  | none =>
    rw [if_neg]
    · rfl
    · rintro ⟨rfl, h⟩
      rw [hr] at h
      cases h
  | some r =>
    have hid : r.id = b' := Lib.Table.key_of_find? hr
    simp only [Option.map_some]
    by_cases hb : b' = b
    · subst hb
      by_cases hst : r.status = .pendingPayment
      · simp [hid, hr, hst]
      · simp [hr, hst]
    · simp [hid, hb]

/-- `UPDATE payment_attempts SET status = 'succeeded' WHERE id = $1`. -/
def markAttemptSucceeded (db : Db) (attemptId : Option AttemptId) (intentId : PaymentIntentId) : Db :=
  match attemptId with
  | none => db
  | some a =>
    { db with
      paymentAttempts := db.paymentAttempts.modify a fun r =>
        { r with status := .succeeded, providerPaymentIntentId := some intentId } }

def entitlementInput (now : Int) (booking : Booking) (pc : PriceComponents) : EntitlementInput :=
  { bookingId := booking.id
    hostId := booking.hostId
    amountMinor := pc.hostPayoutMinor
    taxAmountMinor := some pc.taxesMinor
    currency := pc.currency
    scheduledReleaseAt := scheduledReleaseAt now booking }

/-- The transaction of `onNewFlowPaymentSucceeded`, with the input of the
`createEntitlement` call that follows its commit. The guard reads the status of
the booking only, and the entitlement does not depend on the update's row count. -/
def onNewFlowPaymentSucceeded (now : Int) (intent : PaymentIntentObject) (db : Db) :
    Option EntitlementInput × Db :=
  match intent.bookingId.bind db.bookings.find? with
  | none => (none, db)
  | some booking =>
    if booking.status = .confirmed then (none, db)
    else
      ((db.priceComponents.find? booking.id).map (entitlementInput now booking),
        confirmPendingBooking (markAttemptSucceeded db intent.paymentAttemptId intent.id) booking.id)

end HostPlatform
