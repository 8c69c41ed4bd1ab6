-- SUMMARY: When an off-session charge is decided for a booking that is no longer waiting for payment.
import HostPlatform.ChargeSteps

/-!
# Charging released bookings

The sweep selects `pending_payment` bookings, but the decision that authorises a
charge runs later, is also reached from `setup_intent.succeeded`, and does not read
the status. It charges whatever none of its other guards refuses.
-/

namespace HostPlatform

open Lib.Transition

/-- What the latest attempt says against another charge: it is being executed, it
waits for the guest, or it failed and its retry is not due. -/
def AttemptBlocks (now : Int) (b : Booking) (a : PaymentAttempt) : Prop :=
  ((a.status = .pending ∨ a.status = .processing) ∧ ∃ t, a.leaseExpiresAt = some t ∧ now < t) ∨
    a.status = .requiresAction ∨
    (a.status = .failed ∧ ∃ t, b.nextRetryAt = some t ∧ now < t)

/-- What the booking row says against a charge. Its status is not looked at. -/
def BookingBlocks (now : Int) (b : Booking) : Prop :=
  b.paymentFlowVersion ≠ .separateChargesDelayedV1 ∨ b.taxTreatment = .unconfigured ∨
    b.stripeCustomerId = none ∨ b.stripePaymentMethodId = none ∨
    (b.gracePeriodStartedAt ≠ none ∧ b.holdExpiresAt.getD 0 ≤ now)

/-- There is a reason other than its status not to charge the booking. -/
def Unchargeable (now : Int) (bookingId : BookingId) (db : Db) : Prop :=
  db.hasSucceededAttempt bookingId ∨
    ∀ b, db.bookings.find? bookingId = some b →
      BookingBlocks now b ∨ ∃ a, db.latestAttempt bookingId = some a ∧ AttemptBlocks now b a

theorem bookingRefusal_isSome {now : Int} {b : Booking} :
    (bookingRefusal b now).isSome ↔ BookingBlocks now b := by
  have hgrace : graceExpired b now ↔ b.gracePeriodStartedAt ≠ none ∧ b.holdExpiresAt.getD 0 ≤ now := by
    unfold graceExpired
    rw [Bool.and_eq_true, decide_eq_true_eq, Option.isSome_iff_ne_none]
  unfold bookingRefusal BookingBlocks
  rw [← hgrace]
  split
  · rename_i hflow
    simp [hflow]
  · rename_i hflow
    split
    · rename_i htax
      simp [htax]
    · rename_i htax
      split
      · rename_i hcard
        rcases hcard with hcard | hcard <;> simp [hcard]
      · rename_i hcard
        split
        · rename_i hexpired
          simp [hexpired]
        · rename_i hexpired
          simp_all

theorem attemptRefusal_isSome {now : Int} {b : Booking} {latest : Option PaymentAttempt} :
    (attemptRefusal b latest now).isSome ↔ ∃ a, latest = some a ∧ AttemptBlocks now b a := by
  cases latest with
  | none => simp [attemptRefusal]
  | some a =>
    have hlease : leaseActive a now ↔ ∃ t, a.leaseExpiresAt = some t ∧ now < t := by
      unfold leaseActive
      cases a.leaseExpiresAt with
      | none => simp
      | some t => simp
    have hretry : (retryPending b now).isSome ↔ ∃ t, b.nextRetryAt = some t ∧ now < t := by
      unfold retryPending
      cases b.nextRetryAt with
      | none => simp
      | some t => simp
    simp only [attemptRefusal, AttemptBlocks, ← hlease, ← hretry, Option.some.injEq, exists_eq_left']
    cases a.status with
    | pending => by_cases h : leaseActive a now <;> simp [h]
    | processing => by_cases h : leaseActive a now <;> simp [h]
    | requiresAction => simp
    | failed => simp
    | succeeded => simp
    | cancelled => simp

/-- The decision charges exactly when nothing but the status speaks against it. -/
theorem decideCharge_isCharge_iff (now : Int) (token : Nat) (b : BookingId) (amountMinor : Int)
    (currency : String) (db : Db) :
    (decideCharge now token b amountMinor currency db).1.isCharge ↔ ¬ Unchargeable now b db := by
  unfold decideCharge Unchargeable
  cases hsucceeded : db.hasSucceededAttempt b with
  | true => simp [ChargeDecision.isCharge]
  | false =>
    cases hbooking : db.bookings.find? b with
    | none => simp [ChargeDecision.isCharge]
    | some booking =>
      simp only [Bool.false_eq_true, if_false, false_or, Option.some.injEq, forall_eq',
        ← bookingRefusal_isSome, ← attemptRefusal_isSome]
      cases bookingRefusal booking now with
      | some reason => simp [ChargeDecision.isCharge]
      | none =>
        cases attemptRefusal booking (db.latestAttempt b) now with
        | some reason => simp [ChargeDecision.isCharge]
        | none =>
          cases (db.latestAttempt b).filter PaymentAttempt.reusable with
          | some latest => simp [ChargeDecision.isCharge]
          | none => simp [ChargeDecision.isCharge]

/-! ## Runs of the system -/

/-- A decision that charges finds its booking `pending_payment`. -/
def ChargesPendingOnly (w : World) (l : Label) : Prop :=
  ∀ now c, Decides w l now c →
    (w.decision now c).1.isCharge →
    w.db.statusOf c.bookingId = some .pendingPayment

/-- A decision on a booking that is not `pending_payment` finds another reason to refuse. -/
def RefusesReleased (w : World) (l : Label) : Prop :=
  ∀ now c, Decides w l now c → w.db.statusOf c.bookingId ≠ some .pendingPayment →
    Unchargeable now c.bookingId w.db

/-- A run charges pending bookings only, exactly when each of its decisions on
another booking is refused for a reason other than the status. -/
theorem chargesPendingOnly_iff (w : World) (ls : List Label) :
    Guarded World.step ChargesPendingOnly w ls ↔ Guarded World.step RefusesReleased w ls := by
  have hstep : ∀ w l, ChargesPendingOnly w l ↔ RefusesReleased w l := by
    intro w l
    constructor
    · intro h now c hdecides hstatus
      by_contra hcharge
      exact hstatus (h now c hdecides ((decideCharge_isCharge_iff ..).mpr hcharge))
    · intro h now c hdecides hcharge
      by_contra hstatus
      exact (decideCharge_isCharge_iff ..).mp hcharge (h now c hdecides hstatus)
  exact ⟨.mono fun w l => (hstep w l).mp, .mono fun w l => (hstep w l).mpr⟩

/-- The guest starts to save a card, cancels the booking, and only then is the saved
card announced. -/
def cardSavedAfterCancel : List Label :=
  [ .transaction (.createBooking (60 * msPerDay) true (sampleRequest "a")),
    .transaction (.saveSetupIntent 1 1 1),
    .transaction (.configureTaxTreatment 1 .platformRemits),
    .cancelBookingAndRefund (60 * msPerDay) ⟨1, .guest⟩,
    .setupIntentSucceeded 1 1,
    .setupIntentContinue (60 * msPerDay) 1,
    .charge (60 * msPerDay) 1 (.processed .succeeded none true) ]

/-- The decision charges the cancelled booking. -/
theorem cardSavedAfterCancel_charges :
    ¬ Guarded World.step ChargesPendingOnly (World.start sampleDb) cardSavedAfterCancel := by
  intro h
  have hdecide := guarded_iff.mp h (cardSavedAfterCancel.take 6)
    (.charge (60 * msPerDay) 1 (.processed .succeeded none true)) [] rfl (60 * msPerDay)
    ⟨1, 1, 20000, "GBP", .deciding⟩ ⟨1, _, rfl, by decide, rfl⟩ (by decide)
  exact absurd hdecide (by decide)

end HostPlatform
