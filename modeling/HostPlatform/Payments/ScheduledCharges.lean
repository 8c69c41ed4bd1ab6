-- SUMMARY: The off-session charge of a delayed-flow booking: timing, the locked decision, and the recording of its outcome (`scheduledCharges.ts`).
import HostPlatform.Stripe
import Mathlib.Data.List.MinMax

/-!
# Scheduled charges

`attemptScheduledCharge` is three steps: a transaction that decides and claims an
attempt, a call to Stripe, and a transaction that records what the call returned.
The first and the last are the functions `decideCharge` and `recordChargeOutcome`.
-/

namespace HostPlatform

open Lib (Table)

def scheduledChargeThresholdDays : Int := 60
def gracePeriodHours : Int := 72
def reminderAfterHours : Int := 24
def executionLeaseMs : Int := 120000

structure ChargeTiming where
  immediate : Bool
  scheduledChargeDate : Option Int
  deriving DecidableEq, Repr

def decideChargeTiming (checkIn now : Int) : ChargeTiming :=
  let daysUntilCheckIn := (startOfDay checkIn - now) / msPerDay
  if scheduledChargeThresholdDays < daysUntilCheckIn then
    ⟨false, some (startOfDay checkIn - scheduledChargeThresholdDays * msPerDay)⟩
  else ⟨true, none⟩

/-! ## Reading the attempts of a booking -/

namespace Db

def attemptsOf (db : Db) (b : BookingId) : List PaymentAttempt :=
  db.paymentAttempts.select fun a => a.bookingId == b

/-- `ORDER BY attempt_number DESC LIMIT 1`. -/
def latestAttempt (db : Db) (b : BookingId) : Option PaymentAttempt :=
  (db.attemptsOf b).argmax PaymentAttempt.attemptNumber

/-- `COALESCE(MAX(attempt_number), 0)`. -/
def maxAttemptNumber (db : Db) (b : BookingId) : Nat :=
  ((db.attemptsOf b).map PaymentAttempt.attemptNumber).foldr max 0

def hasSucceededAttempt (db : Db) (b : BookingId) : Bool :=
  (db.attemptsOf b).any fun a => decide (a.status = .succeeded)

end Db

theorem Db.mem_attemptsOf {db : Db} {b : BookingId} {a : PaymentAttempt} :
    a ∈ db.attemptsOf b ↔ a ∈ db.paymentAttempts.rows ∧ a.bookingId = b := by
  unfold attemptsOf Table.select
  rw [List.mem_filter, beq_iff_eq]

theorem Db.hasSucceededAttempt_iff {db : Db} {b : BookingId} :
    db.hasSucceededAttempt b ↔
      ∃ a ∈ db.paymentAttempts.rows, a.bookingId = b ∧ a.status = .succeeded := by
  unfold Db.hasSucceededAttempt
  simp only [List.any_eq_true, Db.mem_attemptsOf, decide_eq_true_eq, and_assoc]

theorem Db.maxAttemptNumber_le_iff {db : Db} {b : BookingId} {n : Nat} :
    db.maxAttemptNumber b ≤ n ↔
      ∀ a ∈ db.paymentAttempts.rows, a.bookingId = b → a.attemptNumber ≤ n := by
  have hfold : ∀ l : List Nat, l.foldr max 0 ≤ n ↔ ∀ k ∈ l, k ≤ n := by
    intro l
    induction l with
    | nil => simp
    | cons k l ih => simp [ih]
  unfold maxAttemptNumber
  rw [hfold]
  constructor
  · intro h a ha hb
    exact h _ (List.mem_map_of_mem (mem_attemptsOf.mpr ⟨ha, hb⟩))
  · intro h k hk
    obtain ⟨a, ha, rfl⟩ := List.mem_map.mp hk
    obtain ⟨hmem, hb⟩ := mem_attemptsOf.mp ha
    exact h a hmem hb

/-- The latest attempt has the highest number. -/
theorem Db.latestAttempt_eq_some {db : Db} {b : BookingId} {a : PaymentAttempt}
    (h : db.latestAttempt b = some a) :
    a ∈ db.paymentAttempts.rows ∧ a.bookingId = b ∧ a.attemptNumber = db.maxAttemptNumber b := by
  have hmem := mem_attemptsOf.mp (List.argmax_mem (Option.mem_def.mpr h))
  refine ⟨hmem.1, hmem.2, le_antisymm ?_ ?_⟩
  · exact maxAttemptNumber_le_iff.mp le_rfl a hmem.1 hmem.2
  · refine maxAttemptNumber_le_iff.mpr fun a' ha' hb' => ?_
    exact List.le_of_mem_argmax (mem_attemptsOf.mpr ⟨ha', hb'⟩) (Option.mem_def.mpr h)

/-- The columns of an attempt that no statement updates. -/
structure PaymentAttempt.SameSlot (a a' : PaymentAttempt) : Prop where
  bookingId : a'.bookingId = a.bookingId
  attemptNumber : a'.attemptNumber = a.attemptNumber
  idempotencyKey : a'.idempotencyKey = a.idempotencyKey

@[refl] theorem PaymentAttempt.SameSlot.refl (a : PaymentAttempt) : a.SameSlot a := ⟨rfl, rfl, rfl⟩

/-- The attempt is the same one, and still succeeded if it had. -/
structure PaymentAttempt.Kept (a a' : PaymentAttempt) : Prop extends a.SameSlot a' where
  succeeded : a.status = .succeeded → a'.status = .succeeded

@[refl] theorem PaymentAttempt.Kept.refl (a : PaymentAttempt) : a.Kept a := ⟨.refl a, fun h => h⟩

theorem Db.maxAttemptNumber_congr {db db' : Db}
    (h : Table.Rowwise PaymentAttempt.SameSlot db.paymentAttempts db'.paymentAttempts)
    (b : BookingId) : db'.maxAttemptNumber b = db.maxAttemptNumber b := by
  apply le_antisymm
  · refine maxAttemptNumber_le_iff.mpr fun a' ha' hb => ?_
    obtain ⟨a, ha, hslot⟩ := h.to_find? (Table.find?_of_mem ha')
    rw [hslot.attemptNumber]
    exact maxAttemptNumber_le_iff.mp le_rfl a (Table.mem_of_find? ha) (hslot.bookingId.symm.trans hb)
  · refine maxAttemptNumber_le_iff.mpr fun a ha hb => ?_
    obtain ⟨a', ha', hslot⟩ := h.of_find? (Table.find?_of_mem ha)
    rw [← hslot.attemptNumber]
    exact maxAttemptNumber_le_iff.mp le_rfl a' (Table.mem_of_find? ha') (hslot.bookingId.trans hb)

/-! ## The decision -/

/-- Why the decision phase refuses, one constructor per `return { kind: "refuse" }`. -/
inductive ChargeRefusal where
  | bookingNotFound
  | notDelayedFlow
  | taxUnconfigured
  | noPaymentMethod
  | gracePeriodExpired
  | leaseActive
  | requiresAction
  | awaitingRetry (nextRetryAt : Int)
  deriving DecidableEq, Repr

/-- What a worker needs to call Stripe and to record the outcome. -/
structure ChargeClaim where
  attemptId : AttemptId
  idempotencyKey : AttemptKey
  claimToken : Nat
  customerId : Nat
  paymentMethodId : Nat
  deriving DecidableEq, Repr

inductive ChargeDecision where
  | alreadySucceeded
  | refuse (reason : ChargeRefusal)
  | charge (claim : ChargeClaim)
  deriving DecidableEq, Repr

def ChargeDecision.isCharge : ChargeDecision → Bool
  | .charge _ => true
  | _ => false

/-- Claim the open attempt again: new token, new lease, same key. -/
def claimAttempt (db : Db) (now : Int) (token : Nat) (latest : PaymentAttempt) : Db :=
  { db with
    paymentAttempts := db.paymentAttempts.modify latest.id fun a =>
      { a with claimToken := some token, leaseExpiresAt := some (now + executionLeaseMs) } }

/-- Insert the next attempt, already claimed. -/
def reserveAttempt (db : Db) (now : Int) (token : Nat) (b : BookingId) (amountMinor : Int)
    (currency : String) : AttemptId × AttemptKey × Db :=
  let attemptNumber := db.maxAttemptNumber b + 1
  let idempotencyKey : AttemptKey := ⟨b, attemptNumber⟩
  (db.paymentAttempts.freshKey, idempotencyKey,
    { db with
      paymentAttempts := db.paymentAttempts.insertNew fun id =>
        { id := id
          bookingId := b
          attemptNumber := attemptNumber
          providerPaymentIntentId := none
          status := .pending
          failureCode := none
          failureMessage := none
          amountMinor := amountMinor
          currency := currency
          idempotencyKey := idempotencyKey
          claimToken := some token
          leaseExpiresAt := some (now + executionLeaseMs) } })

/-- The attempt a reservation adds, which is now the latest of its booking. -/
theorem reserveAttempt_attempts (db : Db) (now : Int) (token : Nat) (b : BookingId)
    (amountMinor : Int) (currency : String) :
    ∃ row : PaymentAttempt, row.bookingId = b ∧ row.attemptNumber = db.maxAttemptNumber b + 1 ∧
      row.idempotencyKey = ⟨b, db.maxAttemptNumber b + 1⟩ ∧ row.status = .pending ∧
      (reserveAttempt db now token b amountMinor currency).2.2.paymentAttempts.rows =
        db.paymentAttempts.rows ++ [row] :=
  ⟨_, rfl, rfl, rfl, rfl, rfl⟩

theorem maxAttemptNumber_reserved {db db' : Db} {b : BookingId} {row : PaymentAttempt}
    (hb : row.bookingId = b) (hnumber : row.attemptNumber = db.maxAttemptNumber b + 1)
    (hrows : db'.paymentAttempts.rows = db.paymentAttempts.rows ++ [row]) (b' : BookingId) :
    db'.maxAttemptNumber b' = if b' = b then db.maxAttemptNumber b + 1 else db.maxAttemptNumber b' := by
  have hle : ∀ n, db'.maxAttemptNumber b' ≤ n ↔
      db.maxAttemptNumber b' ≤ n ∧ (b' = b → db.maxAttemptNumber b + 1 ≤ n) := by
    intro n
    rw [Db.maxAttemptNumber_le_iff, Db.maxAttemptNumber_le_iff, hrows]
    simp only [List.mem_append, List.mem_singleton, or_imp, forall_and, forall_eq, hb, hnumber]
    exact and_congr_right fun _ => ⟨fun h hb' => h hb'.symm, fun h hb' => h hb'.symm⟩
  split
  · rename_i hbb
    subst hbb
    apply le_antisymm
    · exact (hle _).mpr ⟨Nat.le_succ _, fun _ => le_rfl⟩
    · exact ((hle _).mp le_rfl).2 rfl
  · rename_i hbb
    apply le_antisymm
    · exact (hle _).mpr ⟨le_rfl, fun h => absurd h hbb⟩
    · exact ((hle _).mp le_rfl).1

/-- The grace period has started and its deadline has passed. A missing deadline
counts as passed: `new Date(null)` is the epoch. -/
def graceExpired (b : Booking) (now : Int) : Bool :=
  b.gracePeriodStartedAt.isSome && decide (b.holdExpiresAt.getD 0 ≤ now)

/-- The lease is held and not yet expired. -/
def leaseActive (a : PaymentAttempt) (now : Int) : Bool :=
  match a.leaseExpiresAt with
  | some lease => decide (now < lease)
  | none => false

/-- The scheduled retry is still to come. -/
def retryPending (b : Booking) (now : Int) : Option Int :=
  b.nextRetryAt.filter fun t => decide (now < t)

/-- The guards of the decision that read the booking row, in source order. The
row's status is not among them. -/
def bookingRefusal (b : Booking) (now : Int) : Option ChargeRefusal :=
  if b.paymentFlowVersion ≠ .separateChargesDelayedV1 then some .notDelayedFlow
  else if b.taxTreatment = .unconfigured then some .taxUnconfigured
  else if b.stripeCustomerId = none ∨ b.stripePaymentMethodId = none then some .noPaymentMethod
  else if graceExpired b now then some .gracePeriodExpired
  else none

/-- The guards that read the latest attempt. -/
def attemptRefusal (b : Booking) (latest : Option PaymentAttempt) (now : Int) :
    Option ChargeRefusal :=
  match latest with
  | none => none
  | some a =>
    match a.status with
    | .pending | .processing => if leaseActive a now then some .leaseActive else none
    | .requiresAction => some .requiresAction
    | .failed => (retryPending b now).map .awaitingRetry
    | .succeeded | .cancelled => none

/-- The attempt is open: its claim may be taken over under the same key. -/
def PaymentAttempt.reusable (a : PaymentAttempt) : Bool :=
  decide (a.status = .pending ∨ a.status = .processing)

/-- The decision transaction of `attemptScheduledCharge`. -/
def decideCharge (now : Int) (token : Nat) (bookingId : BookingId) (amountMinor : Int)
    (currency : String) (db : Db) : ChargeDecision × Db :=
  if db.hasSucceededAttempt bookingId then (.alreadySucceeded, db) else
  match db.bookings.find? bookingId with
  | none => (.refuse .bookingNotFound, db)
  | some b =>
    match bookingRefusal b now with
    | some reason => (.refuse reason, db)
    | none =>
      match attemptRefusal b (db.latestAttempt bookingId) now with
      | some reason => (.refuse reason, db)
      | none =>
        let claim (attemptId : AttemptId) (key : AttemptKey) : ChargeDecision :=
          .charge ⟨attemptId, key, token, b.stripeCustomerId.getD 0, b.stripePaymentMethodId.getD 0⟩
        match (db.latestAttempt bookingId).filter PaymentAttempt.reusable with
        | some latest => (claim latest.id latest.idempotencyKey, claimAttempt db now token latest)
        | none =>
          let (attemptId, key, db') := reserveAttempt db now token bookingId amountMinor currency
          (claim attemptId key, db')

/-! ## The outcome -/

/-- The optional columns an outcome writes. -/
structure OutcomeDetails where
  providerPaymentIntentId : Option PaymentIntentId
  failureCode : Option String
  failureMessage : Option String
  deriving DecidableEq, Repr

/-- What the call to Stripe returned or threw, as the code tells them apart. A
declined card is thrown with its PaymentIntent and handled as a response. -/
inductive ChargeResponse where
  | intent (id : PaymentIntentId) (status : IntentStatus) (lastPaymentError : Option PaymentError)
  | idempotencyError (message : Option String)
  | apiError (message : Option String)
  deriving DecidableEq, Repr

/-- The outcome recorded for a response. Any other error than an idempotency
conflict counts as a failure, also one that lost the response of a success. -/
def chargeOutcome : ChargeResponse → AttemptStatus × OutcomeDetails
  | .intent id .succeeded _ => (.succeeded, ⟨some id, none, none⟩)
  | .intent id .requiresAction _ => (.requiresAction, ⟨some id, none, none⟩)
  | .intent id .processing _ => (.processing, ⟨some id, none, none⟩)
  | .intent id _ lastPaymentError =>
    (.failed, ⟨some id, lastPaymentError.bind fun e => e.declineCode.or e.code,
      lastPaymentError.bind PaymentError.message⟩)
  | .idempotencyError message => (.processing, ⟨none, none, message⟩)
  | .apiError message => (.failed, ⟨none, none, message⟩)

/-- The grace period starts on the first outcome that is not a success, and never moves. -/
def establishGracePeriod (now : Int) (b : Booking) : Booking :=
  { b with
    gracePeriodStartedAt := some (b.gracePeriodStartedAt.getD now)
    holdExpiresAt :=
      if b.gracePeriodStartedAt = none then some (now + gracePeriodHours * msPerHour)
      else b.holdExpiresAt }

def scheduleNextRetry (now : Int) (b : Booking) : Booking :=
  { b with nextRetryAt := some (now + reminderAfterHours * msPerHour) }

/-- `UPDATE bookings SET .. WHERE id = $1 AND status = 'pending_payment'`. -/
def updatePendingBooking (db : Db) (b : BookingId) (f : Booking → Booking)
    (hf : ∀ r : Booking, Lib.key (f r) = Lib.key r := by intro r; rfl) : Db :=
  let pending (r : Booking) : Bool := decide (r.id = b ∧ r.status = .pendingPayment)
  { db with bookings := db.bookings.updateWhere pending f hf }

/-- The compare-and-set: the claim is still the caller's, and the attempt has
not succeeded. -/
def recordable (db : Db) (attemptId : AttemptId) (claimToken : Nat) : Bool :=
  match db.paymentAttempts.find? attemptId with
  | some a => decide (a.claimToken = some claimToken ∧ a.status ≠ .succeeded)
  | none => false

/-- `recordChargeOutcome`: whether the outcome was recorded, and the new database. -/
def recordChargeOutcome (now : Int) (bookingId : BookingId) (attemptId : AttemptId)
    (claimToken : Nat) (status : AttemptStatus) (details : OutcomeDetails) (db : Db) : Bool × Db :=
  if recordable db attemptId claimToken then
    let db₁ : Db := { db with
      paymentAttempts := db.paymentAttempts.modify attemptId fun a =>
        { a with
          status := status
          providerPaymentIntentId := details.providerPaymentIntentId.or a.providerPaymentIntentId
          failureCode := details.failureCode
          failureMessage := details.failureMessage
          claimToken := none
          leaseExpiresAt := none } }
    let db₂ := if status = .requiresAction ∨ status = .processing ∨ status = .failed then
      updatePendingBooking db₁ bookingId (establishGracePeriod now) else db₁
    let db₃ := if status = .failed then
      updatePendingBooking db₂ bookingId (scheduleNextRetry now) else db₂
    (true, db₃)
  else (false, db)

/-! ## What the two transactions touch -/

theorem decideCharge_frame (now : Int) (token : Nat) (b : BookingId) (amountMinor : Int)
    (currency : String) (db : Db) :
    (decideCharge now token b amountMinor currency db).2 =
      { db with
        paymentAttempts := (decideCharge now token b amountMinor currency db).2.paymentAttempts } := by
  unfold decideCharge
  split
  · rfl
  · split
    · rfl
    · split
      · rfl
      · split
        · rfl
        · simp only
          split
          · rfl
          · rfl

/-- A decision to charge passes every guard, and takes over the open attempt of the
booking or reserves its next one. -/
theorem decideCharge_passed {now : Int} {token : Nat} {b : BookingId} {amountMinor : Int}
    {currency : String} {db : Db} {claim : ChargeClaim}
    (h : (decideCharge now token b amountMinor currency db).1 = .charge claim) :
    ∃ booking, db.bookings.find? b = some booking ∧ bookingRefusal booking now = none ∧
      attemptRefusal booking (db.latestAttempt b) now = none ∧ claim.claimToken = token ∧
      claim.customerId = booking.stripeCustomerId.getD 0 ∧
      claim.paymentMethodId = booking.stripePaymentMethodId.getD 0 ∧
      ((∃ latest, db.latestAttempt b = some latest ∧ latest.reusable ∧
          claim.attemptId = latest.id ∧ claim.idempotencyKey = latest.idempotencyKey ∧
          (decideCharge now token b amountMinor currency db).2 = claimAttempt db now token latest) ∨
        (db.latestAttempt b).filter PaymentAttempt.reusable = none ∧
          claim.attemptId = db.paymentAttempts.freshKey ∧
          claim.idempotencyKey = ⟨b, db.maxAttemptNumber b + 1⟩ ∧
          (decideCharge now token b amountMinor currency db).2 =
            (reserveAttempt db now token b amountMinor currency).2.2) := by
  unfold decideCharge at h ⊢
  split at h
  · cases h
  · rename_i hsucceeded
    rw [if_neg hsucceeded]
    cases hb : db.bookings.find? b with
    | none =>
      rw [hb] at h
      cases h
    | some booking =>
      rw [hb] at h
      simp only at h ⊢
      cases hbooking : bookingRefusal booking now with
      | some reason =>
        rw [hbooking] at h
        cases h
      | none =>
        rw [hbooking] at h
        simp only at h ⊢
        refine ⟨booking, rfl, hbooking, ?_⟩
        cases hattempt : attemptRefusal booking (db.latestAttempt b) now with
        | some reason =>
          rw [hattempt] at h
          cases h
        | none =>
          rw [hattempt] at h
          cases hlatest : (db.latestAttempt b).filter PaymentAttempt.reusable with
          | some latest =>
            rw [hlatest] at h
            cases h
            obtain ⟨hfind, hreusable⟩ := Option.filter_eq_some_iff.mp hlatest
            exact ⟨rfl, rfl, rfl, rfl, .inl ⟨latest, hfind, hreusable, rfl, rfl, rfl⟩⟩
          | none =>
            rw [hlatest] at h
            cases h
            exact ⟨rfl, rfl, rfl, rfl, .inr ⟨rfl, rfl, rfl, rfl⟩⟩

theorem decideCharge_not_succeeded {now : Int} {token : Nat} {b : BookingId} {amountMinor : Int}
    {currency : String} {db : Db} {claim : ChargeClaim}
    (h : (decideCharge now token b amountMinor currency db).1 = .charge claim) :
    db.hasSucceededAttempt b = false := by
  unfold decideCharge at h
  split at h
  · cases h
  · rename_i hnot
    exact Bool.not_eq_true _ ▸ hnot

theorem bookingRefusal_eq_none {b : Booking} {now : Int} (h : bookingRefusal b now = none) :
    b.paymentFlowVersion = .separateChargesDelayedV1 ∧ b.taxTreatment ≠ .unconfigured ∧
      b.stripeCustomerId ≠ none ∧ b.stripePaymentMethodId ≠ none ∧ graceExpired b now = false := by
  unfold bookingRefusal at h
  split at h
  · cases h
  · rename_i hflow
    split at h
    · cases h
    · rename_i htax
      split at h
      · cases h
      · rename_i hcard
        split at h
        · cases h
        · rename_i hgrace
          rw [not_or] at hcard
          exact ⟨not_not.mp hflow, htax, hcard.1, hcard.2, Bool.not_eq_true _ ▸ hgrace⟩

theorem decideCharge_eq_charge {now : Int} {token : Nat} {b : BookingId} {amountMinor : Int}
    {currency : String} {db : Db} {claim : ChargeClaim}
    (h : (decideCharge now token b amountMinor currency db).1 = .charge claim) :
    ∃ booking, db.bookings.find? b = some booking ∧
      booking.paymentFlowVersion = .separateChargesDelayedV1 ∧
      ((∃ latest, db.latestAttempt b = some latest ∧ latest.reusable ∧
          claim.attemptId = latest.id ∧ claim.idempotencyKey = latest.idempotencyKey ∧
          (decideCharge now token b amountMinor currency db).2 = claimAttempt db now token latest) ∨
        (db.latestAttempt b).filter PaymentAttempt.reusable = none ∧
          claim.attemptId = db.paymentAttempts.freshKey ∧
          claim.idempotencyKey = ⟨b, db.maxAttemptNumber b + 1⟩ ∧
          (decideCharge now token b amountMinor currency db).2 =
            (reserveAttempt db now token b amountMinor currency).2.2) := by
  obtain ⟨booking, hb, hbooking, -, -, -, -, hclaims⟩ := decideCharge_passed h
  exact ⟨booking, hb, (bookingRefusal_eq_none hbooking).1, hclaims⟩

/-- The lease of a claimed attempt was not active, if it had one. -/
theorem leaseActive_of_charge {now : Int} {token : Nat} {b : BookingId} {amountMinor : Int}
    {currency : String} {db : Db} {claim : ChargeClaim} {a : PaymentAttempt}
    (h : (decideCharge now token b amountMinor currency db).1 = .charge claim)
    (ha : db.paymentAttempts.find? claim.attemptId = some a) : leaseActive a now = false := by
  obtain ⟨booking, -, -, hpassed, -, -, -, ⟨latest, hlatest, hreusable, hid, -⟩ | ⟨-, hid, -⟩⟩ :=
    decideCharge_passed h
  · have hmem := (Db.latestAttempt_eq_some hlatest).1
    rw [hid, show db.paymentAttempts.find? latest.id = some latest from Table.find?_of_mem hmem] at ha
    cases ha
    rw [hlatest] at hpassed
    simp only [attemptRefusal] at hpassed
    rcases of_decide_eq_true hreusable with hstatus | hstatus
    · rw [hstatus] at hpassed
      simpa using hpassed
    · rw [hstatus] at hpassed
      simpa using hpassed
  · rw [hid] at ha
    exact absurd (Table.key_of_find? ha) (Table.ne_freshKey (Table.mem_of_find? ha))

/-- A decision that does not charge writes nothing. -/
theorem decideCharge_of_ne_charge {now : Int} {token : Nat} {b : BookingId} {amountMinor : Int}
    {currency : String} {db : Db}
    (h : ∀ claim, (decideCharge now token b amountMinor currency db).1 ≠ .charge claim) :
    (decideCharge now token b amountMinor currency db).2 = db := by
  unfold decideCharge at h ⊢
  split
  · rfl
  · rename_i hsucceeded
    rw [if_neg hsucceeded] at h
    cases hb : db.bookings.find? b with
    | none => rfl
    | some booking =>
      rw [hb] at h
      simp only at h ⊢
      cases hbooking : bookingRefusal booking now with
      | some reason => rfl
      | none =>
        rw [hbooking] at h
        simp only at h ⊢
        cases hattempt : attemptRefusal booking (db.latestAttempt b) now with
        | some reason => rfl
        | none =>
          rw [hattempt] at h
          cases hlatest : (db.latestAttempt b).filter PaymentAttempt.reusable with
          | some latest =>
            rw [hlatest] at h
            exact absurd rfl (h _)
          | none =>
            rw [hlatest] at h
            exact absurd rfl (h _)

theorem updatePendingBooking_rowwise {R : Booking → Booking → Prop} (hR : ∀ r, R r r) {db : Db}
    {b : BookingId} {f : Booking → Booking} {hf}
    (h : ∀ r, db.bookings.find? b = some r → r.status = .pendingPayment → R r (f r)) :
    Table.Rowwise R db.bookings (updatePendingBooking db b f hf).bookings := by
  unfold updatePendingBooking
  apply Table.Rowwise.updateWhere hR hf
  intro r hr hp
  simp only [decide_eq_true_eq] at hp
  exact h r (Table.find?_eq_some_iff.mpr ⟨hr, hp.1⟩) hp.2

/-- An outcome changes deadlines of the booking, never its stay or its status. -/
theorem recordChargeOutcome_bookings (now : Int) (b : BookingId) (attemptId : AttemptId)
    (claimToken : Nat) (status : AttemptStatus) (details : OutcomeDetails) (db : Db) :
    Table.Rowwise Booking.SameStatus db.bookings
      (recordChargeOutcome now b attemptId claimToken status details db).2.bookings := by
  have hgrace : ∀ db' : Db, Table.Rowwise Booking.SameStatus db'.bookings
      (updatePendingBooking db' b (establishGracePeriod now)).bookings := fun db' =>
    updatePendingBooking_rowwise .refl fun r _ _ => ⟨by constructor <;> rfl, rfl⟩
  have hretry : ∀ db' : Db, Table.Rowwise Booking.SameStatus db'.bookings
      (updatePendingBooking db' b (scheduleNextRetry now)).bookings := fun db' =>
    updatePendingBooking_rowwise .refl fun r _ _ => ⟨by constructor <;> rfl, rfl⟩
  have htrans : ∀ r r' r'' : Booking, r.SameStatus r' → r'.SameStatus r'' → r.SameStatus r'' :=
    fun _ _ _ h h' => h.trans h'
  unfold recordChargeOutcome
  split
  · simp only
    split
    · split
      · exact .trans htrans (hgrace _) (hretry _)
      · exact hretry _
    · split
      · exact hgrace _
      · exact .refl .refl _
  · exact .refl .refl _

theorem recordChargeOutcome_frame (now : Int) (b : BookingId) (attemptId : AttemptId)
    (claimToken : Nat) (status : AttemptStatus) (details : OutcomeDetails) (db : Db) :
    (recordChargeOutcome now b attemptId claimToken status details db).2 =
      { db with
        bookings := (recordChargeOutcome now b attemptId claimToken status details db).2.bookings
        paymentAttempts :=
          (recordChargeOutcome now b attemptId claimToken status details db).2.paymentAttempts } := by
  unfold recordChargeOutcome
  split
  · simp only
    split
    · split
      · rfl
      · rfl
    · split
      · rfl
      · rfl
  · rfl

/-! ## The sweep -/

/-- The `WHERE` clause of `findBookingsDueForScheduledCharge`. -/
def dueForScheduledCharge (db : Db) (now : Int) (b : Booking) : Bool :=
  decide (b.paymentFlowVersion = .separateChargesDelayedV1)
    && decide (b.status = .pendingPayment)
    && b.scheduledChargeDate.any (fun t => decide (t ≤ now))
    && (b.gracePeriodStartedAt.isNone || b.holdExpiresAt.any fun t => decide (now < t))
    && b.nextRetryAt.all (fun t => decide (t ≤ now))
    && !db.hasSucceededAttempt b.id

def findBookingsDueForScheduledCharge (db : Db) (now : Int) : List BookingId :=
  ((db.bookings.select (dueForScheduledCharge db now)).map Booking.id).take 200

end HostPlatform
