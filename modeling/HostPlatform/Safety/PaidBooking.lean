-- SUMMARY: When a booking that has been paid is released as unpaid.
import HostPlatform.ChargeLinks

/-!
# Releasing unpaid bookings

A hold that expires and a guest who discards a booking both cancel a
`pending_payment` booking. `releaseExpiredHold` trusts the status. For a legacy payment
it can, since both change in one transaction; for an off-session charge it cannot.
`discardUnpaidBooking` looks for payments first, but holds a lock on the booking row only,
and the outcome of a charge is recorded on the attempt under the advisory lock: a success
that commits between the check and the writes goes unseen.
-/

namespace HostPlatform

open Lib (Table)
open Lib.Transition

/-! ## Legacy payments -/

/-- Money was received for no booking that still waits for it. -/
structure PaidNotPending (w : World) : Prop where
  linked : w.Linked
  paid : ∀ p ∈ w.view.payments.rows, p.status.received →
    w.db.statusOf p.bookingId ≠ some .pendingPayment

/-- A booking with a payments row does not start to wait for payment. -/
theorem World.Linked.pending_step {w : World} (hinv : w.Linked) {p : Payment}
    (hp : p ∈ w.view.payments.rows) (l : Label)
    (hpending : (w.step l).db.statusOf p.bookingId = some .pendingPayment) :
    w.db.statusOf p.bookingId = some .pendingPayment := by
  obtain ⟨r, hr, -⟩ := Option.map_eq_some_iff.mp (hinv.payments p hp).flow
  obtain ⟨r', hr', hst'⟩ := Db.statusOf_eq_some.mp hpending
  exact Db.statusOf_eq_some.mpr ⟨r, hr, (w.bookingsGrow_step l).pending _ r r' hr hr' hst'⟩

theorem PaidNotPending.step {w : World} (hinv : PaidNotPending w) (l : Label) :
    PaidNotPending (w.step l) := by
  refine ⟨hinv.linked.step l, ?_⟩
  -- A row that was there before, with a status that was received before.
  have hold : ∀ p ∈ w.view.payments.rows, p.status.received →
      (w.step l).db.statusOf p.bookingId ≠ some .pendingPayment := fun p hp hreceived hpending =>
    hinv.paid p hp hreceived (hinv.linked.pending_step hp l hpending)
  cases w.checkoutStep l with
  | frame h => rw [h]; exact hold
  | started b hflow h => rw [h]; exact hold
  | ended call h => rw [h]; exact hold
  | read call phase hcall hread h => rw [h]; exact hold
  | reused call cb i hcall hphase h => rw [h]; exact hold
  | created call cb hlabel hcall hphase hpos h => rw [h]; exact hold
  | createdLost call cb hcall hphase h => rw [h]; exact hold
  | upserted call cb i db hcall hphase hupsert h =>
    rw [h]
    intro p hp hreceived
    rcases mem_upsertPayment hupsert hp with ⟨hp, -⟩ | ⟨-, -, hst, -⟩
    · exact hold p hp hreceived
    · rw [hst] at hreceived
      cases hreceived
  | moved i status hfind hmove h => rw [h]; exact hold
  | charged call claim status hcall hphase hnew h => rw [h]; exact hold
  | paid i hfind hsucceeded hflow hstatus h =>
    rw [h]
    intro p hp hreceived
    obtain ⟨q, hq, rfl⟩ := (Table.mem_updateWhere (by intro r; rfl)).mp hp
    split at hreceived
    · rename_i hnamed
      -- The row names the intent, so it is the row of the booking just confirmed.
      obtain ⟨r, hr, hb, -⟩ := (hinv.linked.payments q hq).intent i.id (by simpa using hnamed)
      have hri : w.stripe.intents.find? i.id = some r := hr
      rw [hfind] at hri
      cases hri
      rw [if_pos hnamed]
      show _ ≠ _
      rw [← hb]
      exact hstatus
    · rename_i hnamed
      rw [if_neg hnamed]
      exact hold q hq hreceived
  | failed intent h =>
    rw [h]
    intro p hp hreceived
    obtain ⟨q, hq, rfl⟩ := (Table.mem_updateWhere (by intro r; rfl)).mp hp
    split at hreceived
    · cases hreceived
    · rename_i hnamed
      rw [if_neg hnamed]
      exact hold q hq hreceived
  | refunded b fullyRefunded hstatus h =>
    rw [h]
    intro p hp hreceived
    obtain ⟨q, hq, rfl⟩ := (Table.mem_updateWhere (by intro r; rfl)).mp hp
    split at hreceived
    · rename_i hb
      have hb' : q.bookingId = b := beq_iff_eq.mp hb
      rw [if_pos hb]
      show (w.step l).db.statusOf q.bookingId ≠ _
      rw [hb']
      exact hstatus
    · rename_i hb
      rw [if_neg hb]
      exact hold q hq hreceived

theorem PaidNotPending.hasLegacyPayment {w : World} (hinv : PaidNotPending w) {b : BookingId}
    (hpending : w.db.statusOf b = some .pendingPayment) : w.db.hasLegacyPayment b = false := by
  unfold Db.hasLegacyPayment
  cases hp : w.db.payments.find? b with
  | none => rfl
  | some p =>
    have hb : p.bookingId = b := Table.key_of_find? hp
    by_contra hreceived
    refine hinv.paid p (Table.mem_of_find? hp) (by simpa using hreceived) ?_
    rw [hb]
    exact hpending

/-! ## Releases -/

/-- A hold expires, or the guest discards the booking. The first is one step: it reads
nothing but the row it locks. -/
inductive Label.IsRelease : Label → Prop
  | expired (now : Int) (b : BookingId) : IsRelease (.transaction (.releaseExpiredHold now b))
  | discarded (now : Int) (call : Nat) : IsRelease (.discard now call)

/-- A release cancels no booking with a succeeded attempt or a received payment. -/
def ReleasesUnpaid (w : World) (l : Label) : Prop :=
  l.IsRelease → ∀ b, w.db.statusOf b ≠ some .cancelled → (w.step l).db.statusOf b = some .cancelled →
    w.db.hasSucceededAttempt b = false ∧ w.db.hasLegacyPayment b = false

/-- The row a discard is about to write: it has passed its check and holds its lock. -/
def DiscardCall.releases (call : DiscardCall) (db : Db) : Option Booking :=
  match call.phase with
  | .locking _ => none
  | .writing booking => if booking.Held db then some booking.row else none

/-- The booking row a release is about to cancel. -/
def World.releases (w : World) : Label → Option Booking
  | .transaction (.releaseExpiredHold now b) => expiredHold now b w.db
  | .discard _ call => (w.discards.find? call).bind fun c => c.releases w.db
  | _ => none

/-- At its writes a release has no succeeded attempt of its booking before it. -/
def FindsUnpaid (w : World) (l : Label) : Prop :=
  ∀ row ∈ w.releases l, w.db.hasSucceededAttempt row.id = false

instance (w : World) (l : Label) : Decidable (FindsUnpaid w l) :=
  inferInstanceAs (Decidable (∀ row ∈ w.releases l, _))

/-- A release about to cancel a row cancels it, and cancels nothing else. -/
structure World.Cancels (w : World) (row : Booking) (db : Db) : Prop where
  find : w.db.bookings.find? row.id = some row
  pending : row.status = .pendingPayment
  cancelled : db.statusOf row.id = some .cancelled
  others : ∀ b, b ≠ row.id → db.statusOf b = w.db.statusOf b

theorem World.cancels_releaseNights {w : World} {row : Booking} {today : Int}
    {which : AvailabilityBlock → Bool} {set : Booking → Booking} {hset}
    (hfind : w.db.bookings.find? row.id = some row) (hpending : row.status = .pendingPayment)
    (hcancel : (set row).status = .cancelled) :
    w.Cancels row (releaseNights w.db today row which set hset) where
  find := hfind
  pending := hpending
  cancelled := by
    unfold Db.statusOf
    rw [releaseNights_find?, if_pos rfl, hfind]
    exact congrArg some hcancel
  others b hb := by
    unfold Db.statusOf
    rw [releaseNights_find?, if_neg hb]

/-- A release that is about to cancel no row leaves the database as it is. -/
theorem World.release_step {w : World} {l : Label} (hrelease : l.IsRelease) :
    match w.releases l with
    | none => (w.step l).db = w.db
    | some row => w.Cancels row (w.step l).db := by
  cases hrelease with
  | expired now b =>
    show match expiredHold now b w.db with
      | none => (releaseExpiredHold now b w.db).2 = w.db
      | some row => w.Cancels row (releaseExpiredHold now b w.db).2
    unfold releaseExpiredHold
    cases hr : expiredHold now b w.db with
    | none => rfl
    | some row =>
      obtain ⟨hfind, hpending, -⟩ := expiredHold_eq_some hr
      obtain rfl : row.id = b := Table.key_of_find? hfind
      exact cancels_releaseNights hfind hpending rfl
  | discarded now call =>
    simp only [World.releases, World.step]
    cases hcall : w.discards.find? call with
    | none => rfl
    | some c =>
      simp only [Option.bind_some, DiscardCall.releases, World.stepDiscard]
      cases c.phase with
      | locking proofs =>
        simp only
        split
        · rfl
        · rfl
      | writing booking =>
        simp only
        by_cases hheld : booking.Held w.db
        · rw [if_pos hheld]
          simp only [Tx.exec, discardLocked_of_held hheld]
          exact cancels_releaseNights hheld booking.pending rfl
        · rw [if_neg hheld]
          exact if_neg hheld

/-- With the payments invariant, only the attempts of the booking are in question. -/
theorem releasesUnpaid_iff {w : World} (hinv : PaidNotPending w) (l : Label) :
    ReleasesUnpaid w l ↔ FindsUnpaid w l := by
  constructor
  · intro h row hrow
    have hrelease : l.IsRelease := by
      unfold World.releases at hrow
      split at hrow
      · exact .expired _ _
      · exact .discarded _ _
      · cases hrow
    have hcancels := World.release_step (w := w) hrelease
    rw [Option.mem_def.mp hrow] at hcancels
    refine (h hrelease row.id ?_ hcancels.cancelled).1
    intro hcancelled
    obtain ⟨row', hfind, hst⟩ := Db.statusOf_eq_some.mp hcancelled
    rw [hcancels.find] at hfind
    cases hfind
    rw [hcancels.pending] at hst
    cases hst
  · intro h hrelease b hlive hcancelled
    have hcancels := World.release_step (w := w) hrelease
    cases hrow : w.releases l with
    | none =>
      rw [hrow] at hcancels
      rw [hcancels] at hcancelled
      exact absurd hcancelled hlive
    | some row =>
      rw [hrow] at hcancels
      have hb : b = row.id := by
        by_contra hne
        rw [hcancels.others b hne] at hcancelled
        exact hlive hcancelled
      subst hb
      -- The row still waits for payment, so no legacy payment can have been received.
      have hpending := Db.statusOf_eq_some.mpr ⟨row, hcancels.find, hcancels.pending⟩
      exact ⟨h row hrow, hinv.hasLegacyPayment hpending⟩

/-! ## Whole runs -/

/-- From a database without payments, a run releases unpaid bookings only, exactly when
no release reaches its writes after a charge of its booking was recorded as succeeded. -/
theorem releasesUnpaid_run_iff {db : Db} (hpayments : db.payments.rows = []) (ls : List Label) :
    Guarded World.step ReleasesUnpaid (World.start db) ls ↔
      Guarded World.step FindsUnpaid (World.start db) ls := by
  refine guarded_congr (fun w l hinv => hinv.step l) (fun w l hinv => releasesUnpaid_iff hinv l) ?_
  refine ⟨.start hpayments, fun p hp => ?_⟩
  have hp' : p ∈ db.payments.rows := hp
  rw [hpayments] at hp'
  cases hp'

/-- The webhook confirms one booking before its hold expires, and another booking is
discarded while nobody charges it. -/
def releasedUnpaid : List Label :=
  chargedAtOnce ++
    [ .paymentSucceeded (60 * msPerDay) 1,
      .insertEntitlement 1,
      .transaction (.releaseExpiredHold (61 * msPerDay) 1),
      .transaction (.createBooking (60 * msPerDay) true
        { sampleRequest "b" with checkIn := 110, checkOut := 112 }),
      .startDiscard 2 1,
      .discard (60 * msPerDay) 1,
      .discard (60 * msPerDay) 1 ]

theorem releasedUnpaid_releasesUnpaid :
    Guarded World.step ReleasesUnpaid (World.start sampleDb) releasedUnpaid := by
  refine (releasesUnpaid_run_iff rfl releasedUnpaid).mpr ?_
  decide

/-- The hold expires before the webhook arrives. -/
def expiredBeforeWebhook : List Label :=
  chargedAtOnce ++ [.transaction (.releaseExpiredHold (61 * msPerDay) 1)]

/-- The guest discards the booking while Stripe charges the card: the check comes before
the outcome is recorded, the writes come after. -/
def discardedWhileCharged : List Label :=
  chargedAtOnce.dropLast ++
    [ .startDiscard 1 1,
      .discard (60 * msPerDay) 1,
      .charge (60 * msPerDay) 1 (.processed .succeeded none true),
      .discard (60 * msPerDay) 1 ]

/-- The booking whose charge succeeded is released, each way. -/
theorem expired_or_discarded_paid :
    ¬ Guarded World.step ReleasesUnpaid (World.start sampleDb) expiredBeforeWebhook ∧
      ¬ Guarded World.step ReleasesUnpaid (World.start sampleDb) discardedWhileCharged := by
  constructor
  · intro h
    have hrelease := guarded_iff.mp h chargedAtOnce
      (.transaction (.releaseExpiredHold (61 * msPerDay) 1)) [] rfl
    exact absurd (hrelease (.expired _ _) 1 (by decide) (by decide)).1 (by decide)
  · intro h
    have hrelease := guarded_iff.mp h discardedWhileCharged.dropLast (.discard (60 * msPerDay) 1) [] rfl
    exact absurd (hrelease (.discarded _ _) 1 (by decide) (by decide)).1 (by decide)

end HostPlatform
