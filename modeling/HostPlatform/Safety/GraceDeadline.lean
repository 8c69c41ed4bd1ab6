-- SUMMARY: When the deadline of a started grace period stays where the first failed charge put it.
import HostPlatform.Safety.NoDoubleCharge
import HostPlatform.WorldFrames

/-!
# The grace deadline

The first charge outcome that is not a success starts the grace period, 72 hours
before its deadline. Later outcomes keep both. A delivery of `setup_intent.succeeded`
that defers the charge clears the deadline of any pending booking: a delivery that
read its clock before the 60-day boundary may write after the charge of another one.
-/

namespace HostPlatform

open Lib (Table)
open Lib.Transition

/-- A started grace period ends 72 hours after it started. -/
def Booking.GraceFixed (r : Booking) : Prop :=
  ∀ g, r.gracePeriodStartedAt = some g → r.holdExpiresAt = some (g + gracePeriodHours * msPerHour)

instance (r : Booking) : Decidable r.GraceFixed :=
  match h : r.gracePeriodStartedAt with
  | none => isTrue fun g hg => by rw [h] at hg; cases hg
  | some g =>
    if hhold : r.holdExpiresAt = some (g + gracePeriodHours * msPerHour) then
      isTrue fun g' hg' => by rw [h] at hg'; cases hg'; exact hhold
    else isFalse fun hfixed => hhold (hfixed g h)

/-- Every pending booking whose grace period has started has its deadline. -/
def World.GraceHeld (w : World) : Prop :=
  ∀ b r, w.db.bookings.find? b = some r → r.status = .pendingPayment → r.GraceFixed

/-- The deadlines of the pending bookings in their grace period are the same later. -/
def World.KeepsGrace (w w' : World) : Prop :=
  ∀ b r g, w.db.bookings.find? b = some r → r.status = .pendingPayment →
    r.gracePeriodStartedAt = some g → ∃ r', w'.db.bookings.find? b = some r' ∧
      r'.gracePeriodStartedAt = some g ∧ r'.holdExpiresAt = r.holdExpiresAt

/-- No decision taken at the deadline or after it calls Stripe. -/
def World.RefusesLate (w : World) : Prop :=
  ∀ b r g, w.db.bookings.find? b = some r → r.status = .pendingPayment →
    r.gracePeriodStartedAt = some g → ∀ now token amountMinor currency claim,
      g + gracePeriodHours * msPerHour ≤ now →
        (decideCharge now token b amountMinor currency w.db).1 ≠ .charge claim

/-- Over the whole run the deadlines of grace periods are what they should be, never
move, and bind every decision. -/
structure DeadlineFixed (w : World) (ls : List Label) : Prop where
  held : ∀ pre suf, ls = pre ++ suf → (run World.step w pre).GraceHeld
  stays : ∀ pre mid suf, ls = pre ++ mid ++ suf →
    (run World.step w pre).KeepsGrace (run World.step w (pre ++ mid))
  refuses : ∀ pre suf, ls = pre ++ suf → (run World.step w pre).RefusesLate

/-- A delivery that defers the charge finds no grace period started. -/
def DefersBeforeGrace (w : World) (l : Label) : Prop :=
  ∀ now b r, l = .setupIntentContinue now b → b ∈ w.setupHandlers →
    w.db.bookings.find? b = some r → r.status = .pendingPayment →
    (decideChargeTiming r.checkIn now).immediate = false → r.gracePeriodStartedAt = none

/-! ## One update -/

/-- An update other than a cleared hold keeps a started grace period and its deadline. -/
theorem Booking.Updated.grace {t : Tx} {r r' : Booking} (h : r.Updated t r') {g : Int}
    (hg : r.gracePeriodStartedAt = some g)
    (hclear : t = .clearHold r.id → r.status ≠ .pendingPayment) :
    r'.gracePeriodStartedAt = some g ∧ r'.holdExpiresAt = r.holdExpiresAt := by
  cases h with
  | holdCleared ht hpending => exact absurd hpending (hclear ht)
  | unsettled now attemptId claimToken status details ht hpending =>
    simp only [establishGracePeriod, hg, Option.getD_some, reduceCtorEq, if_false, and_self]
  | failed now attemptId claimToken details ht hpending =>
    simp only [scheduleNextRetry, establishGracePeriod, hg, Option.getD_some, reduceCtorEq, if_false,
      and_self]
  | _ => exact ⟨hg, rfl⟩

/-- An update other than a cleared hold keeps the 72 hours. -/
theorem Booking.Updated.graceFixed {t : Tx} {r r' : Booking} (h : r.Updated t r') (hr : r.GraceFixed)
    (hclear : t = .clearHold r.id → r.status = .pendingPayment → r.gracePeriodStartedAt = none) :
    r'.GraceFixed := by
  intro g hg'
  cases hstarted : r.gracePeriodStartedAt with
  | some g₀ =>
    obtain ⟨hg, hhold⟩ := h.grace hstarted fun ht hpending => by
      rw [hclear ht hpending] at hstarted
      cases hstarted
    rw [hg] at hg'
    cases hg'
    rw [hhold]
    exact hr g hstarted
  | none =>
    -- The update starts the grace period: only an outcome does.
    cases h with
    | unsettled now attemptId claimToken status details ht hpending =>
      simp only [establishGracePeriod, hstarted, Option.getD_none, Option.some.injEq, if_true] at hg' ⊢
      rw [hg']
    | failed now attemptId claimToken details ht hpending =>
      simp only [scheduleNextRetry, establishGracePeriod, hstarted, Option.getD_none,
        Option.some.injEq, if_true] at hg' ⊢
      rw [hg']
    | _ =>
      rw [show _ = none from hstarted] at hg'
      cases hg'

/-- A decision to charge found no expired grace period. -/
theorem not_graceExpired_of_charge {now : Int} {token : Nat} {b : BookingId} {amountMinor : Int}
    {currency : String} {db : Db} {claim : ChargeClaim} {r : Booking} (hr : db.bookings.find? b = some r)
    (h : (decideCharge now token b amountMinor currency db).1 = .charge claim) :
    graceExpired r now = false := by
  obtain ⟨booking, hb, hpassed, -⟩ := decideCharge_passed h
  rw [hr] at hb
  cases hb
  exact (bookingRefusal_eq_none hpassed).2.2.2.2

/-! ## One step -/

/-- Every started grace period, of whatever status, ends 72 hours after it started. -/
def World.GraceFixed (w : World) : Prop := ∀ b r, w.db.bookings.find? b = some r → r.GraceFixed

/-- Started grace periods stay as they are. -/
def World.GraceStays (w w' : World) : Prop :=
  ∀ b r g, w.db.bookings.find? b = some r → r.gracePeriodStartedAt = some g →
    ∃ r', w'.db.bookings.find? b = some r' ∧ r'.gracePeriodStartedAt = some g ∧
      r'.holdExpiresAt = r.holdExpiresAt

section

variable {w : World} {l : Label}

/-- In a guarded step a hold is cleared only before the grace period starts. -/
theorem DefersBeforeGrace.cleared (hguard : DefersBeforeGrace w l) {b : BookingId} {r : Booking}
    (hr : w.db.bookings.find? b = some r) {t : Tx} (hruns : World.Runs w l t)
    (ht : t = .clearHold r.id) (hpending : r.status = .pendingPayment) :
    r.gracePeriodStartedAt = none := by
  obtain rfl : r.id = b := Table.key_of_find? hr
  cases hruns with
  | transaction t halone =>
    rw [ht] at halone
    cases halone
  | clearHold now b booking hhandler hbooking hdeferred =>
    cases ht
    rw [hr] at hbooking
    cases hbooking
    exact hguard now r.id r rfl hhandler hr hpending (by simpa using hdeferred)
  | _ => cases ht

theorem World.GraceFixed.step (h : w.GraceFixed) (hguard : DefersBeforeGrace w l) :
    (w.step l).GraceFixed := by
  intro b r' hr'
  rcases w.row_cases l hr' with ⟨r, hr, rfl | ⟨t, hruns, hupdated⟩⟩ |
    ⟨-, now, isDelayedFlow, input, hostId, rules, -, rfl⟩
  · exact h b r' hr
  · exact hupdated.graceFixed (h b r hr) (hguard.cleared hr hruns)
  · intro g hg
    cases hg

theorem World.GraceStays.of_step (hguard : DefersBeforeGrace w l) : w.GraceStays (w.step l) := by
  intro b r g hr hg
  obtain ⟨r', hr', rfl | ⟨t, hruns, hupdated⟩⟩ := w.row_updated l hr
  · exact ⟨r', hr', hg, rfl⟩
  · refine ⟨r', hr', hupdated.grace hg fun ht hpending => ?_⟩
    rw [hguard.cleared hr hruns ht hpending] at hg
    cases hg

theorem World.GraceHeld.refusesLate (h : w.GraceHeld) : w.RefusesLate := by
  intro b r g hr hpending hg now token amountMinor currency claim hlate hcharge
  have hexpired := not_graceExpired_of_charge hr hcharge
  simp only [graceExpired, hg, h b r hr hpending g hg, Option.isSome_some, Option.getD_some, hlate,
    decide_true, Bool.and_self, Bool.true_eq_false] at hexpired

/-- A delivery that defers the charge of a pending booking clears its deadline. -/
theorem World.step_deferred (hpriced : w.db.Priced) {now : Int} {b : BookingId} {r : Booking}
    (hhandler : b ∈ w.setupHandlers) (hr : w.db.bookings.find? b = some r)
    (hpending : r.status = .pendingPayment)
    (hdeferred : (decideChargeTiming r.checkIn now).immediate = false) :
    (w.step (.setupIntentContinue now b)).db.bookings.find? b = some { r with holdExpiresAt := none } := by
  obtain ⟨pc, hpc⟩ := hpriced b r hr
  obtain rfl : r.id = b := Table.key_of_find? hr
  have hdb : (w.step (.setupIntentContinue now r.id)).db = clearHold r.id w.db := by
    simp only [step, setupIntentContinue, if_pos hhandler, hr, hpc, hdeferred, Bool.false_eq_true, if_false]
    rfl
  rw [hdb]
  refine (find?_updatePendingBooking w.db r.id (fun b => { b with holdExpiresAt := none })
    (fun _ => rfl) r.id).trans ?_
  rw [hr, Option.map_some, if_pos (decide_eq_true ⟨rfl, hpending⟩)]

theorem World.GraceHeld.defersBeforeGrace (hpriced : w.db.Priced) (h : (w.step l).GraceHeld) :
    DefersBeforeGrace w l := by
  rintro now b r rfl hhandler hr hpending hdeferred
  by_contra hstarted
  obtain ⟨g, hg⟩ := Option.ne_none_iff_exists'.mp hstarted
  have hhold := h b _ (World.step_deferred hpriced hhandler hr hpending hdeferred) hpending g hg
  cases hhold

end

/-! ## Whole runs -/

/-- From a database without bookings, the deadlines of a run are fixed exactly if every
delivery that defers a charge finds the grace period not started. -/
theorem deadlineFixed_iff {db : Db} (hbookings : db.bookings.rows = []) (ls : List Label) :
    DeadlineFixed (World.start db) ls ↔ Guarded World.step DefersBeforeGrace (World.start db) ls := by
  have hpriced : ∀ pre, (run World.step (World.start db) pre).db.Priced := fun pre =>
    run_invariant' (I := fun w : World => w.db.Priced) (fun w l h => w.priced_step h l)
      (Db.Priced.of_no_bookings hbookings) pre
  constructor
  · intro h
    refine guarded_iff.mpr fun pre l suf hls => ?_
    apply World.GraceHeld.defersBeforeGrace (hpriced pre)
    rw [← run_concat World.step]
    exact h.held (pre ++ [l]) suf (by rw [hls]; simp)
  · intro hguard
    have hfixed : ∀ pre suf, ls = pre ++ suf → (run World.step (World.start db) pre).GraceHeld := by
      rintro pre suf rfl b r hr -
      refine run_invariant (I := World.GraceFixed) (fun w l h hl => h.step hl) ?_
        (guarded_append.mp hguard).1 b r hr
      intro b r hr
      have hmem : r ∈ db.bookings.rows := Table.mem_of_find? hr
      rw [hbookings] at hmem
      cases hmem
    refine ⟨hfixed, ?_, fun pre suf hls => (hfixed pre suf hls).refusesLate⟩
    rintro pre mid suf rfl b r g hr - hg
    have hmid := (guarded_append.mp (guarded_append.mp hguard).1).2
    rw [run_append]
    refine run_relates (I := fun _ => True) (R := World.GraceStays) (fun _ _ h => h) ?_ ?_ ?_ trivial hmid
      b r g hr hg
    · intro w b r g hr hg
      exact ⟨r, hr, hg, rfl⟩
    · intro w w' w'' h h' b r g hr hg
      obtain ⟨r', hr', hg', hhold⟩ := h b r g hr hg
      obtain ⟨r'', hr'', hg'', hhold'⟩ := h' b r' g hr' hg'
      exact ⟨r'', hr'', hg'', hhold'.trans hhold⟩
    · intro w l _ hl
      exact World.GraceStays.of_step hl

/-- The charge that is due after the deferral is declined once. -/
theorem declinedThenCharged_deadlineFixed : DeadlineFixed (World.start sampleDb) declinedThenCharged := by
  refine (deadlineFixed_iff rfl declinedThenCharged).mpr ?_
  have hother : ∀ {w : World} {l : Label}, (∀ now b, l ≠ .setupIntentContinue now b) →
      DefersBeforeGrace w l := fun hl now b r h => absurd h (hl now b)
  refine ⟨hother nofun, hother nofun, hother nofun, hother nofun, ?_, hother nofun, hother nofun,
    hother nofun, hother nofun, hother nofun, hother nofun, hother nofun, hother nofun, trivial⟩
  intro now b r hl _ hr _ _
  cases hl
  have hgrace : ((run World.step (World.start sampleDb) cardSaved.dropLast).db.bookings.find? 1).map
      Booking.gracePeriodStartedAt = some none := by decide
  rw [show (run World.step (World.start sampleDb) cardSaved.dropLast).db.bookings.find? 1 = some r
    from hr] at hgrace
  exact Option.some.inj hgrace

/-- Two deliveries around the 60-day boundary: the one that read its clock a
millisecond later charges, and is declined before the other one defers. -/
def deferredLate : List Label :=
  [ .transaction (.createBooking (39 * msPerDay - msPerMinute) true (sampleRequest "a")),
    .transaction (.saveSetupIntent 1 1 1),
    .transaction (.configureTaxTreatment 1 .platformRemits),
    .setupIntentSucceeded 1 1,
    .setupIntentSucceeded 1 1,
    .setupIntentContinue (39 * msPerDay + 1) 1,
    .charge (39 * msPerDay + 2) 1 (.processed .declined none true),
    .charge (39 * msPerDay + 2) 1 (.processed .declined none true),
    .charge (39 * msPerDay + 2) 1 (.processed .declined none true),
    .setupIntentContinue (39 * msPerDay) 1 ]

/-- The booking is in its grace period, and has no deadline. -/
theorem deferredLate_notFixed : ¬ DeadlineFixed (World.start sampleDb) deferredLate := by
  intro h
  have hheld := h.held deferredLate [] (by simp)
  have hrow : ((run World.step (World.start sampleDb) deferredLate).db.bookings.find? 1).all
      fun r => decide (r.status = .pendingPayment → r.GraceFixed) := by
    cases hr : (run World.step (World.start sampleDb) deferredLate).db.bookings.find? 1 with
    | none => rfl
    | some r => exact decide_eq_true (hheld 1 r hr)
  revert hrow
  decide

end HostPlatform
