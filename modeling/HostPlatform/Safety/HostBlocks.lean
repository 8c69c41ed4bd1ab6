-- SUMMARY: A host's block or unblock edits exactly the nights it reports, and leaves bookings and feeds alone.
import HostPlatform.Safety.SettledCalendar

/-!
# Host blocks

Each night is decided by the row that was on it before the loop. The rebuilding at the
end may write a row on the same night again, when the host's row was removed from it.
-/

namespace HostPlatform

open Lib.Transition

/-! ## What is claimed -/

/-- The dates of the two lists of an answer. -/
def BlockResult.dates (result : BlockResult) : List Int := result.blocked ++ result.skipped.map SkippedDate.date

/-- What an edit of the nights `[checkIn, checkOut)` on day `today` leaves in `db'`. -/
structure HostEditExact (db : Db) (today : Int) (p : PropertyId) (checkIn checkOut : Int) (action : MutateAction)
    (result : BlockResult) (db' : Db) : Prop where
  once : result.dates.Nodup
  listed : ∀ d, d ∈ result.dates ↔ checkIn ≤ d ∧ d < checkOut
  bookings : ∀ q d row, row.source = .booking → (db'.availability q d = some row ↔ db.availability q d = some row)
  blocked : action = .block → ∀ d, checkIn ≤ d → d < checkOut → db'.Unavailable p d
  unblocked : action = .unblock → ∀ d, checkIn ≤ d → d < checkOut →
    (¬ db'.Unavailable p d ↔
      (¬ ∃ row, db.availability p d = some row ∧ row.source = .booking) ∧ ¬ db.Covers p d)
  /-- A night outside the range keeps its row, unless that is an imported one of the property. -/
  outside : ∀ q d, ¬ (q = p ∧ checkIn ≤ d ∧ d < checkOut) → ∀ row, q ≠ p ∨ row.source ≠ .icalSync →
    (db'.availability q d = some row ↔ db.availability q d = some row)
  /-- The imported rows outside the range are the covered nights that no other row holds. -/
  rebuilt : ∀ d, ¬ (checkIn ≤ d ∧ d < checkOut) →
    ((∃ row, db'.availability p d = some row ∧ row.source = .icalSync) ↔
      today ≤ d ∧ db.Covers p d ∧ ¬ db.HeldAt p d)
  feeds : db.SameFeeds db'

/-! ## The lists -/

theorem nodup_enumerateDates (checkIn checkOut : Int) : (enumerateDates checkIn checkOut).Nodup := by
  refine List.Nodup.map (fun m n h => ?_) List.nodup_range
  exact Int.ofNat.inj (add_left_cancel h)

/-- Every date is in one of the lists, by whether there is a reason to skip it. -/
theorem dates_perm {reason : Int → Option String} (dates : List Int) :
    (dates.filter (fun d => (reason d).isNone) ++
      (dates.filterMap fun d => (reason d).map fun text => (⟨d, text⟩ : SkippedDate)).map SkippedDate.date).Perm
      dates := by
  induction dates with
  | nil => exact .refl _
  | cons d dates ih =>
    cases h : reason d with
    | none => simpa [h] using ih
    | some text => simpa [h] using List.perm_middle.trans (ih.cons d)

theorem mutateAvailability_dates (db : Db) (today : Int) (p : PropertyId) (checkIn checkOut : Int)
    (action : MutateAction) :
    (mutateAvailability db today p checkIn checkOut action).1.dates.Perm (enumerateDates checkIn checkOut) :=
  dates_perm (enumerateDates checkIn checkOut)

/-! ## The calendar -/

section

variable {db : Db} {today : Int} {p : PropertyId} {checkIn checkOut : Int} {action : MutateAction}

/-- The calendar after the loop, before it is rebuilt. -/
def editDates (db : Db) (p : PropertyId) (checkIn checkOut : Int) (action : MutateAction) : Db :=
  { db with
    availability := fun q d =>
      if q = p ∧ checkIn ≤ d ∧ d < checkOut then mutateDate action (db.availability q d)
      else db.availability q d }

theorem mutateAvailability_snd : (mutateAvailability db today p checkIn checkOut action).2 =
    reconcileCalendarAvailability (editDates db p checkIn checkOut action) p today := rfl

theorem editDates_of_range {q : PropertyId} {d : Int} (h : q = p ∧ checkIn ≤ d ∧ d < checkOut) :
    (editDates db p checkIn checkOut action).availability q d = mutateDate action (db.availability q d) := if_pos h

theorem editDates_of_outside {q : PropertyId} {d : Int} (h : ¬ (q = p ∧ checkIn ≤ d ∧ d < checkOut)) :
    (editDates db p checkIn checkOut action).availability q d = db.availability q d := if_neg h

theorem editDates_noOpenRow (h : db.NoOpenRow) : (editDates db p checkIn checkOut action).NoOpenRow := by
  intro q d row hrow
  by_cases hin : q = p ∧ checkIn ≤ d ∧ d < checkOut
  · rw [editDates_of_range hin] at hrow
    rcases mutateDate_taken hrow with hold | htaken
    · exact h q d row hold
    · exact htaken
  · rw [editDates_of_outside hin] at hrow
    exact h q d row hrow

/-- Every edit of nights from today on, of a settled calendar. -/
theorem Db.Settled.hostEdit {day : Int} (h : db.Settled day) (htoday : today ≤ checkIn) :
    HostEditExact db today p checkIn checkOut action (mutateAvailability db today p checkIn checkOut action).1
      (mutateAvailability db today p checkIn checkOut action).2 := by
  have hopen : (editDates db p checkIn checkOut action).NoOpenRow := editDates_noOpenRow h.noOpenRow
  have hperm := mutateAvailability_dates db today p checkIn checkOut action
  have hunavailable : ∀ d, checkIn ≤ d → ((mutateAvailability db today p checkIn checkOut action).2.Unavailable p d ↔
      (editDates db p checkIn checkOut action).HeldAt p d ∨ db.Covers p d) := fun d hin =>
    reconcile_unavailable_iff hopen (htoday.trans hin)
  have hheld : ∀ d, checkIn ≤ d → d < checkOut → ((editDates db p checkIn checkOut action).HeldAt p d ↔
      ∃ row, mutateDate action (db.availability p d) = some row ∧ (row.source = .host ∨ row.source = .booking)) := by
    intro d hin hout
    unfold Db.HeldAt
    rw [editDates_of_range ⟨rfl, hin, hout⟩]
  refine ⟨hperm.nodup_iff.mpr (nodup_enumerateDates _ _), fun d => hperm.mem_iff.trans mem_enumerateDates,
    ?_, ?_, ?_, ?_, ?_, ⟨rfl, rfl⟩⟩
  · intro q d row hsource
    rw [mutateAvailability_snd, reconcile_availability_iff (by rw [hsource]; nofun)]
    by_cases hin : q = p ∧ checkIn ≤ d ∧ d < checkOut
    · rw [editDates_of_range hin]
      exact mutateDate_booking_iff hsource
    · rw [editDates_of_outside hin]
  · rintro rfl d hin hout
    rw [hunavailable d hin, hheld d hin hout]
    rcases mutateDate_block (db.availability p d) with hrow | ⟨row, hrow, hsource⟩
    · exact .inl hrow
    · exact .inr (h.imported p d row hrow hsource)
  · rintro rfl d hin hout
    rw [hunavailable d hin, hheld d hin hout, mutateDate_unblock_iff, not_or]
  · intro q d hout row hrow
    by_cases hq : q = p
    · rw [mutateAvailability_snd, reconcile_availability_iff (hrow.resolve_left (not_not.mpr hq)),
        editDates_of_outside hout]
    · rw [mutateAvailability_snd, reconcile_availability_of_ne hq, editDates_of_outside hout]
  · intro d hout
    rw [mutateAvailability_snd, (reconcile_exact hopen).imported d]
    refine and_congr_right fun _ => and_congr_right fun _ => not_congr (reconcile_heldAt_iff.trans ?_)
    unfold Db.HeldAt
    rw [editDates_of_outside fun hin => hout hin.2]

end

/-- In every reachable calendar, an edit of future nights is exact. -/
theorem hostEdit_exact {db : Db} (hempty : db.EmptyCalendar) (txs : List Tx) {today checkIn : Int}
    (htoday : today ≤ checkIn) (checkOut : Int) (p : PropertyId) (action : MutateAction) :
    HostEditExact (run Tx.issue db txs) today p checkIn checkOut action
      (mutateAvailability (run Tx.issue db txs) today p checkIn checkOut action).1
      (mutateAvailability (run Tx.issue db txs) today p checkIn checkOut action).2 := by
  obtain ⟨day, hday⟩ := exists_upTo txs
  exact (settled_run hempty hday).hostEdit htoday

/-- The host unblocks five nights; the two imported ones stay taken. -/
theorem importedNights_unblocked :
    HostEditExact (run Tx.issue sampleDb importedNights) 0 1 100 105 .unblock
      (mutateAvailability (run Tx.issue sampleDb importedNights) 0 1 100 105 .unblock).1
      (mutateAvailability (run Tx.issue sampleDb importedNights) 0 1 100 105 .unblock).2 :=
  hostEdit_exact sampleDb_empty importedNights (by decide) 105 1 .unblock

example : (mutateAvailability (run Tx.issue sampleDb importedNights) 0 1 100 105 .unblock).1 =
    ⟨[103, 104], [⟨100, "cannot unblock a real booking"⟩, ⟨101, "managed by calendar sync"⟩,
      ⟨102, "managed by calendar sync"⟩]⟩ := by decide

end HostPlatform
