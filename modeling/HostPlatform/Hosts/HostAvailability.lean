-- SUMMARY: Host-made blocks on the calendar (`hostAvailability.ts`).
import HostPlatform.Calendar.CalendarSync
import Mathlib.Data.Int.Interval

/-!
# Host-made blocks

A host blocks and unblocks nights of the calendar by hand. A night belongs to one
source: those of a booking or an imported feed are skipped with a reason, and the
others are written in one transaction.
-/

namespace HostPlatform

/-- The dates of `[checkIn, checkOut)` in order. -/
def enumerateDates (checkIn checkOut : Int) : List Int :=
  (List.range (checkOut - checkIn).toNat).map fun n : Nat => checkIn + (n : Int)

theorem mem_enumerateDates {checkIn checkOut d : Int} :
    d ∈ enumerateDates checkIn checkOut ↔ checkIn ≤ d ∧ d < checkOut := by
  simp only [enumerateDates, List.mem_map, List.mem_range]
  constructor
  · rintro ⟨n, hn, rfl⟩
    omega
  · intro h
    exact ⟨(d - checkIn).toNat, by omega, by omega⟩

inductive MutateAction where
  | block | unblock
  deriving DecidableEq, Repr

structure SkippedDate where
  date : Int
  reason : String
  deriving DecidableEq, Repr

structure BlockResult where
  blocked : List Int
  skipped : List SkippedDate
  deriving DecidableEq, Repr

/-- Why a date is left alone, from its row before the transaction. -/
def skipReason (action : MutateAction) (existing : Option AvailabilityBlock) : Option String :=
  match existing with
  | some row =>
    match row.source with
    | .booking => some (match action with
      | .block => "already booked"
      | .unblock => "cannot unblock a real booking")
    | .icalSync => some "managed by calendar sync"
    | .host => none
  | none => none

/-- The row a date ends with: `block` inserts or overwrites a host row,
`unblock` deletes one. -/
def mutateDate (action : MutateAction) (existing : Option AvailabilityBlock) :
    Option AvailabilityBlock :=
  match skipReason action existing, action with
  | some _, _ => existing
  | none, .block => some ⟨.blocked, .host⟩
  | none, .unblock => none

def mutateAvailability (db : Db) (today : Int) (propertyId : PropertyId) (checkIn checkOut : Int)
    (action : MutateAction) : BlockResult × Db :=
  let dates := enumerateDates checkIn checkOut
  let result : BlockResult :=
    { blocked := dates.filter fun d => (skipReason action (db.availability propertyId d)).isNone
      skipped := dates.filterMap fun d =>
        (skipReason action (db.availability propertyId d)).map fun reason => ⟨d, reason⟩ }
  let mutated : Db :=
    { db with
      availability := fun p d =>
        if p = propertyId ∧ checkIn ≤ d ∧ d < checkOut then mutateDate action (db.availability p d)
        else db.availability p d }
  (result, reconcileCalendarAvailability mutated propertyId today)

def blockDates (db : Db) (today : Int) (propertyId : PropertyId) (checkIn checkOut : Int) :
    BlockResult × Db :=
  mutateAvailability db today propertyId checkIn checkOut .block

def unblockDates (db : Db) (today : Int) (propertyId : PropertyId) (checkIn checkOut : Int) :
    BlockResult × Db :=
  mutateAvailability db today propertyId checkIn checkOut .unblock

/-- A row of a booking is skipped, and none is written. -/
theorem mutateDate_booking_iff {action : MutateAction} {existing : Option AvailabilityBlock}
    {row : AvailabilityBlock} (hrow : row.source = .booking) :
    mutateDate action existing = some row ↔ existing = some row := by
  obtain ⟨status, source⟩ := row
  cases hrow
  cases existing with
  | none => cases action <;> simp [mutateDate, skipReason]
  | some old =>
    obtain ⟨oldStatus, oldSource⟩ := old
    cases action <;> cases oldSource <;> simp [mutateDate, skipReason]

theorem mutateDate_eq_booked_iff {action : MutateAction} {existing : Option AvailabilityBlock} :
    mutateDate action existing = some bookedBlock ↔ existing = some bookedBlock := mutateDate_booking_iff rfl

/-- A blocked date ends with a row of a host or a booking, unless it was imported. -/
theorem mutateDate_block (existing : Option AvailabilityBlock) :
    (∃ row, mutateDate .block existing = some row ∧ (row.source = .host ∨ row.source = .booking)) ∨
      ∃ row, existing = some row ∧ row.source = .icalSync := by
  cases existing with
  | none => exact .inl ⟨_, rfl, .inl rfl⟩
  | some old =>
    obtain ⟨status, source⟩ := old
    cases source with
    | host => exact .inl ⟨_, rfl, .inl rfl⟩
    | booking => exact .inl ⟨_, rfl, .inr rfl⟩
    | icalSync => exact .inr ⟨_, rfl, rfl⟩

/-- On an unblocked date only a booking's row is left. -/
theorem mutateDate_unblock_iff {existing : Option AvailabilityBlock} :
    (∃ row, mutateDate .unblock existing = some row ∧ (row.source = .host ∨ row.source = .booking)) ↔
      ∃ row, existing = some row ∧ row.source = .booking := by
  cases existing with
  | none => simp [mutateDate, skipReason]
  | some old =>
    obtain ⟨status, source⟩ := old
    cases source <;> simp [mutateDate, skipReason]

/-- A host edit neither removes nor adds a row written by a booking. -/
theorem mutateAvailability_booked_iff {db : Db} {today : Int} {propertyId : PropertyId}
    {checkIn checkOut : Int} {action : MutateAction} {p : PropertyId} {d : Int} :
    (mutateAvailability db today propertyId checkIn checkOut action).2.availability p d
      = some bookedBlock ↔ db.availability p d = some bookedBlock := by
  refine (reconcile_availability_iff (by decide)).trans ?_
  simp only
  split
  · exact mutateDate_eq_booked_iff
  · exact Iff.rfl

end HostPlatform
