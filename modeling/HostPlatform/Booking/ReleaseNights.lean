-- SUMMARY: The statements every release of a booking shares: delete its calendar rows, rebuild the imported ones, change its row.
import HostPlatform.Calendar.CalendarSync

/-!
# Releasing the nights of a booking

`cancelBooking`, `releaseExpiredHold` and `discardUnpaidBooking` run the same
three statements, with their own `WHERE` clause and their own `SET`.
-/

namespace HostPlatform

/-- `DELETE FROM availability_blocks` over the nights `[checkIn, checkOut)`. -/
def deleteBlocks (db : Db) (propertyId : PropertyId) (checkIn checkOut : Int)
    (which : AvailabilityBlock → Bool) : Db :=
  { db with
    availability := fun p d =>
      if p = propertyId ∧ checkIn ≤ d ∧ d < checkOut then
        (db.availability p d).filter fun row => !which row
      else db.availability p d }

/-- Delete the rows of `b`'s nights, reconcile the calendar and update the row of `b`. -/
def releaseNights (db : Db) (today : Int) (b : Booking) (which : AvailabilityBlock → Bool)
    (set : Booking → Booking) (hset : ∀ r : Booking, Lib.key (set r) = Lib.key r := by intro r; rfl) :
    Db :=
  let deleted := deleteBlocks db b.propertyId b.checkIn b.checkOut which
  let reconciled := reconcileCalendarAvailability deleted b.propertyId today
  { reconciled with bookings := reconciled.bookings.modify b.id set hset }

theorem Booking.key_cancelled (row : Booking) : Lib.key { row with status := .cancelled } = Lib.key row := rfl

section

variable {db : Db} {today : Int} {b : Booking} {which : AvailabilityBlock → Bool}
  {set : Booking → Booking} {hset : ∀ r : Booking, Lib.key (set r) = Lib.key r}

theorem releaseNights_find? (b' : BookingId) :
    (releaseNights db today b which set hset).bookings.find? b' =
      if b' = b.id then (db.bookings.find? b').map set else db.bookings.find? b' := by
  unfold releaseNights
  rw [Lib.Table.find?_modify]
  split
  · rename_i h
    rw [h]
    rfl
  · rfl

/-- The booked rows left are those outside the nights of the booking. -/
theorem releaseNights_booked_iff (hwhich : which bookedBlock) (p : PropertyId) (d : Int) :
    (releaseNights db today b which set hset).availability p d = some bookedBlock ↔
      db.availability p d = some bookedBlock ∧ ¬ (p = b.propertyId ∧ d ∈ b.nights) := by
  unfold releaseNights
  refine (reconcile_availability_iff (by decide)).trans ?_
  unfold deleteBlocks Booking.nights
  simp only [Set.mem_Ico]
  split
  · rename_i hin
    cases hrow : db.availability p d with
    | none => simp
    | some row =>
      simp only [Option.filter_eq_some_iff, Option.some.injEq, hin, and_self, not_true, and_false,
        iff_false, not_and]
      rintro rfl
      simp [hwhich]
  · rename_i hout
    exact ⟨fun h => ⟨h, hout⟩, fun h => h.1⟩

end

end HostPlatform
