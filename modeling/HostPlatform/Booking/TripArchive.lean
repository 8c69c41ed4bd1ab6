-- SUMMARY: A guest removes an ended booking from the trip history (`archiveBooking`).
import HostPlatform.Booking.TripHistory
import HostPlatform.BookingUpdates

/-!
# The archive

Archiving sets `archived_at` and nothing else; the list of trips leaves out what has it set.
Discarding an unpaid booking sets it too.
-/

namespace HostPlatform

open Lib (Table commit)

/-- `ARCHIVABLE_STATUSES`. -/
def archivableStatuses : List BookingStatus := [.cancelled, .completed, .refunded]

theorem terminal_of_archivable {st : BookingStatus} (h : st ∈ archivableStatuses) : st.terminal := by
  cases st <;> simp_all [archivableStatuses, BookingStatus.terminal]

theorem Booking.key_archived (now : Int) (row : Booking) :
    Lib.key { row with archivedAt := some now } = Lib.key row := rfl

/-- `UPDATE bookings SET archived_at = NOW() WHERE id = $1`. -/
def setArchived (now : Int) (bookingId : BookingId) (db : Db) : Db :=
  { db with
    bookings :=
      db.bookings.modify bookingId (fun row => { row with archivedAt := some now }) (Booking.key_archived now) }

theorem find?_setArchived (now : Int) (bookingId : BookingId) (db : Db) (b : BookingId) :
    (setArchived now bookingId db).bookings.find? b =
      if b = bookingId then (db.bookings.find? b).map fun row => { row with archivedAt := some now }
      else db.bookings.find? b := by
  unfold setArchived
  rw [Table.find?_modify]
  split
  · rename_i hb
    rw [hb]
  · rfl

def archiveBooking (now : Int) (bookingId : BookingId) (guestId : UserId) (db : Db) :
    Except BookingError (BookingId × Db) :=
  match (db.bookings.find? bookingId).filter fun b => decide (b.guestId = guestId) with
  | none => .error ⟨"BOOKING_NOT_FOUND", "Booking does not exist"⟩
  | some b =>
    if b.status ∈ archivableStatuses ∧ b.archivedAt = none then
      .ok (bookingId, setArchived now bookingId db)
    else if b.archivedAt.isSome then
      .error ⟨"ALREADY_ARCHIVED", "This booking has already been removed from your trip history"⟩
    else
      .error ⟨"NOT_ARCHIVABLE",
        s!"Bookings with status '{statusName b.status}' can't be removed from your trip history yet"⟩

theorem archiveBooking_eq_ok {now : Int} {bookingId r : BookingId} {guestId : UserId} {db db' : Db}
    (h : archiveBooking now bookingId guestId db = .ok (r, db')) :
    ∃ b, db.bookings.find? bookingId = some b ∧ b.status ∈ archivableStatuses ∧
      db' = setArchived now bookingId db := by
  unfold archiveBooking at h
  split at h
  · cases h
  · rename_i b hb
    split at h
    · rename_i hallowed
      cases h
      exact ⟨b, (Option.filter_eq_some_iff.mp hb).1, hallowed.1, rfl⟩
    · split at h <;> cases h

/-- A transaction of the program, or a guest who removes a trip. -/
inductive TripStep where
  | tx (t : Tx)
  | archiveBooking (now : Int) (bookingId : BookingId) (guestId : UserId)

def tripStep (db : Db) : TripStep → Db
  | .tx t => t.exec db
  | .archiveBooking now bookingId guestId => commit db (HostPlatform.archiveBooking now bookingId guestId db)

end HostPlatform
