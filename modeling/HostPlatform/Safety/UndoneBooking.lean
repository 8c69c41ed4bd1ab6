-- SUMMARY: A new booking undone on its day leaves the nights from today on as they were, and frees the rows it wrote.
import HostPlatform.Safety.SettledCalendar
import Mathlib.Data.Set.Card

/-!
# Undone bookings

Four pieces of code agree on the nights of a booking: what is priced, what is written,
and the two ranges that are deleted. The rebuilding after the deletion adds nothing,
because a night that could be booked was not covered by a feed.
-/

namespace HostPlatform

open Lib (Table)
open Lib.Transition

/-! ## What is claimed -/

/-- The ways a booking is undone. -/
inductive Unbooks (now : Int) (b : BookingId) (db db' : Db) : Prop
  | cancelled (input : CancelBookingInput) (r : CancelledBooking) (hinput : input.bookingId = b)
      (h : cancelBooking now input db = .ok (r, db'))
  | expired (r : BookingView) (h : releaseExpiredHold now b db = (some r, db'))
  | discarded (guestId : UserId) (r : BookingId) (h : discardUnpaidBooking now b guestId db = .ok (r, db'))

/-- The dates of the property on which a row was written, changed or deleted. -/
def changedDates (db db' : Db) (p : PropertyId) : Set Int := {d | db'.availability p d ≠ db.availability p d}

/-- The dates of the property from which a booking's row is gone. -/
def freedDates (db db' : Db) (p : PropertyId) : Set Int :=
  {d | db.availability p d = some bookedBlock ∧ db'.availability p d ≠ some bookedBlock}

/-- From `today` on the same nights are taken as before the booking, and the rows that
were written and freed are as many as the nights that were priced. -/
structure BookingUndone (input : CreateBookingInput) (today : Int) (db db₁ db₂ : Db) : Prop where
  same : ∀ p d, today ≤ d → (db₂.Unavailable p d ↔ db.Unavailable p d)
  written : ((changedDates db db₁ input.propertyId).ncard : Int) = nightsBetween input.checkIn input.checkOut
  freed : ((freedDates db₁ db₂ input.propertyId).ncard : Int) = nightsBetween input.checkIn input.checkOut

/-! ## The booking -/

/-- A night that could be booked had no row that was not `available`. -/
theorem checkCalendar_available {input : CreateBookingInput} {db : Db} {u : Unit} (h : checkCalendar input db = .ok u)
    {d : Int} (hin : input.checkIn ≤ d) (hout : d < input.checkOut) : ¬ db.Unavailable input.propertyId d := by
  rintro ⟨row, hrow, hstatus⟩
  unfold checkCalendar at h
  cases hfirst : firstUnavailable db input.propertyId input.checkIn input.checkOut with
  | some date =>
    rw [hfirst] at h
    cases h
  | none =>
    have hnone := List.find?_eq_none.mp hfirst d (mem_enumerateDates.mpr ⟨hin, hout⟩)
    rw [hrow] at hnone
    exact hnone (decide_eq_true hstatus)

/-- A booking under a new key: the row, and the calendar. -/
structure BookedAnew (input : CreateBookingInput) (row : Booking) (db db₁ : Db) : Prop where
  find : db₁.bookings.find? row.id = some row
  property : row.propertyId = input.propertyId
  nights : row.nights = Set.Ico input.checkIn input.checkOut
  dates : input.checkIn < input.checkOut
  free : ∀ d ∈ row.nights, ¬ db.Unavailable row.propertyId d
  booked : ∀ d ∈ row.nights, db₁.availability row.propertyId d = some bookedBlock
  other : ∀ p d, ¬ (p = row.propertyId ∧ d ∈ row.nights) → db₁.availability p d = db.availability p d
  feeds : db.SameFeeds db₁

theorem createBooking_anew {now : Int} {isDelayedFlow : Bool} {input : CreateBookingInput} {db db₁ : Db}
    {r : CreatedBooking} (hnew : ∀ row ∈ db.bookings.rows, row.idempotencyKey ≠ input.idempotencyKey)
    (h : createBooking now isDelayedFlow input db = .ok (r, db₁)) :
    ∃ row, row.id = r.booking.id ∧ BookedAnew input row db db₁ := by
  obtain ⟨-, existing, hmem, hkey⟩ | ⟨p, breakdown, priceComponents, hrequest, hcalendar, rfl, -, rfl⟩ :=
    createBooking_cases h
  · exact absurd hkey (hnew existing hmem)
  have hdates : input.checkIn < input.checkOut := by
    obtain ⟨_, hnights, -⟩ := Lib.bind_eq_ok.mp hrequest
    exact Int.sub_pos.mp (Lib.require_eq_ok.mp hnights)
  refine ⟨bookingRow now isDelayedFlow input p.hostId (policyRules db p) db.bookings.freshKey, rfl, ?_⟩
  exact
    { find := (Table.find?_insertNew _ _ (fun _ => rfl) _).trans (if_pos rfl)
      property := rfl
      nights := rfl
      dates := hdates
      free := fun d hd => checkCalendar_available hcalendar hd.1 hd.2
      booked := fun d hd => if_pos ⟨rfl, hd⟩
      other := fun q d hout => if_neg hout
      feeds := ⟨rfl, rfl⟩ }

/-! ## Undoing it -/

/-- Each way releases the nights of the booking. -/
theorem Unbooks.released {now : Int} {b : BookingId} {db db' : Db} (h : Unbooks now b db db') :
    ∃ (booking : Booking) (which : AvailabilityBlock → Bool) (set : Booking → Booking)
      (hset : ∀ r : Booking, Lib.key (set r) = Lib.key r), db.bookings.find? b = some booking ∧
        which bookedBlock = true ∧ db' = releaseNights db (currentDate now) booking which set hset := by
  cases h with
  | cancelled input r hinput h =>
    obtain ⟨booking, bpc, hfind, -, -, -, hdb⟩ := cancelBooking_eq_ok h
    exact ⟨booking, _, _, _, hinput ▸ hfind, rfl, hdb⟩
  | expired r h =>
    unfold releaseExpiredHold at h
    split at h
    · cases h
    · rename_i booking hbooking
      cases h
      exact ⟨booking, _, _, _, (expiredHold_eq_some hbooking).1, rfl, rfl⟩
  | discarded guestId r h =>
    obtain ⟨booking, -, hfind, hdb⟩ := discardUnpaidBooking_eq_ok h
    exact ⟨booking.row, _, _, _, hfind, rfl, hdb⟩

section

variable {db db₁ : Db} {today : Int} {b : Booking} {which : AvailabilityBlock → Bool} {set : Booking → Booking}
  {hset : ∀ r : Booking, Lib.key (set r) = Lib.key r}

/-- After a release a night of the property is taken by another row, or by the feeds. -/
theorem releaseNights_unavailable_iff (h : db.NoOpenRow) {d : Int} (hd : today ≤ d) :
    (releaseNights db today b which set hset).Unavailable b.propertyId d ↔
      (deleteBlocks db b.propertyId b.checkIn b.checkOut which).HeldAt b.propertyId d ∨ db.Covers b.propertyId d :=
  reconcile_unavailable_iff (h.of_rowsTaken deleteBlocks_rowsTaken) hd

/-- Releasing the nights of a new booking brings back the nights there were. -/
theorem BookedAnew.released {input : CreateBookingInput} (h : BookedAnew input b db db₁) (hdb : db.Settled today)
    (hwhich : which bookedBlock = true) (p : PropertyId) {d : Int} (hd : today ≤ d) :
    (releaseNights db₁ today b which set hset).Unavailable p d ↔ db.Unavailable p d := by
  by_cases hp : p = b.propertyId
  · subst hp
    have hopen : db₁.NoOpenRow := by
      intro q e row hrow
      by_cases hin : q = b.propertyId ∧ e ∈ b.nights
      · rw [hin.1, h.booked e hin.2] at hrow
        cases hrow
        nofun
      · rw [h.other q e hin] at hrow
        exact hdb.noOpenRow q e row hrow
    rw [releaseNights_unavailable_iff hopen hd, hdb.unavailable_iff hd, h.feeds.covers_iff]
    refine or_congr_left ?_
    by_cases hin : d ∈ b.nights
    · -- no row is left, and none was there
      have hfree := h.free d hin
      have hdeleted : (deleteBlocks db₁ b.propertyId b.checkIn b.checkOut which).availability b.propertyId d = none := by
        have hnights : b.checkIn ≤ d ∧ d < b.checkOut := hin
        simp [deleteBlocks, hnights, h.booked d hin, hwhich]
      constructor
      · rintro ⟨row, hrow, -⟩
        rw [hdeleted] at hrow
        cases hrow
      · exact fun hheld => absurd ((hdb.unavailable_iff hd).mpr (.inl hheld)) hfree
    · have hdeleted : (deleteBlocks db₁ b.propertyId b.checkIn b.checkOut which).availability b.propertyId d =
          db.availability b.propertyId d := by
        have hnights : ¬ (b.checkIn ≤ d ∧ d < b.checkOut) := hin
        simpa [deleteBlocks, hnights] using h.other b.propertyId d fun hboth => hin hboth.2
      unfold Db.HeldAt
      rw [hdeleted]
  · unfold Db.Unavailable
    rw [releaseNights_availability_of_ne hp, h.other p d fun hboth => hp hboth.1]

/-- A new booking writes a row on each of its nights, and on no other. -/
theorem BookedAnew.changedDates_eq {input : CreateBookingInput} (h : BookedAnew input b db db₁) :
    changedDates db db₁ input.propertyId = Set.Ico input.checkIn input.checkOut := by
  rw [← h.nights, ← h.property]
  ext d
  constructor
  · intro hchanged
    by_contra hout
    exact hchanged (h.other b.propertyId d fun hboth => hout hboth.2)
  · intro hin heq
    refine h.free d hin ⟨bookedBlock, heq.symm.trans (h.booked d hin), nofun⟩

theorem BookedAnew.freedDates_eq {input : CreateBookingInput} (h : BookedAnew input b db db₁)
    (hwhich : which bookedBlock = true) :
    freedDates db₁ (releaseNights db₁ today b which set hset) input.propertyId =
      Set.Ico input.checkIn input.checkOut := by
  rw [← h.nights, ← h.property]
  ext d
  constructor
  · rintro ⟨hbooked, hgone⟩
    by_contra hout
    exact hgone ((releaseNights_booked_iff hwhich _ _).mpr ⟨hbooked, fun hboth => hout hboth.2⟩)
  · intro hin
    exact ⟨h.booked d hin, fun hkept => ((releaseNights_booked_iff hwhich _ _).mp hkept).2 ⟨rfl, hin⟩⟩

end

theorem ncard_nights {checkIn checkOut : Int} (h : checkIn < checkOut) :
    ((Set.Ico checkIn checkOut).ncard : Int) = nightsBetween checkIn checkOut := by
  rw [← Finset.coe_Ico, Set.ncard_coe_finset, Int.card_Ico]
  unfold nightsBetween
  omega

/-- In every reachable calendar, a new booking that is undone on the same day, in any of
the three ways, leaves the nights from that day on as they were. -/
theorem booking_undone {db : Db} (hempty : db.EmptyCalendar) {txs : List Tx} {now now' : Int}
    (htxs : ∀ t ∈ txs, t.UpTo (currentDate now)) {isDelayedFlow : Bool} {input : CreateBookingInput}
    {r : CreatedBooking} {db₁ db₂ : Db}
    (hnew : ∀ row ∈ (run Tx.issue db txs).bookings.rows, row.idempotencyKey ≠ input.idempotencyKey)
    (hcreate : createBooking now isDelayedFlow input (run Tx.issue db txs) = .ok (r, db₁))
    (hday : currentDate now' = currentDate now) (hundo : Unbooks now' r.booking.id db₁ db₂) :
    BookingUndone input (currentDate now) (run Tx.issue db txs) db₁ db₂ := by
  have hsettled := settled_run hempty htxs
  obtain ⟨row, hid, hrow⟩ := createBooking_anew hnew hcreate
  obtain ⟨booking, which, set, hset, hfind, hwhich, rfl⟩ := hundo.released
  obtain rfl : row = booking := by
    rw [← hid, hrow.find] at hfind
    exact Option.some.inj hfind
  rw [hday]
  refine ⟨fun p d hd => hrow.released hsettled hwhich p hd, ?_, ?_⟩
  · rw [hrow.changedDates_eq]
    exact ncard_nights hrow.dates
  · rw [hrow.freedDates_eq hwhich]
    exact ncard_nights hrow.dates

/-! ## Examples -/

/-- Two nights next to the imported ones. -/
def nextNights : CreateBookingInput := { sampleRequest "b" with checkIn := 103, checkOut := 105 }

def nextBooked : Db := Tx.exec (run Tx.issue sampleDb importedNights) (.createBooking 0 false nextNights)

theorem nextBooked_undone : BookingUndone nextNights 0 (run Tx.issue sampleDb importedNights) nextBooked
    (Tx.exec nextBooked (.cancelBooking 0 ⟨2, .guest⟩)) := by
  have hbooked : ∃ r, createBooking 0 false nextNights (run Tx.issue sampleDb importedNights) = .ok (r, nextBooked) ∧
      r.booking.id = 2 := ⟨_, rfl, rfl⟩
  have hcancelled : ∃ r, cancelBooking 0 ⟨2, .guest⟩ nextBooked =
      .ok (r, Tx.exec nextBooked (.cancelBooking 0 ⟨2, .guest⟩)) := ⟨_, rfl⟩
  have htxs : ∀ t ∈ importedNights, t.UpTo (currentDate 0) := by
    unfold Tx.UpTo
    decide
  obtain ⟨r, hcreate, hid⟩ := hbooked
  obtain ⟨r', hcancel⟩ := hcancelled
  exact booking_undone sampleDb_empty htxs (by decide) hcreate rfl (.cancelled ⟨2, .guest⟩ r' hid.symm hcancel)

/-- One booking, of the nights 100 and 101. -/
def bookedOnce : Db := run Tx.issue sampleDb [.createBooking 0 false (sampleRequest "a")]

/-- The answer to a repeated call. -/
def repeatedAnswer : CreatedBooking := ⟨mapBookingRow ((bookedOnce.bookings.find? 1).get (by decide)), none⟩

/-- A repeated call writes nothing and returns the booking there is, whose cancellation
frees nights that were taken before the call. -/
theorem repeated_not_undone :
    createBooking 0 false (sampleRequest "a") bookedOnce = .ok (repeatedAnswer, bookedOnce) ∧
      Unbooks 0 repeatedAnswer.booking.id bookedOnce (Tx.exec bookedOnce (.cancelBooking 0 ⟨1, .guest⟩)) ∧
      ¬ BookingUndone (sampleRequest "a") 0 bookedOnce bookedOnce
        (Tx.exec bookedOnce (.cancelBooking 0 ⟨1, .guest⟩)) := by
  have hcancelled : ∃ r, cancelBooking 0 ⟨1, .guest⟩ bookedOnce =
      .ok (r, Tx.exec bookedOnce (.cancelBooking 0 ⟨1, .guest⟩)) := ⟨_, rfl⟩
  obtain ⟨r, hcancel⟩ := hcancelled
  refine ⟨rfl, .cancelled ⟨1, .guest⟩ r rfl hcancel, fun h => ?_⟩
  have htaken : bookedOnce.Unavailable 1 100 := ⟨bookedBlock, by decide, nofun⟩
  have hfree : (Tx.exec bookedOnce (.cancelBooking 0 ⟨1, .guest⟩)).availability 1 100 = none := by decide
  obtain ⟨row, hrow, -⟩ := (h.same 1 100 (by decide)).mpr htaken
  rw [hfree] at hrow
  cases hrow

end HostPlatform
