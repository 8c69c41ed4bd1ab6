-- SUMMARY: After every transaction that rebuilds a calendar, its imported blocks are the nights the active feeds cover and no other row holds.
import HostPlatform.TransactionFrames

/-!
# The calendar as a view

Imported blocks are stored, but they are a view: a function of the events of the
active feeds, the rows of hosts and bookings, and the day of the last rebuilding.
The invariant behind it is that no row of the calendar says `available`.
-/

namespace HostPlatform

open Lib (js Table commit)
open Lib.Transition

/-! ## What is claimed -/

/-- Some event of an active feed of the property covers the night. -/
def Db.Covers (db : Db) (p : PropertyId) (d : Int) : Prop :=
  ∃ event ∈ db.calendarEvents, ∃ feed, db.calendarFeeds.find? event.feedId = some feed ∧
    feed.propertyId = p ∧ feed.isActive = true ∧ event.startsOn ≤ d ∧ d < event.endsOn

/-- A row of a host or a booking is on the night. -/
def Db.HeldAt (db : Db) (p : PropertyId) (d : Int) : Prop :=
  ∃ row, db.availability p d = some row ∧ (row.source = .host ∨ row.source = .booking)

/-- The imported rows of the property are those of the view on day `today`, and
every covered night of it is taken. -/
structure Db.CalendarExact (db : Db) (p : PropertyId) (today : Int) : Prop where
  imported : ∀ d, (∃ row, db.availability p d = some row ∧ row.source = .icalSync) ↔
    today ≤ d ∧ db.Covers p d ∧ ¬ db.HeldAt p d
  taken : ∀ d, today ≤ d → db.Covers p d →
    ∃ row, db.availability p d = some row ∧ row.status ≠ .available

/-- The calendar a transaction rebuilds, and the day it does so. -/
def Tx.rebuilds (db : Db) : Tx → Option (PropertyId × Int)
  | .mutateAvailability today p _ _ _ => some (p, today)
  | .reconcileCalendar today p => some (p, today)
  | .setCalendarFeedActive today p feedId isActive =>
    match HostPlatform.setCalendarFeedActive db today p feedId isActive with
    | .ok _ => some (p, today)
    | .error _ => none
  | .deleteCalendarFeed today p feedId =>
    match HostPlatform.deleteCalendarFeed db today p feedId with
    | .ok _ => some (p, today)
    | .error _ => none
  | .replaceFeedEvents today p feedId events etag lastModified =>
    match HostPlatform.replaceFeedEvents db today p feedId events etag lastModified with
    | .ok _ => some (p, today)
    | .error _ => none
  | .cancelBooking now input =>
    match HostPlatform.cancelBooking now input db with
    | .ok _ => (db.bookings.find? input.bookingId).map fun b => (b.propertyId, currentDate now)
    | .error _ => none
  | .releaseExpiredHold now b => (expiredHold now b db).map fun b => (b.propertyId, currentDate now)
  | .discardUnpaidBooking now booking =>
    if booking.Held db then some (booking.row.propertyId, currentDate now) else none
  | _ => none

/-! ## Rebuilding -/

/-- No row of the calendar says `available`: a night is open when it has no row. -/
def Db.NoOpenRow (db : Db) : Prop :=
  ∀ p d row, db.availability p d = some row → row.status ≠ .available

theorem coveredByFeed_eq_true_iff {db : Db} {p : PropertyId} {today d : Int} :
    coveredByFeed db p today d = true ↔ today ≤ d ∧ db.Covers p d := by
  unfold coveredByFeed Db.Covers
  simp only [List.any_eq_true, Bool.and_eq_true, decide_eq_true_eq]
  constructor
  · rintro ⟨event, hmem, ⟨hstart, hend⟩, hfeed⟩
    cases hfind : db.calendarFeeds.find? event.feedId with
    | none =>
      rw [hfind] at hfeed
      cases hfeed
    | some feed =>
      rw [hfind] at hfeed
      simp only [Bool.and_eq_true, beq_iff_eq] at hfeed
      exact ⟨by omega, event, hmem, feed, hfind, hfeed.1, hfeed.2, by omega, hend⟩
  · rintro ⟨htoday, event, hmem, feed, hfind, hproperty, hactive, hstart, hend⟩
    refine ⟨event, hmem, ⟨by omega, hend⟩, ?_⟩
    rw [hfind]
    simp only [hproperty, hactive, beq_self_eq_true, Bool.and_self]

section

variable {db : Db} {p : PropertyId} {today d : Int}

/-- The imported row of a night after a rebuilding: there is one exactly when the
night is covered and no row of another source is on it. -/
theorem reconcile_imported_iff {row : AvailabilityBlock} (hsource : row.source = .icalSync) :
    (reconcileCalendarAvailability db p today).availability p d = some row ↔
      row = ⟨.blocked, .icalSync⟩ ∧ today ≤ d ∧ db.Covers p d ∧ ¬ db.HeldAt p d := by
  rw [← and_assoc (a := today ≤ d), ← coveredByFeed_eq_true_iff]
  simp only [reconcileCalendarAvailability, if_true]
  have himported : importedBlock (coveredByFeed db p today d) = some row ↔
      row = ⟨.blocked, .icalSync⟩ ∧ coveredByFeed db p today d = true := by
    unfold importedBlock
    split
    · rename_i hcovered
      simp only [hcovered, and_true, Option.some.injEq]
      exact eq_comm
    · rename_i hcovered
      exact ⟨by rintro ⟨⟩, fun h => absurd h.2 hcovered⟩
  cases hold : db.availability p d with
  | none =>
    have hfree : ¬ db.HeldAt p d := by
      rintro ⟨held, hheld, -⟩
      rw [hold] at hheld
      cases hheld
    rw [reconcileDate, himported]
    exact ⟨fun h => ⟨h.1, h.2, hfree⟩, fun h => ⟨h.1, h.2.1⟩⟩
  | some old =>
    simp only [reconcileDate]
    split
    · rename_i hold'
      have hfree : ¬ db.HeldAt p d := by
        rintro ⟨held, hheld, hsrc⟩
        rw [hold] at hheld
        cases hheld
        rw [hold'] at hsrc
        rcases hsrc with hsrc | hsrc <;> cases hsrc
      rw [himported]
      exact ⟨fun h => ⟨h.1, h.2, hfree⟩, fun h => ⟨h.1, h.2.1⟩⟩
    · rename_i hold'
      constructor
      · intro h
        cases h
        exact absurd hsource hold'
      · rintro ⟨-, -, hfree⟩
        refine absurd ⟨old, hold, ?_⟩ hfree
        cases hsrc : old.source with
        | host => exact .inl rfl
        | booking => exact .inr rfl
        | icalSync => exact absurd hsrc hold'

/-- A rebuilding leaves the nights held by hosts and bookings as they were. -/
theorem reconcile_heldAt_iff {q : PropertyId} :
    (reconcileCalendarAvailability db p today).HeldAt q d ↔ db.HeldAt q d := by
  have hkeep : ∀ row : AvailabilityBlock, row.source = .host ∨ row.source = .booking →
      ((reconcileCalendarAvailability db p today).availability q d = some row ↔
        db.availability q d = some row) := by
    intro row hsource
    apply reconcile_availability_iff
    rcases hsource with hsource | hsource <;> rw [hsource] <;> nofun
  exact exists_congr fun row => and_congr_left (hkeep row)

theorem reconcile_exact (h : db.NoOpenRow) :
    (reconcileCalendarAvailability db p today).CalendarExact p today where
  imported d := by
    rw [reconcile_heldAt_iff]
    constructor
    · rintro ⟨row, hrow, hsource⟩
      exact ((reconcile_imported_iff hsource).mp hrow).2
    · intro hview
      exact ⟨_, (reconcile_imported_iff rfl).mpr ⟨rfl, hview⟩, rfl⟩
  taken d htoday hcovers := by
    by_cases hheld : db.HeldAt p d
    · obtain ⟨row, hrow, hsource⟩ := hheld
      refine ⟨row, (reconcile_availability_iff ?_).mpr hrow, h p d row hrow⟩
      rcases hsource with hsource | hsource <;> rw [hsource] <;> nofun
    · exact ⟨_, (reconcile_imported_iff rfl).mpr ⟨rfl, htoday, hcovers, hheld⟩, nofun⟩

/-- Writing the other columns of a feed does not change what the feeds cover. -/
theorem updateFeed_covers_iff {propertyId : PropertyId} {feedId : Nat}
    {set : CalendarFeed → CalendarFeed} {hset : ∀ f : CalendarFeed, Lib.key (set f) = Lib.key f}
    (hproperty : ∀ f, (set f).propertyId = f.propertyId) (hactive : ∀ f, (set f).isActive = f.isActive) :
    (updateFeed db propertyId feedId set hset).Covers p d ↔ db.Covers p d := by
  unfold updateFeed Db.Covers
  simp only [Table.find?_updateWhere]
  refine exists_congr fun event => and_congr_right fun _ => ?_
  constructor
  · rintro ⟨feed, hfeed, hp, ha, hd⟩
    obtain ⟨old, hold, rfl⟩ := Option.map_eq_some_iff.mp hfeed
    refine ⟨old, hold, ?_, ?_, hd⟩
    · split at hp
      · rwa [hproperty] at hp
      · exact hp
    · split at ha
      · rwa [hactive] at ha
      · exact ha
  · rintro ⟨feed, hfeed, hp, ha, hd⟩
    refine ⟨_, Option.map_eq_some_iff.mpr ⟨feed, hfeed, rfl⟩, ?_, ?_, hd⟩
    · split
      · rwa [hproperty]
      · exact hp
    · split
      · rwa [hactive]
      · exact ha

/-- Only the other columns of a feed changed since the rebuilding. -/
theorem Db.CalendarExact.updateFeed (h : db.CalendarExact p today) {propertyId : PropertyId}
    {feedId : Nat} {set : CalendarFeed → CalendarFeed}
    {hset : ∀ f : CalendarFeed, Lib.key (set f) = Lib.key f}
    (hproperty : ∀ f, (set f).propertyId = f.propertyId) (hactive : ∀ f, (set f).isActive = f.isActive) :
    (updateFeed db propertyId feedId set hset).CalendarExact p today where
  imported d := by
    rw [updateFeed_covers_iff hproperty hactive]
    exact h.imported d
  taken d htoday hcovers := h.taken d htoday ((updateFeed_covers_iff hproperty hactive).mp hcovers)

end

/-! ## No row says `available` -/

/-- The rows that were not there before are not open. -/
def Db.RowsTaken (db db' : Db) : Prop :=
  ∀ p d row, db'.availability p d = some row →
    db.availability p d = some row ∨ row.status ≠ .available

theorem Db.RowsTaken.of_eq {db db' : Db} (h : db'.availability = db.availability) : db.RowsTaken db' := by
  intro p d row hrow
  rw [h] at hrow
  exact .inl hrow

theorem Db.RowsTaken.trans {db db' db'' : Db} (h : db.RowsTaken db') (h' : db'.RowsTaken db'') :
    db.RowsTaken db'' := by
  intro p d row hrow
  rcases h' p d row hrow with hrow' | htaken
  · exact h p d row hrow'
  · exact .inr htaken

theorem Db.NoOpenRow.of_rowsTaken {db db' : Db} (h : db.NoOpenRow) (htaken : db.RowsTaken db') :
    db'.NoOpenRow := by
  intro p d row hrow
  rcases htaken p d row hrow with hold | hnew
  · exact h p d row hold
  · exact hnew

theorem reconcile_rowsTaken {db : Db} {p : PropertyId} {today : Int} :
    db.RowsTaken (reconcileCalendarAvailability db p today) := by
  intro q d row hrow
  by_cases hsource : row.source = .icalSync
  · by_cases hq : q = p
    · subst hq
      rw [((reconcile_imported_iff hsource).mp hrow).1]
      exact .inr nofun
    · simp only [reconcileCalendarAvailability, if_neg hq] at hrow
      exact .inl hrow
  · exact .inl ((reconcile_availability_iff hsource).mp hrow)

theorem deleteBlocks_rowsTaken {db : Db} {p : PropertyId} {checkIn checkOut : Int}
    {which : AvailabilityBlock → Bool} : db.RowsTaken (deleteBlocks db p checkIn checkOut which) := by
  intro q d row hrow
  simp only [deleteBlocks] at hrow
  split at hrow
  · exact .inl (Option.filter_eq_some_iff.mp hrow).1
  · exact .inl hrow

theorem releaseNights_rowsTaken {db : Db} {today : Int} {b : Booking} {which : AvailabilityBlock → Bool}
    {set : Booking → Booking} {hset : ∀ r : Booking, Lib.key (set r) = Lib.key r} :
    db.RowsTaken (releaseNights db today b which set hset) := by
  have hdeleted : db.RowsTaken (deleteBlocks db b.propertyId b.checkIn b.checkOut which) :=
    deleteBlocks_rowsTaken
  have hreconciled : (deleteBlocks db b.propertyId b.checkIn b.checkOut which).RowsTaken
      (reconcileCalendarAvailability (deleteBlocks db b.propertyId b.checkIn b.checkOut which)
        b.propertyId today) := reconcile_rowsTaken
  exact hdeleted.trans hreconciled

/-- The database a host edit rebuilds the calendar of. -/
theorem mutateDate_taken {action : MutateAction} {old : Option AvailabilityBlock} {row : AvailabilityBlock}
    (h : mutateDate action old = some row) : old = some row ∨ row.status ≠ .available := by
  unfold mutateDate at h
  split at h
  · exact .inl h
  · cases h
    exact .inr nofun
  · cases h

theorem mutateAvailability_rowsTaken {db : Db} {today : Int} {p : PropertyId} {checkIn checkOut : Int}
    {action : MutateAction} : db.RowsTaken (mutateAvailability db today p checkIn checkOut action).2 := by
  refine Db.RowsTaken.trans ?_ reconcile_rowsTaken
  intro q d row hrow
  simp only at hrow
  split at hrow
  · exact mutateDate_taken hrow
  · exact .inl hrow

theorem createBooking_rowsTaken {now : Int} {isDelayedFlow : Bool} {input : CreateBookingInput}
    {db db' : Db} {r : CreatedBooking} (h : createBooking now isDelayedFlow input db = .ok (r, db')) :
    db.RowsTaken db' := by
  obtain ⟨rfl, -⟩ | ⟨p, -, priceComponents, -, -, -, -, rfl⟩ := createBooking_cases h
  · exact .of_eq rfl
  · intro q d row hrow
    simp only [reserveNights] at hrow
    split at hrow
    · cases hrow
      exact .inr nofun
    · exact .inl hrow

/-- The transactions that write rows of the calendar. -/
def Tx.writesCalendar : Tx → Bool
  | .createBooking .. | .cancelBooking .. | .releaseExpiredHold .. | .discardUnpaidBooking ..
  | .mutateAvailability .. | .reconcileCalendar .. | .setCalendarFeedActive .. | .deleteCalendarFeed ..
  | .replaceFeedEvents .. => true
  | _ => false

theorem Tx.availability_eq {t : Tx} (ht : t.writesCalendar = false) (db : Db) :
    (t.exec db).availability = db.availability := by
  cases t with
  | createCalendarFeed p name feedUrl =>
    refine commitFeeds_of (P := fun db' : Db => db'.availability = db.availability) rfl fun db' h => ?_
    exact (createCalendarFeed_frame h).2
  | savePaymentMethod b paymentMethodId =>
    refine Lib.commit_of (P := fun db' : Db => db'.availability = db.availability) rfl fun changed db' h => ?_
    unfold HostPlatform.savePaymentMethod at h
    split at h
    · cases h
    · cases h
      rfl
  | decideCharge now token b amountMinor currency =>
    obtain ⟨attempts, h⟩ := decideCharge_eq now token b amountMinor currency db
    rw [h]
  | recordChargeOutcome now b attemptId claimToken status details =>
    obtain ⟨bookings, attempts, h⟩ := recordChargeOutcome_eq now b attemptId claimToken status details db
    rw [h]
  | upsertPayment b intentId guestTotalMinor currency =>
    refine Lib.commit_of (P := fun db' : Db => db'.availability = db.availability) rfl fun u db' h => ?_
    obtain ⟨row, -, -, -, -, -, hframe⟩ := upsertPayment_eq_ok h
    rw [hframe]
  | paymentSucceeded now intent =>
    refine Lib.commit_of (P := fun db' : Db => db'.availability = db.availability) rfl fun input db' h => ?_
    obtain ⟨bookings, attempts, payments, payouts, ledgerEntries, rfl⟩ := onPaymentSucceeded_eq h
    rfl
  | createEntitlement input =>
    show (HostPlatform.createEntitlement input db).availability = db.availability
    rw [createEntitlement_frame]
  | refundEvent refund =>
    obtain ⟨bookings, payments, refunds, payouts, ledgerEntries, h⟩ := onRefundEvent_eq refund db
    rw [h]
  | disputeCreated dispute =>
    obtain ⟨bookings, payouts, disputes, h⟩ := onDisputeCreated_eq dispute db
    show (onDisputeCreated dispute db).availability = db.availability
    rw [h]
  | createBooking | cancelBooking | releaseExpiredHold | discardUnpaidBooking | mutateAvailability
  | reconcileCalendar | setCalendarFeedActive | deleteCalendarFeed | replaceFeedEvents => cases ht
  | _ => rfl

theorem Tx.rowsTaken (t : Tx) (db : Db) : db.RowsTaken (t.exec db) := by
  have hsame : db.RowsTaken db := .of_eq rfl
  cases t with
  | createBooking now isDelayedFlow input =>
    exact Lib.commit_of hsame fun r db' h => createBooking_rowsTaken h
  | cancelBooking now input =>
    refine Lib.commit_of hsame fun r db' h => ?_
    obtain ⟨b, bpc, -, -, -, -, rfl⟩ := cancelBooking_eq_ok h
    exact releaseNights_rowsTaken
  | releaseExpiredHold now b =>
    show db.RowsTaken (HostPlatform.releaseExpiredHold now b db).2
    unfold HostPlatform.releaseExpiredHold
    split
    · exact hsame
    · exact releaseNights_rowsTaken
  | discardUnpaidBooking now booking => exact discardLocked_of hsame fun _ => releaseNights_rowsTaken
  | mutateAvailability today p checkIn checkOut action => exact mutateAvailability_rowsTaken
  | reconcileCalendar today p => exact reconcile_rowsTaken
  | setCalendarFeedActive today p feedId isActive =>
    refine commitFeeds_of hsame fun db' h => ?_
    rw [setCalendarFeedActive_eq_ok h]
    exact .trans (.of_eq rfl) reconcile_rowsTaken
  | deleteCalendarFeed today p feedId =>
    refine commitFeeds_of hsame fun db' h => ?_
    rw [deleteCalendarFeed_eq_ok h]
    exact .trans (.of_eq rfl) reconcile_rowsTaken
  | replaceFeedEvents today p feedId events etag lastModified =>
    refine Lib.commit_of hsame fun count db' h => ?_
    obtain ⟨rows, -, rfl⟩ := replaceFeedEvents_eq_ok h
    have hreconciled : db.RowsTaken (reconcileCalendarAvailability
        { db with calendarEvents := (db.calendarEvents.filter fun e => e.feedId != feedId) ++ rows }
        p today) := .trans (.of_eq rfl) reconcile_rowsTaken
    exact hreconciled.trans (.of_eq rfl)
  | _ => exact .of_eq (Tx.availability_eq rfl db)

/-! ## One transaction, and whole runs -/

/-- The three statements of a release end with the calendar of the view. -/
theorem releaseNights_exact {db : Db} (h : db.NoOpenRow) (today : Int) (b : Booking)
    (which : AvailabilityBlock → Bool) (set : Booking → Booking)
    (hset : ∀ r : Booking, Lib.key (set r) = Lib.key r) :
    (releaseNights db today b which set hset).CalendarExact b.propertyId today := by
  have hdeleted : (deleteBlocks db b.propertyId b.checkIn b.checkOut which).NoOpenRow :=
    h.of_rowsTaken deleteBlocks_rowsTaken
  have hexact : (reconcileCalendarAvailability
      (deleteBlocks db b.propertyId b.checkIn b.checkOut which) b.propertyId today).CalendarExact
      b.propertyId today := reconcile_exact hdeleted
  exact ⟨hexact.imported, hexact.taken⟩

theorem Tx.calendarExact {t : Tx} {db : Db} (h : db.NoOpenRow) {p : PropertyId} {today : Int}
    (hrebuilds : t.rebuilds db = some (p, today)) : (t.exec db).CalendarExact p today := by
  cases t with
  | mutateAvailability today p checkIn checkOut action =>
    cases hrebuilds
    apply reconcile_exact
    intro q d row hrow
    simp only at hrow
    split at hrow
    · rcases mutateDate_taken hrow with hold | htaken
      · exact h q d row hold
      · exact htaken
    · exact h q d row hrow
  | reconcileCalendar today p =>
    cases hrebuilds
    exact reconcile_exact h
  | setCalendarFeedActive today p feedId isActive =>
    simp only [Tx.rebuilds] at hrebuilds
    split at hrebuilds
    · rename_i db' hok
      cases hrebuilds
      simp only [Tx.exec, hok, Except.map, commit]
      rw [setCalendarFeedActive_eq_ok hok]
      exact reconcile_exact h
    · cases hrebuilds
  | deleteCalendarFeed today p feedId =>
    simp only [Tx.rebuilds] at hrebuilds
    split at hrebuilds
    · rename_i db' hok
      cases hrebuilds
      simp only [Tx.exec, hok, Except.map, commit]
      rw [deleteCalendarFeed_eq_ok hok]
      exact reconcile_exact h
    · cases hrebuilds
  | replaceFeedEvents today p feedId events etag lastModified =>
    simp only [Tx.rebuilds] at hrebuilds
    split at hrebuilds
    · rename_i r hok
      cases hrebuilds
      obtain ⟨count, db'⟩ := r
      obtain ⟨rows, -, rfl⟩ := replaceFeedEvents_eq_ok hok
      simp only [Tx.exec, hok, commit]
      apply Db.CalendarExact.updateFeed
      · exact reconcile_exact h
      · intro f
        rfl
      · intro f
        rfl
    · cases hrebuilds
  | cancelBooking now input =>
    simp only [Tx.rebuilds] at hrebuilds
    split at hrebuilds
    · rename_i r hok
      obtain ⟨cancelled, db'⟩ := r
      obtain ⟨b, bpc, hfind, -, -, -, rfl⟩ := cancelBooking_eq_ok hok
      rw [hfind] at hrebuilds
      cases hrebuilds
      simp only [Tx.exec, hok, commit]
      exact releaseNights_exact h _ _ _ _ _
    · cases hrebuilds
  | releaseExpiredHold now b =>
    obtain ⟨booking, hbooking, heq⟩ := Option.map_eq_some_iff.mp hrebuilds
    cases heq
    simp only [Tx.exec, HostPlatform.releaseExpiredHold, hbooking]
    exact releaseNights_exact h _ _ _ _ _
  | discardUnpaidBooking now booking =>
    simp only [Tx.rebuilds] at hrebuilds
    split at hrebuilds
    · rename_i hheld
      cases hrebuilds
      simp only [Tx.exec, discardLocked_of_held hheld]
      exact releaseNights_exact h _ _ _ _ _
    · cases hrebuilds
  | _ => cases hrebuilds

/-- In every run from an empty calendar, a transaction that rebuilds a calendar
leaves exactly the view of that day in it; and rebuilding a reachable calendar
changes no row of a host or a booking. -/
theorem calendar_is_view (db : Db) (hempty : ∀ p d, db.availability p d = none) (txs : List Tx) :
    (∀ t p today, t.rebuilds (run Tx.exec db txs) = some (p, today) →
      (run Tx.exec db (txs ++ [t])).CalendarExact p today) ∧
    ∀ p today q d row, row.source ≠ .icalSync →
      ((reconcileCalendarAvailability (run Tx.exec db txs) p today).availability q d = some row ↔
        (run Tx.exec db txs).availability q d = some row) := by
  have hopen : (run Tx.exec db txs).NoOpenRow := by
    refine run_invariant' (I := Db.NoOpenRow) (fun db t h => h.of_rowsTaken (t.rowsTaken db)) ?_ txs
    intro p d row hrow
    rw [hempty] at hrow
    cases hrow
  refine ⟨fun t p today hrebuilds => ?_, fun p today q d row hsource => reconcile_availability_iff hsource⟩
  rw [run_concat]
  exact Tx.calendarExact hopen hrebuilds

/-- A feed is added and a guest books the first of three nights the feed will cover. -/
def bookedThenImported : List Tx :=
  [.createCalendarFeed 1 (js "Other site") (js "https://calendar.example/1.ics"),
    .createBooking 0 false { sampleRequest "a" with checkOut := 101 }]

def threeNights : ImportedEvent :=
  { eventKey := js "stay-1"
    externalUid := js "stay-1"
    startsOn := ⟨1970, 4, 11, by decide⟩
    endsOn := ⟨1970, 4, 14, by decide⟩
    summary := none }

/-- The import blocks the other two nights. -/
theorem bookedThenImported_is_view :
    (Tx.replaceFeedEvents 0 1 1 [threeNights] none none).rebuilds
        (run Tx.exec sampleDb bookedThenImported) = some (1, 0) ∧
      (run Tx.exec sampleDb
        (bookedThenImported ++ [.replaceFeedEvents 0 1 1 [threeNights] none none])).CalendarExact 1 0 := by
  have hrebuilds : (Tx.replaceFeedEvents 0 1 1 [threeNights] none none).rebuilds
      (run Tx.exec sampleDb bookedThenImported) = some (1, 0) := by decide
  exact ⟨hrebuilds, (calendar_is_view sampleDb (fun _ _ => rfl) bookedThenImported).1 _ 1 0 hrebuilds⟩

end HostPlatform
