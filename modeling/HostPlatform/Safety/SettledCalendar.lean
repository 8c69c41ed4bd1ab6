-- SUMMARY: In every reachable calendar imported rows are covered by active feeds, and covered nights from today on are taken.
import HostPlatform.Safety.CalendarAvailability

/-!
# Settled calendars

Between two rebuildings the feeds of a property, its events and its imported rows do not
change, so what a rebuilding establishes still holds at the next one, for the nights
from the later day on.
-/

namespace HostPlatform

open Lib (Table commit)
open Lib.Transition

/-- A row of the night is not `available`. -/
def Db.Unavailable (db : Db) (p : PropertyId) (d : Int) : Prop :=
  ∃ row, db.availability p d = some row ∧ row.status ≠ .available

/-- What holds of the calendars between transactions, on day `today`. -/
structure Db.Settled (db : Db) (today : Int) : Prop where
  noOpenRow : db.NoOpenRow
  imported : ∀ p d row, db.availability p d = some row → row.source = .icalSync → db.Covers p d
  taken : ∀ p d, today ≤ d → db.Covers p d → ∃ row, db.availability p d = some row
  /-- The foreign key of the events. -/
  linked : ∀ event ∈ db.calendarEvents, (db.calendarFeeds.find? event.feedId).isSome

/-- The night is taken by a row of a host or a booking, or by the feeds. -/
theorem Db.Settled.unavailable_iff {db : Db} {today : Int} (h : db.Settled today) {p : PropertyId} {d : Int}
    (hd : today ≤ d) : db.Unavailable p d ↔ db.HeldAt p d ∨ db.Covers p d := by
  constructor
  · rintro ⟨row, hrow, -⟩
    cases hsource : row.source with
    | host => exact .inl ⟨row, hrow, .inl hsource⟩
    | booking => exact .inl ⟨row, hrow, .inr hsource⟩
    | icalSync => exact .inr (h.imported p d row hrow hsource)
  · rintro (⟨row, hrow, -⟩ | hcovers)
    · exact ⟨row, hrow, h.noOpenRow p d row hrow⟩
    · obtain ⟨row, hrow⟩ := h.taken p d hd hcovers
      exact ⟨row, hrow, h.noOpenRow p d row hrow⟩

/-- A rebuilding settles the property. -/
theorem reconcile_unavailable_iff {db : Db} (h : db.NoOpenRow) {p : PropertyId} {today d : Int} (hd : today ≤ d) :
    (reconcileCalendarAvailability db p today).Unavailable p d ↔ db.HeldAt p d ∨ db.Covers p d := by
  have hexact : (reconcileCalendarAvailability db p today).CalendarExact p today := reconcile_exact h
  constructor
  · rintro ⟨row, hrow, -⟩
    by_cases hsource : row.source = .icalSync
    · exact .inr ((hexact.imported d).mp ⟨row, hrow, hsource⟩).2.1
    · refine .inl (reconcile_heldAt_iff.mp ⟨row, hrow, ?_⟩)
      cases hrowSource : row.source with
      | host => exact .inl rfl
      | booking => exact .inr rfl
      | icalSync => exact absurd hrowSource hsource
  · rintro (hheld | hcovers)
    · obtain ⟨row, hrow, hsource⟩ := hheld
      refine ⟨row, (reconcile_availability_iff ?_).mpr hrow, h p d row hrow⟩
      rcases hsource with hsource | hsource <;> rw [hsource] <;> nofun
    · exact hexact.taken d hd hcovers

/-! ## What a transaction leaves alone -/

/-- The day a transaction takes for today when it rebuilds a calendar. -/
def Tx.day : Tx → Option Int
  | .mutateAvailability today .. | .reconcileCalendar today .. | .setCalendarFeedActive today ..
  | .deleteCalendarFeed today .. | .replaceFeedEvents today .. => some today
  | .cancelBooking now .. | .releaseExpiredHold now .. | .discardUnpaidBooking now .. => some (currentDate now)
  | _ => none

/-- `replaceFeedEvents` is called for the property of which `getFeed` returned the feed. -/
def Tx.ownsFeed (db : Db) : Tx → Bool
  | .replaceFeedEvents _ p feedId _ _ _ =>
    (db.calendarFeeds.find? feedId).all fun feed => feed.propertyId == p
  | _ => true

/-- A transaction as the program issues it. -/
def Tx.issue (db : Db) (t : Tx) : Db := if t.ownsFeed db then t.exec db else db

theorem Tx.day_of_rebuilds {t : Tx} {db : Db} {p : PropertyId} {day : Int} (h : t.rebuilds db = some (p, day)) :
    t.day = some day := by
  cases t with
  | mutateAvailability today q checkIn checkOut action =>
    cases h
    rfl
  | reconcileCalendar today q =>
    cases h
    rfl
  | setCalendarFeedActive today q feedId isActive =>
    simp only [Tx.rebuilds] at h
    split at h <;> cases h
    rfl
  | deleteCalendarFeed today q feedId =>
    simp only [Tx.rebuilds] at h
    split at h <;> cases h
    rfl
  | replaceFeedEvents today q feedId events etag lastModified =>
    simp only [Tx.rebuilds] at h
    split at h <;> cases h
    rfl
  | cancelBooking now input =>
    simp only [Tx.rebuilds] at h
    split at h
    · obtain ⟨b, -, heq⟩ := Option.map_eq_some_iff.mp h
      cases heq
      rfl
    · cases h
  | releaseExpiredHold now b =>
    obtain ⟨b, -, heq⟩ := Option.map_eq_some_iff.mp h
    cases heq
    rfl
  | discardUnpaidBooking now booking =>
    simp only [Tx.rebuilds] at h
    split at h <;> cases h
    rfl
  | _ => cases h

section

variable {db : Db} {t : Tx} {q : PropertyId} {d : Int}

theorem releaseNights_availability_of_ne {today : Int} {b : Booking} {which : AvailabilityBlock → Bool}
    {set : Booking → Booking} {hset : ∀ r : Booking, Lib.key (set r) = Lib.key r} (hq : q ≠ b.propertyId) :
    (releaseNights db today b which set hset).availability q d = db.availability q d := by
  simp [releaseNights, reconcileCalendarAvailability, deleteBlocks, hq]

theorem reconcile_availability_of_ne {p : PropertyId} {today : Int} (hq : q ≠ p) :
    (reconcileCalendarAvailability db p today).availability q d = db.availability q d := by
  simp [reconcileCalendarAvailability, hq]

/-- A calendar that is not rebuilt changes only by the rows of a new booking. -/
theorem Tx.availability_of_not_rebuilt (h : ∀ day, t.rebuilds db ≠ some (q, day)) :
    (t.exec db).availability q d = db.availability q d ∨ (t.exec db).availability q d = some bookedBlock := by
  have hsame : db.availability q d = db.availability q d ∨ db.availability q d = some bookedBlock := .inl rfl
  let P := fun db' : Db => db'.availability q d = db.availability q d ∨ db'.availability q d = some bookedBlock
  cases t with
  | createBooking now isDelayedFlow input =>
    refine Lib.commit_of (P := P) hsame fun r db' hok => ?_
    obtain ⟨rfl, -⟩ | ⟨p, -, priceComponents, -, -, -, -, rfl⟩ := createBooking_cases hok
    · exact hsame
    · show (reserveNights db _ _ _).availability q d = _ ∨ (reserveNights db _ _ _).availability q d = _
      simp only [reserveNights]
      split
      · exact .inr rfl
      · exact .inl rfl
  | cancelBooking now input =>
    refine Lib.commit_of (P := P) hsame fun r db' hok => ?_
    obtain ⟨b, bpc, hfind, -, -, -, rfl⟩ := cancelBooking_eq_ok hok
    refine .inl (releaseNights_availability_of_ne ?_)
    rintro rfl
    refine h (currentDate now) ?_
    simp only [Tx.rebuilds, hok, hfind, Option.map_some]
  | releaseExpiredHold now b =>
    cases hb : expiredHold now b db with
    | none =>
      left
      simp only [Tx.exec, HostPlatform.releaseExpiredHold, hb]
    | some booking =>
      simp only [Tx.exec, HostPlatform.releaseExpiredHold, hb]
      refine .inl (releaseNights_availability_of_ne ?_)
      rintro rfl
      refine h (currentDate now) ?_
      simp only [Tx.rebuilds, hb, Option.map_some]
  | discardUnpaidBooking now booking =>
    refine discardLocked_of (P := P) hsame fun hheld => .inl (releaseNights_availability_of_ne ?_)
    rintro rfl
    exact h (currentDate now) (if_pos hheld)
  | mutateAvailability today p checkIn checkOut action =>
    have hq : q ≠ p := fun heq => h today (heq ▸ rfl)
    refine .inl ((reconcile_availability_of_ne hq).trans ?_)
    simp [hq]
  | reconcileCalendar today p =>
    have hq : q ≠ p := fun heq => h today (heq ▸ rfl)
    exact .inl (reconcile_availability_of_ne hq)
  | setCalendarFeedActive today p feedId isActive =>
    refine commitFeeds_of (P := P) hsame fun db' hok => ?_
    have hq : q ≠ p := fun heq => h today (by simp only [Tx.rebuilds, hok, heq])
    rw [setCalendarFeedActive_eq_ok hok]
    exact .inl (reconcile_availability_of_ne hq)
  | deleteCalendarFeed today p feedId =>
    refine commitFeeds_of (P := P) hsame fun db' hok => ?_
    have hq : q ≠ p := fun heq => h today (by simp only [Tx.rebuilds, hok, heq])
    rw [deleteCalendarFeed_eq_ok hok]
    exact .inl (reconcile_availability_of_ne hq)
  | replaceFeedEvents today p feedId events etag lastModified =>
    refine Lib.commit_of (P := P) hsame fun count db' hok => ?_
    have hq : q ≠ p := fun heq => h today (by simp only [Tx.rebuilds, hok, heq])
    obtain ⟨rows, -, rfl⟩ := replaceFeedEvents_eq_ok hok
    exact .inl (reconcile_availability_of_ne hq)
  | _ => exact .inl (congrFun (congrFun (Tx.availability_eq rfl db) q) d)

/-! ## What the feeds cover -/

/-- The events of other feeds, and the rows of those feeds, are the same. -/
theorem covers_of_other {db' : Db} (f : Nat)
    (hevents : ∀ event, event.feedId ≠ f → event ∈ db.calendarEvents → event ∈ db'.calendarEvents)
    (hfeeds : ∀ k, k ≠ f → db'.calendarFeeds.find? k = db.calendarFeeds.find? k)
    (hother : ∀ event ∈ db.calendarEvents, event.feedId = f → ∀ feed, db.calendarFeeds.find? f = some feed →
      feed.propertyId ≠ q)
    (h : db.Covers q d) : db'.Covers q d := by
  obtain ⟨event, hevent, feed, hfind, hproperty, hactive, hdates⟩ := h
  have hne : event.feedId ≠ f := fun heq => hother event hevent heq feed (heq ▸ hfind) hproperty
  exact ⟨event, hevents event hne hevent, feed, (hfeeds _ hne).trans hfind, hproperty, hactive, hdates⟩

theorem Db.SameFeeds.covers_iff {db' : Db} (h : db.SameFeeds db') : db'.Covers q d ↔ db.Covers q d := by
  unfold Db.Covers
  rw [h.calendarFeeds, h.calendarEvents]

/-- What a transaction may do to the feeds and their events, told for the other properties. -/
theorem Tx.covers_of_not_rebuilt (hlinked : ∀ event ∈ db.calendarEvents, (db.calendarFeeds.find? event.feedId).isSome)
    (howns : t.ownsFeed db = true) (h : ∀ day, t.rebuilds db ≠ some (q, day)) :
    (t.exec db).Covers q d ↔ db.Covers q d := by
  let P := fun db' : Db => db'.Covers q d ↔ db.Covers q d
  by_cases hfeeds : t.writesFeeds = false
  · exact (Tx.sameFeeds hfeeds db).covers_iff
  cases t with
  | createCalendarFeed p name feedUrl =>
    refine commitFeeds_of (P := P) Iff.rfl fun db' hok => ?_
    obtain ⟨-, -, hok⟩ := Lib.bind_eq_ok.mp hok
    obtain ⟨-, -, hok⟩ := Lib.bind_eq_ok.mp hok
    cases hok
    -- no event names the new feed
    have hnone : ∀ event ∈ db.calendarEvents, event.feedId ≠ db.calendarFeeds.freshKey := by
      intro event hevent heq
      have hsome := hlinked event hevent
      rw [heq, Table.find?_freshKey] at hsome
      cases hsome
    have hfind : ∀ k, k ≠ db.calendarFeeds.freshKey →
        (db.calendarFeeds.insertNew (feedRow p name feedUrl) fun _ => rfl).find? k = db.calendarFeeds.find? k := by
      intro k hk
      exact (Table.find?_insertNew _ _ (fun _ => rfl) k).trans (if_neg hk)
    constructor
    · exact covers_of_other db.calendarFeeds.freshKey (fun event _ hevent => hevent) (fun k hk => (hfind k hk).symm)
        fun event hevent heq => absurd heq (hnone event hevent)
    · exact covers_of_other db.calendarFeeds.freshKey (fun event _ hevent => hevent) hfind
        fun event hevent heq => absurd heq (hnone event hevent)
  | setCalendarFeedActive today p feedId isActive =>
    refine commitFeeds_of (P := P) Iff.rfl fun db' hok => ?_
    have hq : q ≠ p := fun heq => h today (by simp only [Tx.rebuilds, hok, heq])
    obtain ⟨feed, hfeed, hp⟩ := setCalendarFeedActive_feed hok
    rw [setCalendarFeedActive_eq_ok hok]
    have hfind : ∀ k, k ≠ feedId → (db.calendarFeeds.modify feedId fun f =>
        { f with isActive := isActive }).find? k = db.calendarFeeds.find? k := by
      intro k hk
      rw [Table.find?_modify, if_neg hk]
    constructor
    · refine covers_of_other feedId (fun event _ hevent => hevent) (fun k hk => (hfind k hk).symm) ?_
      intro event _ _ feed' hfeed'
      change (db.calendarFeeds.modify feedId _).find? feedId = some feed' at hfeed'
      rw [Table.find?_modify, if_pos rfl, hfeed] at hfeed'
      cases hfeed'
      exact fun heq => hq (heq.symm.trans hp)
    · refine covers_of_other feedId (fun event _ hevent => hevent) hfind ?_
      intro event _ _ feed' hfeed'
      rw [hfeed] at hfeed'
      cases hfeed'
      exact fun heq => hq (heq.symm.trans hp)
  | deleteCalendarFeed today p feedId =>
    refine commitFeeds_of (P := P) Iff.rfl fun db' hok => ?_
    have hq : q ≠ p := fun heq => h today (by simp only [Tx.rebuilds, hok, heq])
    obtain ⟨feed, hfeed, hp⟩ := deleteCalendarFeed_feed hok
    rw [deleteCalendarFeed_eq_ok hok]
    have hfind : ∀ k, k ≠ feedId →
        (db.calendarFeeds.deleteWhere fun f => f.id == feedId).find? k = db.calendarFeeds.find? k := by
      intro k hk
      refine Option.ext fun feed' => ?_
      rw [Table.find?_deleteWhere_eq_some]
      refine ⟨fun h => h.1, fun h => ⟨h, beq_eq_false_iff_ne.mpr fun heq => hk ?_⟩⟩
      exact (Table.key_of_find? h).symm.trans heq
    constructor
    · refine covers_of_other feedId (fun event _ hevent => (List.mem_filter.mp hevent).1)
        (fun k hk => (hfind k hk).symm) fun event hevent heq => ?_
      exact absurd heq (bne_iff_ne.mp (List.mem_filter.mp hevent).2)
    · refine covers_of_other feedId (fun event hne hevent => List.mem_filter.mpr ⟨hevent, bne_iff_ne.mpr hne⟩) hfind ?_
      intro event _ _ feed' hfeed'
      rw [hfeed] at hfeed'
      cases hfeed'
      exact fun heq => hq (heq.symm.trans hp)
  | replaceFeedEvents today p feedId events etag lastModified =>
    refine Lib.commit_of (P := P) Iff.rfl fun count db' hok => ?_
    have hq : q ≠ p := fun heq => h today (by simp only [Tx.rebuilds, hok, heq])
    obtain ⟨rows, hrows, rfl⟩ := replaceFeedEvents_eq_ok hok
    have hrows := eventRows_feedId (eventRows_eq_ok hrows)
    have hother : ∀ feed, db.calendarFeeds.find? feedId = some feed → feed.propertyId ≠ q := by
      intro feed hfeed heq
      simp only [Tx.ownsFeed, hfeed, Option.all_some, beq_iff_eq] at howns
      exact hq (heq.symm.trans howns)
    change Db.Covers (updateFeed _ _ _ _ _) q d ↔ _
    rw [updateFeed_covers_iff (by intro f; rfl) (by intro f; rfl)]
    constructor
    · refine covers_of_other feedId (fun event hne hevent => ?_) (fun _ _ => rfl) fun event _ _ => hother
      rcases List.mem_append.mp hevent with hold | hnew
      · exact (List.mem_filter.mp hold).1
      · exact absurd (hrows event hnew) hne
    · refine covers_of_other feedId (fun event hne hevent => ?_) (fun _ _ => rfl) fun event _ _ => hother
      exact List.mem_append_left _ (List.mem_filter.mpr ⟨hevent, bne_iff_ne.mpr hne⟩)
  | markSyncRunning p feedId => exact updateFeed_covers_iff (fun _ => rfl) fun _ => rfl
  | recordNotModified p feedId etag lastModified => exact updateFeed_covers_iff (fun _ => rfl) fun _ => rfl
  | recordSyncError p feedId message => exact updateFeed_covers_iff (fun _ => rfl) fun _ => rfl
  | _ => exact absurd rfl hfeeds

/-- The events of a calendar name feeds that exist. -/
theorem Tx.linked_exec (hlinked : ∀ event ∈ db.calendarEvents, (db.calendarFeeds.find? event.feedId).isSome) :
    ∀ event ∈ (t.exec db).calendarEvents, ((t.exec db).calendarFeeds.find? event.feedId).isSome := by
  let P := fun db' : Db => ∀ event ∈ db'.calendarEvents, (db'.calendarFeeds.find? event.feedId).isSome
  by_cases hfeeds : t.writesFeeds = false
  · obtain ⟨hcalendarFeeds, hcalendarEvents⟩ := Tx.sameFeeds hfeeds db
    rw [hcalendarFeeds, hcalendarEvents]
    exact hlinked
  have hupdated : ∀ {p feedId} {set : CalendarFeed → CalendarFeed}
      {hset : ∀ f : CalendarFeed, Lib.key (set f) = Lib.key f}, P (updateFeed db p feedId set hset) := by
    intro p feedId set hset event hevent
    simp only [updateFeed, Table.find?_updateWhere, Option.isSome_map]
    exact hlinked event hevent
  cases t with
  | createCalendarFeed p name feedUrl =>
    refine commitFeeds_of (P := P) hlinked fun db' hok => ?_
    obtain ⟨-, -, hok⟩ := Lib.bind_eq_ok.mp hok
    obtain ⟨-, -, hok⟩ := Lib.bind_eq_ok.mp hok
    cases hok
    intro event hevent
    refine (congrArg Option.isSome (Table.find?_insertNew _ _ (fun _ => rfl) event.feedId)).trans ?_
    split
    · rfl
    · exact hlinked event hevent
  | setCalendarFeedActive today p feedId isActive =>
    refine commitFeeds_of (P := P) hlinked fun db' hok => ?_
    rw [setCalendarFeedActive_eq_ok hok]
    intro event hevent
    simp only [reconcileCalendarAvailability, Table.find?_modify]
    split
    · rename_i heq
      rw [Option.isSome_map, ← heq]
      exact hlinked event hevent
    · exact hlinked event hevent
  | deleteCalendarFeed today p feedId =>
    refine commitFeeds_of (P := P) hlinked fun db' hok => ?_
    rw [deleteCalendarFeed_eq_ok hok]
    intro event hevent
    obtain ⟨hold, hne⟩ := List.mem_filter.mp hevent
    obtain ⟨feed, hfeed⟩ := Option.isSome_iff_exists.mp (hlinked event hold)
    have hkept : (db.calendarFeeds.deleteWhere fun f => f.id == feedId).find? event.feedId = some feed := by
      refine Table.find?_deleteWhere_eq_some.mpr ⟨hfeed, beq_eq_false_iff_ne.mpr fun heq => ?_⟩
      exact bne_iff_ne.mp hne ((Table.key_of_find? hfeed).symm.trans heq)
    exact congrArg Option.isSome hkept
  | replaceFeedEvents today p feedId events etag lastModified =>
    refine Lib.commit_of (P := P) hlinked fun count db' hok => ?_
    obtain ⟨rows, hrows, rfl⟩ := replaceFeedEvents_eq_ok hok
    intro event hevent
    simp only [updateFeed, reconcileCalendarAvailability, Table.find?_updateWhere, Option.isSome_map]
    rcases List.mem_append.mp hevent with hold | hnew
    · exact hlinked event (List.mem_filter.mp hold).1
    · rw [eventRows_feedId (eventRows_eq_ok hrows) event hnew]
      exact eventRows_feed hrows (List.ne_nil_of_mem hnew)
  | markSyncRunning p feedId => exact hupdated
  | recordNotModified p feedId etag lastModified => exact hupdated
  | recordSyncError p feedId message => exact hupdated
  | _ => exact absurd rfl hfeeds

end

/-! ## Runs up to a day -/

/-- The transaction takes no later day than `today` for its own. -/
def Tx.UpTo (today : Int) (t : Tx) : Prop := ∀ day, t.day = some day → day ≤ today

theorem Db.Settled.issue {db : Db} {today : Int} (h : db.Settled today) {t : Tx} (ht : t.UpTo today) :
    (t.issue db).Settled today := by
  unfold Tx.issue
  split
  · rename_i howns
    refine ⟨h.noOpenRow.of_rowsTaken (t.rowsTaken db), ?_, ?_, Tx.linked_exec h.linked⟩
    · intro p d row hrow hsource
      by_cases hrebuilds : ∃ day, t.rebuilds db = some (p, day)
      · obtain ⟨day, hday⟩ := hrebuilds
        exact (((Tx.calendarExact h.noOpenRow hday).imported d).mp ⟨row, hrow, hsource⟩).2.1
      · have hnot := not_exists.mp hrebuilds
        rw [Tx.covers_of_not_rebuilt h.linked howns hnot]
        rcases Tx.availability_of_not_rebuilt hnot (d := d) with hsame | hbooked
        · exact h.imported p d row (hsame.symm.trans hrow) hsource
        · rw [hbooked] at hrow
          cases hrow
          cases hsource
    · intro p d hd hcovers
      by_cases hrebuilds : ∃ day, t.rebuilds db = some (p, day)
      · obtain ⟨day, hday⟩ := hrebuilds
        have hle := ht day (Tx.day_of_rebuilds hday)
        obtain ⟨row, hrow, -⟩ := (Tx.calendarExact h.noOpenRow hday).taken d (hle.trans hd) hcovers
        exact ⟨row, hrow⟩
      · have hnot := not_exists.mp hrebuilds
        rw [Tx.covers_of_not_rebuilt h.linked howns hnot] at hcovers
        obtain ⟨row, hrow⟩ := h.taken p d hd hcovers
        rcases Tx.availability_of_not_rebuilt hnot (d := d) with hsame | hbooked
        · exact ⟨row, hsame.trans hrow⟩
        · exact ⟨_, hbooked⟩
  · exact h

/-- Before any row is written there is nothing to settle. -/
structure Db.EmptyCalendar (db : Db) : Prop where
  availability : ∀ p d, db.availability p d = none
  calendarEvents : db.calendarEvents = []

theorem Db.EmptyCalendar.settled {db : Db} (h : db.EmptyCalendar) (today : Int) : db.Settled today where
  noOpenRow p d row hrow := by
    rw [h.availability] at hrow
    cases hrow
  imported p d row hrow := by
    rw [h.availability] at hrow
    cases hrow
  taken p d _ hcovers := by
    obtain ⟨event, hevent, -⟩ := hcovers
    rw [h.calendarEvents] at hevent
    cases hevent
  linked event hevent := by
    rw [h.calendarEvents] at hevent
    cases hevent

/-- Every run ends before some day. -/
theorem exists_upTo (txs : List Tx) : ∃ today : Int, ∀ t ∈ txs, t.UpTo today := by
  induction txs with
  | nil => exact ⟨0, List.forall_mem_nil _⟩
  | cons t txs ih =>
    obtain ⟨today, h⟩ := ih
    refine ⟨max today (t.day.getD today), List.forall_mem_cons.mpr ⟨fun day hday => ?_, fun s hs day hday => ?_⟩⟩
    · rw [hday]
      exact le_max_right _ _
    · exact (h s hs day hday).trans (le_max_left _ _)

/-- The calendars of a run are settled on every day from its last one on. -/
theorem settled_run {db : Db} (h : db.EmptyCalendar) {today : Int} {txs : List Tx}
    (htxs : ∀ t ∈ txs, t.UpTo today) : (run Tx.issue db txs).Settled today := by
  refine run_invariant (I := fun db : Db => db.Settled today) (G := fun _ t => Tx.UpTo today t)
    (fun db t hdb ht => hdb.issue ht) (h.settled today) ?_
  refine guarded_iff.mpr fun pre t suf heq => htxs t ?_
  rw [heq]
  exact List.mem_append_right _ List.mem_cons_self

theorem sampleDb_empty : sampleDb.EmptyCalendar := ⟨fun _ _ => rfl, rfl⟩

/-- The feed of `bookedThenImported` imports three nights of which a guest has booked the first. -/
def importedNights : List Tx := bookedThenImported ++ [.replaceFeedEvents 0 1 1 [threeNights] none none]

end HostPlatform
