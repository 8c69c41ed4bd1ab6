-- SUMMARY: The feeds of a property, the events stored for them, and the rebuilding of its imported blocks (`calendarSync.ts`).
import HostPlatform.Schema
import HostPlatform.Calendar.ICal

/-!
# Calendar reconciliation

Imported blocks are the rows with source `ical_sync`. Every transaction that may
change them deletes all of them and inserts them again from the active feeds.
-/

namespace HostPlatform

open Lib (CivilDate JsString Table require)
open Lib.JsString

/-- Some event of an active feed of the property covers the date, from today on. -/
def coveredByFeed (db : Db) (propertyId : PropertyId) (today date : Int) : Bool :=
  db.calendarEvents.any fun event =>
    decide (max event.startsOn today ≤ date) && decide (date < event.endsOn) &&
      match db.calendarFeeds.find? event.feedId with
      | some feed => feed.propertyId == propertyId && feed.isActive
      | none => false

/-- The row an imported date is given. -/
def importedBlock (covered : Bool) : Option AvailabilityBlock :=
  if covered then some ⟨.blocked, .icalSync⟩ else none

/-- One date of the reconciliation: `DELETE .. WHERE source = 'ical_sync'`, then
`INSERT .. ON CONFLICT DO NOTHING`. -/
def reconcileDate (covered : Bool) : Option AvailabilityBlock → Option AvailabilityBlock
  | some row => if row.source = .icalSync then importedBlock covered else some row
  | none => importedBlock covered

def reconcileCalendarAvailability (db : Db) (propertyId : PropertyId) (today : Int) : Db :=
  { db with
    availability := fun p date =>
      if p = propertyId then
        reconcileDate (coveredByFeed db propertyId today date) (db.availability p date)
      else db.availability p date }

/-- The rows the `INSERT` of a reconciliation adds. -/
def blockedDateCount (db : Db) (propertyId : PropertyId) (today : Int) : Nat :=
  let dates := db.calendarEvents.flatMap fun event =>
    let first := max event.startsOn today
    (List.range (event.endsOn - first).toNat).map fun n : Nat => first + (n : Int)
  dates.eraseDups.countP fun date =>
    coveredByFeed db propertyId today date
      && (db.availability propertyId date).all fun row => decide (row.source = .icalSync)

/-- Reconciliation neither removes, changes nor adds a row of another source. -/
theorem reconcileDate_eq_some_iff {covered : Bool} {old : Option AvailabilityBlock}
    {row : AvailabilityBlock} (hsource : row.source ≠ .icalSync) :
    reconcileDate covered old = some row ↔ old = some row := by
  have himported : importedBlock covered ≠ some row := by
    unfold importedBlock
    intro h
    split at h
    · cases h; exact hsource rfl
    · cases h
  cases old with
  | none => simpa [reconcileDate] using himported
  | some r =>
    simp only [reconcileDate]
    split
    · rename_i hr
      refine ⟨fun h => absurd h himported, fun h => ?_⟩
      cases h
      exact absurd hr hsource
    · exact Iff.rfl

theorem reconcile_availability_iff {db : Db} {propertyId p : PropertyId} {today date : Int}
    {row : AvailabilityBlock} (hsource : row.source ≠ .icalSync) :
    (reconcileCalendarAvailability db propertyId today).availability p date = some row ↔
      db.availability p date = some row := by
  simp only [reconcileCalendarAvailability]
  split
  · exact reconcileDate_eq_some_iff hsource
  · exact Iff.rfl

/-! ## Feeds -/

def feedNotFound : BookingError := ⟨"CalendarSyncError", "Calendar feed was not found"⟩

def maxFeedsPerProperty : Nat := 10

/-- The row `createCalendarFeed` inserts: the defaults of the schema. -/
def feedRow (propertyId : PropertyId) (name feedUrl : JsString) (id : Nat) : CalendarFeed :=
  { id := id
    propertyId := propertyId
    name := name
    feedUrl := feedUrl
    isActive := true
    lastSyncStatus := .never
    lastError := none
    remoteEtag := none
    remoteLastModified := none }

/-- The transaction of `createCalendarFeed`, on an address that was checked. The URL
is unique for each property. -/
def createCalendarFeed (db : Db) (propertyId : PropertyId) (name feedUrl : JsString) :
    Except BookingError Db := do
  let feeds := db.calendarFeeds.select fun f => f.propertyId == propertyId
  require (feeds.length < maxFeedsPerProperty)
    ⟨"CalendarSyncError", "A property can have up to 10 imported calendars"⟩
  require (∀ f ∈ feeds, f.feedUrl ≠ feedUrl) uniqueViolation
  return { db with calendarFeeds := db.calendarFeeds.insertNew (feedRow propertyId name feedUrl) fun _ => rfl }

def setCalendarFeedActive (db : Db) (today : Int) (propertyId : PropertyId) (feedId : Nat)
    (isActive : Bool) : Except BookingError Db :=
  match db.calendarFeeds.find? feedId with
  | some feed =>
    if feed.propertyId = propertyId then
      .ok (reconcileCalendarAvailability
        { db with calendarFeeds := db.calendarFeeds.modify feedId fun f => { f with isActive := isActive } }
        propertyId today)
    else .error feedNotFound
  | none => .error feedNotFound

/-- Events go with their feed (`ON DELETE CASCADE`). -/
def deleteCalendarFeed (db : Db) (today : Int) (propertyId : PropertyId) (feedId : Nat) :
    Except BookingError Db :=
  match db.calendarFeeds.find? feedId with
  | some feed =>
    if feed.propertyId = propertyId then
      .ok (reconcileCalendarAvailability
        { db with
          calendarFeeds := db.calendarFeeds.deleteWhere fun f => f.id == feedId
          calendarEvents := db.calendarEvents.filter fun e => e.feedId != feedId }
        propertyId today)
    else .error feedNotFound
  | none => .error feedNotFound

/-- `UPDATE property_calendar_feeds SET .. WHERE id = $1 AND property_id = $2`. -/
def updateFeed (db : Db) (propertyId : PropertyId) (feedId : Nat) (set : CalendarFeed → CalendarFeed)
    (hset : ∀ f : CalendarFeed, Lib.key (set f) = Lib.key f := by intro f; rfl) : Db :=
  { db with
    calendarFeeds := db.calendarFeeds.updateWhere
      (fun f => f.id == feedId && f.propertyId == propertyId) set hset }

/-! ## Events of a feed -/

/-- A text as its column stores it: text columns hold no NUL. -/
def textColumn (s : JsString) : Except BookingError JsString := do
  require (0 ∉ s) ⟨"22021", "invalid byte sequence for encoding UTF8: 0x00"⟩
  return toWellFormed s

/-- `$4::date`: there is no year 0. -/
def dateColumn (d : CivilDate) : Except BookingError Int := do
  require (d.year ≠ 0) ⟨"22008", "date/time field value out of range"⟩
  return d.toDays

def checkViolation : BookingError := ⟨"23514", "new row violates check constraint"⟩

def foreignKeyViolation : BookingError :=
  ⟨"23503", "insert or update violates foreign key constraint"⟩

/-- The inserted row, with the casts and the checks of the table. -/
def eventRow (feedId : Nat) (event : ImportedEvent) : Except BookingError CalendarEvent := do
  let eventKey ← textColumn event.eventKey
  let externalUid ← textColumn event.externalUid
  let startsOn ← dateColumn event.startsOn
  let endsOn ← dateColumn event.endsOn
  let summary ← event.summary.mapM textColumn
  require (startsOn < endsOn) checkViolation
  require (1 ≤ charLength eventKey ∧ charLength eventKey ≤ 500) checkViolation
  require (1 ≤ charLength externalUid ∧ charLength externalUid ≤ 500) checkViolation
  return ⟨feedId, eventKey, externalUid, startsOn, endsOn, summary⟩

/-- The rows of one `INSERT`, which inserts nothing when there are no events. -/
def eventRows (db : Db) (feedId : Nat) (events : List ImportedEvent) :
    Except BookingError (List CalendarEvent) := do
  let rows ← events.mapM (eventRow feedId)
  require (rows.map CalendarEvent.eventKey).Nodup uniqueViolation
  require (rows = [] ∨ (db.calendarFeeds.find? feedId).isSome) foreignKeyViolation
  return rows

/-- The stored events of the feed become the parsed ones, with the validators of
the response they came in. -/
def replaceFeedEvents (db : Db) (today : Int) (propertyId : PropertyId) (feedId : Nat)
    (events : List ImportedEvent) (etag lastModified : Option JsString) :
    Except BookingError (Nat × Db) := do
  let rows ← eventRows db feedId events
  let replaced : Db :=
    { db with calendarEvents := (db.calendarEvents.filter fun e => e.feedId != feedId) ++ rows }
  return (blockedDateCount replaced propertyId today,
    updateFeed (reconcileCalendarAvailability replaced propertyId today) propertyId feedId fun f =>
      { f with
        lastSyncStatus := .success
        lastError := none
        remoteEtag := etag
        remoteLastModified := lastModified })

/-! ## The statements of that transaction -/

/-- `DELETE FROM property_calendar_events WHERE feed_id = $1`. -/
def deleteFeedEvents (db : Db) (feedId : Nat) : Db :=
  { db with calendarEvents := db.calendarEvents.filter fun e => e.feedId != feedId }

/-- The `INSERT` of the parsed events. -/
def insertFeedEvents (db : Db) (feedId : Nat) (events : List ImportedEvent) : Except BookingError Db := do
  let rows ← eventRows db feedId events
  return { db with calendarEvents := db.calendarEvents ++ rows }

/-- `DELETE FROM availability_blocks WHERE property_id = $1 AND source = 'ical_sync'`. -/
def deleteImportedBlocks (db : Db) (propertyId : PropertyId) : Db :=
  { db with
    availability := fun p date =>
      if p = propertyId then (db.availability p date).filter fun row => !decide (row.source = .icalSync)
      else db.availability p date }

/-- `INSERT INTO availability_blocks .. ON CONFLICT (property_id, date) DO NOTHING`. -/
def insertImportedBlocks (db : Db) (propertyId : PropertyId) (today : Int) : Db :=
  { db with
    availability := fun p date =>
      if p = propertyId then
        (db.availability p date).or (importedBlock (coveredByFeed db propertyId today date))
      else db.availability p date }

/-- The last `UPDATE`. -/
def recordReplaced (db : Db) (propertyId : PropertyId) (feedId : Nat) (etag lastModified : Option JsString) : Db :=
  updateFeed db propertyId feedId fun f =>
    { f with
      lastSyncStatus := .success
      lastError := none
      remoteEtag := etag
      remoteLastModified := lastModified }

theorem coveredByFeed_deleteImportedBlocks (db : Db) (propertyId p : PropertyId) (today date : Int) :
    coveredByFeed (deleteImportedBlocks db propertyId) p today date = coveredByFeed db p today date := rfl

/-- The two statements of a reconciliation are the rebuilding of each date. -/
theorem insertImportedBlocks_deleteImportedBlocks (db : Db) (propertyId : PropertyId) (today : Int) :
    insertImportedBlocks (deleteImportedBlocks db propertyId) propertyId today =
      reconcileCalendarAvailability db propertyId today := by
  unfold insertImportedBlocks reconcileCalendarAvailability
  congr 1
  funext p date
  rw [coveredByFeed_deleteImportedBlocks]
  unfold deleteImportedBlocks
  dsimp only
  split
  · cases db.availability p date with
    | none => rfl
    | some row =>
      by_cases hrow : row.source = .icalSync
      · simp [reconcileDate, Option.filter, hrow]
      · simp [reconcileDate, Option.filter, hrow]
  · rfl

/-- The rows the second adds are those it counts. -/
theorem blockedDateCount_deleteImportedBlocks (db : Db) (propertyId : PropertyId) (today : Int) :
    blockedDateCount (deleteImportedBlocks db propertyId) propertyId today = blockedDateCount db propertyId today := by
  unfold blockedDateCount
  refine List.countP_congr fun date _ => ?_
  rw [coveredByFeed_deleteImportedBlocks]
  have hrow : ((deleteImportedBlocks db propertyId).availability propertyId date).all
      (fun row => decide (row.source = .icalSync)) =
        (db.availability propertyId date).all fun row => decide (row.source = .icalSync) := by
    simp only [deleteImportedBlocks, if_true]
    cases db.availability propertyId date with
    | none => rfl
    | some row => by_cases hrow : row.source = .icalSync <;> simp [Option.filter, hrow]
  rw [hrow]

/-! ## The statements of a sync outside that transaction -/

def markSyncRunning (db : Db) (propertyId : PropertyId) (feedId : Nat) : Db :=
  updateFeed db propertyId feedId fun f => { f with lastSyncStatus := .running, lastError := none }

/-- After `304 Not Modified`: `COALESCE` keeps a validator the response left out. -/
def recordNotModified (db : Db) (propertyId : PropertyId) (feedId : Nat)
    (etag lastModified : Option JsString) : Db :=
  updateFeed db propertyId feedId fun f =>
    { f with
      lastSyncStatus := .success
      lastError := none
      remoteEtag := etag.or f.remoteEtag
      remoteLastModified := lastModified.or f.remoteLastModified }

def recordSyncError (db : Db) (propertyId : PropertyId) (feedId : Nat) (message : JsString) : Db :=
  updateFeed db propertyId feedId fun f =>
    { f with lastSyncStatus := .error, lastError := some message }

/-! ## What these transactions write -/

/-- Only the three calendar tables may differ. -/
def Db.CalendarFrame (db db' : Db) : Prop :=
  db' = { db with
    availability := db'.availability
    calendarFeeds := db'.calendarFeeds
    calendarEvents := db'.calendarEvents }

theorem Db.CalendarFrame.refl (db : Db) : db.CalendarFrame db := rfl

theorem createCalendarFeed_frame {db db' : Db} {propertyId : PropertyId} {name feedUrl : JsString}
    (h : createCalendarFeed db propertyId name feedUrl = .ok db') :
    db.CalendarFrame db' ∧ db'.availability = db.availability := by
  obtain ⟨-, -, h⟩ := Lib.bind_eq_ok.mp h
  obtain ⟨-, -, h⟩ := Lib.bind_eq_ok.mp h
  cases h
  exact ⟨rfl, rfl⟩

/-- The feed a request names, when it is one of the property's. -/
theorem setCalendarFeedActive_eq_ok {db db' : Db} {today : Int} {propertyId : PropertyId}
    {feedId : Nat} {isActive : Bool}
    (h : setCalendarFeedActive db today propertyId feedId isActive = .ok db') :
    db' = reconcileCalendarAvailability
      { db with calendarFeeds := db.calendarFeeds.modify feedId fun f => { f with isActive := isActive } }
      propertyId today := by
  unfold setCalendarFeedActive at h
  split at h
  · split at h
    · cases h
      rfl
    · cases h
  · cases h

theorem setCalendarFeedActive_feed {db db' : Db} {today : Int} {propertyId : PropertyId} {feedId : Nat}
    {isActive : Bool} (h : setCalendarFeedActive db today propertyId feedId isActive = .ok db') :
    ∃ feed, db.calendarFeeds.find? feedId = some feed ∧ feed.propertyId = propertyId := by
  unfold setCalendarFeedActive at h
  split at h
  · rename_i feed hfeed
    split at h
    · rename_i hproperty
      exact ⟨feed, hfeed, hproperty⟩
    · cases h
  · cases h

theorem deleteCalendarFeed_feed {db db' : Db} {today : Int} {propertyId : PropertyId} {feedId : Nat}
    (h : deleteCalendarFeed db today propertyId feedId = .ok db') :
    ∃ feed, db.calendarFeeds.find? feedId = some feed ∧ feed.propertyId = propertyId := by
  unfold deleteCalendarFeed at h
  split at h
  · rename_i feed hfeed
    split at h
    · rename_i hproperty
      exact ⟨feed, hfeed, hproperty⟩
    · cases h
  · cases h

theorem deleteCalendarFeed_eq_ok {db db' : Db} {today : Int} {propertyId : PropertyId} {feedId : Nat}
    (h : deleteCalendarFeed db today propertyId feedId = .ok db') :
    db' = reconcileCalendarAvailability
      { db with
        calendarFeeds := db.calendarFeeds.deleteWhere fun f => f.id == feedId
        calendarEvents := db.calendarEvents.filter fun e => e.feedId != feedId }
      propertyId today := by
  unfold deleteCalendarFeed at h
  split at h
  · split at h
    · cases h
      rfl
    · cases h
  · cases h

/-- Every row that is inserted for a feed names it. -/
theorem eventRow_feedId {feedId : Nat} {event : ImportedEvent} {row : CalendarEvent}
    (h : eventRow feedId event = .ok row) : row.feedId = feedId := by
  unfold eventRow at h
  obtain ⟨_, -, h⟩ := Lib.bind_eq_ok.mp h
  obtain ⟨_, -, h⟩ := Lib.bind_eq_ok.mp h
  obtain ⟨_, -, h⟩ := Lib.bind_eq_ok.mp h
  obtain ⟨_, -, h⟩ := Lib.bind_eq_ok.mp h
  obtain ⟨_, -, h⟩ := Lib.bind_eq_ok.mp h
  obtain ⟨_, -, h⟩ := Lib.bind_eq_ok.mp h
  obtain ⟨_, -, h⟩ := Lib.bind_eq_ok.mp h
  obtain ⟨_, -, h⟩ := Lib.bind_eq_ok.mp h
  cases h
  rfl

theorem eventRows_feedId {feedId : Nat} {events : List ImportedEvent} {rows : List CalendarEvent}
    (h : events.mapM (eventRow feedId) = .ok rows) : ∀ row ∈ rows, row.feedId = feedId :=
  Lib.forall_mem_of_mapM h fun _ _ => eventRow_feedId

theorem eventRows_eq_ok {db : Db} {feedId : Nat} {events : List ImportedEvent}
    {rows : List CalendarEvent} (h : eventRows db feedId events = .ok rows) :
    events.mapM (eventRow feedId) = .ok rows := by
  obtain ⟨inserted, hinserted, h⟩ := Lib.bind_eq_ok.mp h
  obtain ⟨-, -, h⟩ := Lib.bind_eq_ok.mp h
  obtain ⟨-, -, h⟩ := Lib.bind_eq_ok.mp h
  cases h
  exact hinserted

/-- The foreign key of the rows. -/
theorem eventRows_feed {db : Db} {feedId : Nat} {events : List ImportedEvent} {rows : List CalendarEvent}
    (h : eventRows db feedId events = .ok rows) (hne : rows ≠ []) : (db.calendarFeeds.find? feedId).isSome := by
  obtain ⟨inserted, hinserted, h⟩ := Lib.bind_eq_ok.mp h
  obtain ⟨-, -, h⟩ := Lib.bind_eq_ok.mp h
  obtain ⟨_, hkey, h⟩ := Lib.bind_eq_ok.mp h
  cases h
  exact (Lib.require_eq_ok.mp hkey).resolve_left hne

theorem replaceFeedEvents_eq_ok {db db' : Db} {today : Int} {propertyId : PropertyId} {feedId : Nat}
    {events : List ImportedEvent} {etag lastModified : Option JsString} {count : Nat}
    (h : replaceFeedEvents db today propertyId feedId events etag lastModified = .ok (count, db')) :
    ∃ rows, eventRows db feedId events = .ok rows ∧
      db' = updateFeed
        (reconcileCalendarAvailability
          { db with calendarEvents := (db.calendarEvents.filter fun e => e.feedId != feedId) ++ rows }
          propertyId today)
        propertyId feedId fun f =>
          { f with
            lastSyncStatus := .success
            lastError := none
            remoteEtag := etag
            remoteLastModified := lastModified } := by
  obtain ⟨rows, hrows, h⟩ := Lib.bind_eq_ok.mp h
  cases h
  exact ⟨rows, hrows, rfl⟩

end HostPlatform
