-- SUMMARY: A synchronisation that throws leaves events, availability and validators as they were.
import HostPlatform.Calendar.SyncCalendarFeed
import HostPlatform.Transactions

/-!
# A failed synchronisation

What a call writes before and after its `try` block are the columns that show its
progress; all else is written by statements that end the call successfully.
-/

namespace HostPlatform

open Lib (Connection JsString Session Table js)
open Lib.JsString
open Lib.Session

/-- The row differs at most in the columns that show the progress of a sync. -/
def CalendarFeed.SameButStatus (f f' : CalendarFeed) : Prop :=
  f' = { f with lastSyncStatus := f'.lastSyncStatus, lastError := f'.lastError }

theorem CalendarFeed.SameButStatus.refl (f : CalendarFeed) : f.SameButStatus f := rfl

/-- Every table is as it was, but for those columns of the feeds. -/
structure Db.SyncStatusOnly (db db' : Db) : Prop where
  frame : db' = { db with calendarFeeds := db'.calendarFeeds }
  feeds : Table.Rowwise CalendarFeed.SameButStatus db.calendarFeeds db'.calendarFeeds

theorem Db.SyncStatusOnly.refl (db : Db) : db.SyncStatusOnly db := ⟨rfl, .refl .refl _⟩

theorem Db.SyncStatusOnly.trans {db db' db'' : Db} (h : db.SyncStatusOnly db')
    (h' : db'.SyncStatusOnly db'') : db.SyncStatusOnly db'' := by
  constructor
  · rw [h'.frame, h.frame]
  · refine h.feeds.trans (fun f f' f'' hf hf' => ?_) h'.feeds
    unfold CalendarFeed.SameButStatus at *
    rw [hf', hf]

theorem updateFeed_syncStatusOnly (db : Db) (propertyId : PropertyId) (feedId : Nat)
    {set : CalendarFeed → CalendarFeed} (hset : ∀ f : CalendarFeed, Lib.key (set f) = Lib.key f)
    (hstatus : ∀ f, CalendarFeed.SameButStatus f (set f)) :
    db.SyncStatusOnly (updateFeed db propertyId feedId set hset) :=
  ⟨rfl, .updateWhere .refl hset fun f _ _ => hstatus f⟩

theorem markSyncRunning_syncStatusOnly (db : Db) (propertyId : PropertyId) (feedId : Nat) :
    db.SyncStatusOnly (markSyncRunning db propertyId feedId) :=
  updateFeed_syncStatusOnly db propertyId feedId _ fun _ => rfl

theorem recordSyncError_syncStatusOnly (db : Db) (propertyId : PropertyId) (feedId : Nat)
    (message : JsString) : db.SyncStatusOnly (recordSyncError db propertyId feedId message) :=
  updateFeed_syncStatusOnly db propertyId feedId _ fun _ => rfl

/-! ## Where a call can throw -/

/-- The statement that ends the call had its effect on what the call found, which became
`synced`; but its answer was lost. -/
def EndLost (collation : Collation) (urls : UrlParser) (net : Network) (answers : SyncAnswers) (today : Int)
    (propertyId : PropertyId) (feedId : Nat) (db synced : Db) : Prop :=
  ∃ feed fetched result lost, getActiveFeed db propertyId feedId = .ok feed ∧
    (fetchCalendar urls net feed.feedUrl (fetchOptions feed)).result = .ok fetched ∧
    answers (endStatement fetched) = .lost lost ∧
    endSync collation today propertyId feed.id fetched (markSyncRunning db propertyId feedId) = .ok (result, synced)

section

variable {collation : Collation} {urls : UrlParser} {net : Network} {answers : SyncAnswers} {today : Int}
  {propertyId : PropertyId} {feedId : Nat} {db : Db}

/-- The `catch`: whatever becomes of its update, only progress columns change. -/
theorem wp_catch_statusOnly {Q : Except SyncError CalendarSyncResult → Connection Db → Prop} {c : Connection Db}
    {error : SyncError} (h : ∀ error c', c.committed.SyncStatusOnly c'.committed → Q (.error error) c') :
    wp (do
      recordError answers propertyId feedId (safeSyncError error)
      throw (.calendarSync (safeSyncError error))) Q c := by
  have hrecord := recordSyncError_syncStatusOnly c.committed propertyId feedId (safeSyncError error)
  refine wp_bind (wp_autocommit (fun _ db' hupdate => ?_) (fun _ db' error' hupdate _ => ?_) fun error' => ?_)
  · cases hupdate
    exact wp_throw (h _ _ hrecord)
  · cases hupdate
    exact h error' _ hrecord
  · exact h error' c (.refl _)

/-- The `try` block and its `catch`, on a feed that was marked `running`. -/
theorem wp_try_statusOnly {Q : Except SyncError CalendarSyncResult → Connection Db → Prop} {c : Connection Db}
    (hidle : c.reset = c) {feed : CalendarFeed} (hok : ∀ result c', Q (.ok result) c')
    (hthrows : ∀ error c', c.committed.SyncStatusOnly c'.committed → Q (.error error) c')
    (hlost : ∀ fetched result synced lost error c',
      (fetchCalendar urls net feed.feedUrl (fetchOptions feed)).result = .ok fetched →
      answers (endStatement fetched) = .lost lost →
      endSync collation today propertyId feed.id fetched c.committed = .ok (result, synced) →
      synced.SyncStatusOnly c'.committed → Q (.error error) c') :
    wp (tryCatch (trySync collation urls net answers today propertyId feed) fun error => do
      recordError answers propertyId feedId (safeSyncError error)
      throw (.calendarSync (safeSyncError error))) Q c := by
  refine wp_tryCatch (wp_bind (wp_ofExcept ?_))
  cases hfetched : (fetchCalendar urls net feed.feedUrl (fetchOptions feed)).result with
  | error error => exact wp_catch_statusOnly hthrows
  | ok fetched =>
    refine wp_applyFetched hidle (fun result db' _ => hok result _) (fun result synced lost hend hanswer error => ?_)
      fun error => wp_catch_statusOnly hthrows
    refine wp_catch_statusOnly fun error' c' hstatus => ?_
    exact hlost fetched result synced lost error' c' hfetched hanswer hend hstatus

end

/-- Whatever the response, the body and the statement that fails: a call that throws has
written progress columns only, unless its last statement had its effect and lost its answer.
Then the rest is as that statement left it. -/
theorem failedSync_statusOnly (collation : Collation) (urls : UrlParser) (net : Network)
    (answers : SyncAnswers) (today : Int) (propertyId : PropertyId) (feedId : Nat) (db : Db)
    {error : SyncError} {c : Connection Db}
    (h : (syncCalendarFeed collation urls net answers today propertyId feedId).exec (.idle db) = (.error error, c)) :
    db.SyncStatusOnly c.committed ∨
      ∃ synced, EndLost collation urls net answers today propertyId feedId db synced ∧
        synced.SyncStatusOnly c.committed := by
  have hrunning := markSyncRunning_syncStatusOnly db propertyId feedId
  have hcall : wp (syncCalendarFeed collation urls net answers today propertyId feedId)
      (fun r c' => r = .error error → db.SyncStatusOnly c'.committed ∨
        ∃ synced, EndLost collation urls net answers today propertyId feedId db synced ∧
          synced.SyncStatusOnly c'.committed) (.idle db) := by
    refine wp_bind (wp_query (fun feed hfeed => ?_) fun _ _ => .inl (.refl db))
    refine wp_bind (wp_autocommit (fun _ marked hmark => ?_) (fun _ marked _ hmark _ => ?_) fun _ _ => .inl (.refl db))
    · cases hmark
      refine wp_try_statusOnly rfl (fun _ _ => nofun) (fun _ c' hstatus _ => .inl (hrunning.trans hstatus)) ?_
      intro fetched result synced lost _ c' hfetched hanswer hend hstatus _
      exact .inr ⟨synced, ⟨feed, fetched, result, lost, hfeed, hfetched, hanswer, hend⟩, hstatus⟩
    · cases hmark
      exact fun _ => .inl hrunning
  unfold wp at hcall
  rw [h] at hcall
  exact hcall rfl

/-! ## A body that is no calendar -/

/-- The feed's host answers every request with a page of text. -/
def pageNetwork : Network :=
  { resolver := fun _ _ => some [js "93.184.216.34"]
    connect := fun _ _ => some (js "93.184.216.34")
    respond := fun _ _ => some
      { status := 200
        etag := some (js "2")
        lastModified := none
        location := none
        contentType := some (js "text/plain")
        contentLength := none
        body := .bytes 9 (js "not found") } }

/-- The sample property with one feed. -/
def sampleFeedDb : Db := Tx.exec sampleDb (.createCalendarFeed 1 (js "Other site") sampleUrl.href)

/-- The call of the sample feed against a network. -/
def sampleSync (net : Network) (answers : SyncAnswers) : Except SyncError CalendarSyncResult × Connection Db :=
  (syncCalendarFeed sampleCollation sampleUrls net answers 0 1 1).exec (.idle sampleFeedDb)

theorem pageReturned_statusOnly :
    (sampleSync pageNetwork .allDone).1 = .error (.calendarSync (js "Calendar could not be synchronised")) ∧
      (sampleFeedDb.SyncStatusOnly (sampleSync pageNetwork .allDone).2.committed ∨
        ∃ synced, EndLost sampleCollation sampleUrls pageNetwork .allDone 0 1 1 sampleFeedDb synced ∧
          synced.SyncStatusOnly (sampleSync pageNetwork .allDone).2.committed) := by
  have hthrows : (sampleSync pageNetwork .allDone).1 =
      .error (.calendarSync (js "Calendar could not be synchronised")) := by rfl
  exact ⟨hthrows, failedSync_statusOnly sampleCollation sampleUrls pageNetwork .allDone 0 1 1 sampleFeedDb
    (Prod.ext hthrows rfl)⟩

/-! ## A commit without an answer -/

/-- The feed's host answers with a calendar of one stay. -/
def stayNetwork : Network :=
  { pageNetwork with
    respond := fun _ _ => some
      { status := 200
        etag := some (js "2")
        lastModified := none
        location := none
        contentType := some (js "text/calendar")
        contentLength := none
        body := .bytes 91
          (js "BEGIN:VCALENDAR\nBEGIN:VEVENT\nUID:a\nDTSTART:20260501\nDTEND:20260502\nEND:VEVENT\nEND:VCALENDAR") } }

/-- The connection breaks after the `COMMIT`, before its answer. -/
def commitUnanswered : SyncAnswers := fun st =>
  if st = .commit then .lost ⟨"08006", "Connection terminated unexpectedly"⟩ else .done

/-- The call throws, and the stay is stored. -/
theorem commitUnanswered_stored :
    (sampleSync stayNetwork commitUnanswered).1 =
        .error (.calendarSync (js "Calendar could not be synchronised")) ∧
      ¬ sampleFeedDb.SyncStatusOnly (sampleSync stayNetwork commitUnanswered).2.committed := by
  refine ⟨by decide +kernel, fun hstatus => ?_⟩
  have hstored : (sampleSync stayNetwork commitUnanswered).2.committed.calendarEvents ≠ [] := by decide +kernel
  rw [hstatus.frame] at hstored
  exact hstored rfl

end HostPlatform
