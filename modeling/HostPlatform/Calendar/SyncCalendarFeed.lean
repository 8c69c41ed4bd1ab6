-- SUMMARY: One synchronisation of a feed: read it, fetch it conditionally, store what came, and record a failure (`calendarSync.ts`).
import HostPlatform.Calendar.CalendarSync
import HostPlatform.Calendar.SafeCalendarFetch
import HostPlatform.Lib.Session

/-!
# Synchronising a feed

A call is a session: a query, an update that commits by itself, the fetch, a transaction
or another update, and an update that records a failure. Each statement can fail, and the
answer to each can be lost. The parts of a call are separate sessions, so that it can be
run in one piece here and interleaved with others elsewhere.
-/

namespace HostPlatform

open Lib (Answer Connection JsString Session js)
open Lib.JsString
open Lib.Session

def isHostCalendarEvent (event : ImportedEvent) : Bool :=
  (js "@hostcityliving.com").isSuffixOf (toLowerCase (trim event.externalUid))

structure CalendarSyncResult where
  feedId : Nat
  notModified : Bool
  eventCount : Nat
  blockedDateCount : Nat
  deriving DecidableEq

/-- What a call may catch or throw. -/
inductive SyncError where
  | fetch (error : FetchFailure)
  | parse (error : CalendarParseError)
  | calendarSync (message : JsString)
  | database (error : BookingError)
  deriving DecidableEq

/-- Only the texts of the two calendar errors are shown. -/
def safeSyncError : SyncError → JsString
  | .fetch (.calendarFetch error) => error.message.take 500
  | .calendarSync message => message.take 500
  | _ => js "Calendar could not be synchronised"

def getFeed (db : Db) (propertyId : PropertyId) (feedId : Nat) : Except SyncError CalendarFeed :=
  match (db.calendarFeeds.find? feedId).filter fun f => f.propertyId == propertyId with
  | some feed => .ok feed
  | none => .error (.calendarSync (js "Calendar feed was not found"))

/-- The row `getFeed` returns, when the feed is enabled. -/
def getActiveFeed (db : Db) (propertyId : PropertyId) (feedId : Nat) : Except SyncError CalendarFeed := do
  let feed ← getFeed db propertyId feedId
  Lib.require (feed.isActive = true) (.calendarSync (js "Enable this calendar before synchronising it"))
  return feed

def fetchOptions (feed : CalendarFeed) : CalendarFetchOptions :=
  { etag := feed.remoteEtag
    lastModified := feed.remoteLastModified }

/-- The events of a body that HOST did not write itself. -/
def importedEvents (collation : Collation) (body : JsString) :
    Except CalendarParseError (List ImportedEvent) := do
  let events ← parseICalendar collation body
  return events.filter fun event => !isHostCalendarEvent event

/-! ## Statements and their answers -/

/-- The statements of one call, in the order of the source. -/
inductive SyncStatement where
  | getFeed
  | running
  | notModified
  | begin
  | lock
  | deleteEvents
  | insertEvents
  | deleteBlocks
  | insertBlocks
  | updateFeed
  | commit
  | rollback
  | record
  deriving DecidableEq, Repr

/-- What becomes of each statement of a call. -/
def SyncAnswers : Type := SyncStatement → Answer BookingError

namespace SyncAnswers

/-- Every statement is answered. -/
def allDone : SyncAnswers := fun _ => .done

def get (answers : SyncAnswers) (statement : SyncStatement) : Answer SyncError :=
  (answers statement).map .database

def transaction (answers : SyncAnswers) : TransactionAnswers SyncError :=
  ⟨answers.get .begin, answers.get .commit, answers.get .rollback⟩

end SyncAnswers

/-- A statement that cannot be refused for what the tables hold. -/
def always {ε : Type} (f : Db → Db) (db : Db) : Except ε (Unit × Db) := .ok ((), f db)

/-- The `INSERT` of the events, left out when there are none. -/
def insertFeedEventsStatement (answers : SyncAnswers) (feedId : Nat) (events : List ImportedEvent) :
    Session Db SyncError Unit :=
  if events.isEmpty then pure ()
  else
    statement (answers.get .insertEvents) fun db =>
      ((insertFeedEvents db feedId events).map fun db => ((), db)).mapError .database

/-- What `replaceFeedEvents` does inside its transaction, statement by statement. -/
def replaceFeedEventsBody (answers : SyncAnswers) (today : Int) (propertyId : PropertyId) (feedId : Nat)
    (events : List ImportedEvent) (etag lastModified : Option JsString) : Session Db SyncError Nat := do
  statement (answers.get .lock) (always id)
  statement (answers.get .deleteEvents) (always fun db => deleteFeedEvents db feedId)
  insertFeedEventsStatement answers feedId events
  statement (answers.get .deleteBlocks) (always fun db => deleteImportedBlocks db propertyId)
  let blockedDateCount ← statement (answers.get .insertBlocks) fun db =>
    .ok (blockedDateCount db propertyId today, insertImportedBlocks db propertyId today)
  statement (answers.get .updateFeed) (always fun db => recordReplaced db propertyId feedId etag lastModified)
  return blockedDateCount

def replaceFeedEventsStatements (answers : SyncAnswers) (today : Int) (propertyId : PropertyId)
    (feedId : Nat) (events : List ImportedEvent) (etag lastModified : Option JsString) :
    Session Db SyncError Nat :=
  withTransaction answers.transaction
    (replaceFeedEventsBody answers today propertyId feedId events etag lastModified)

/-! ## One call -/

/-- The `UPDATE` before the `try`. -/
def setRunning (answers : SyncAnswers) (propertyId : PropertyId) (feedId : Nat) : Session Db SyncError Unit :=
  autocommit (answers.get .running) (always fun db => markSyncRunning db propertyId feedId)

/-- What follows the fetch: the `304` update, or the transaction of `replaceFeedEvents`. -/
def applyFetched (collation : Collation) (answers : SyncAnswers) (today : Int) (propertyId : PropertyId)
    (feedId : Nat) (fetched : CalendarFetchResult) : Session Db SyncError CalendarSyncResult :=
  match fetched with
  | .notModified etag lastModified => do
    autocommit (answers.get .notModified)
      (always fun db => recordNotModified db propertyId feedId etag lastModified)
    return ⟨feedId, true, 0, 0⟩
  | .modified body etag lastModified => do
    let events ← MonadExcept.ofExcept ((importedEvents collation body).mapError SyncError.parse)
    let blockedDateCount ← replaceFeedEventsStatements answers today propertyId feedId events etag lastModified
    return ⟨feedId, false, events.length, blockedDateCount⟩

/-- The `try` block: the fetch, and what follows it. -/
def trySync (collation : Collation) (urls : UrlParser) (net : Network) (answers : SyncAnswers)
    (today : Int) (propertyId : PropertyId) (feed : CalendarFeed) : Session Db SyncError CalendarSyncResult := do
  let fetched ← MonadExcept.ofExcept
    ((fetchCalendar urls net feed.feedUrl (fetchOptions feed)).result.mapError SyncError.fetch)
  applyFetched collation answers today propertyId feed.id fetched

/-- The `UPDATE` of the `catch`. -/
def recordError (answers : SyncAnswers) (propertyId : PropertyId) (feedId : Nat) (message : JsString) :
    Session Db SyncError Unit :=
  autocommit (answers.get .record) (always fun db => recordSyncError db propertyId feedId message)

def syncCalendarFeed (collation : Collation) (urls : UrlParser) (net : Network) (answers : SyncAnswers)
    (today : Int) (propertyId : PropertyId) (feedId : Nat) : Session Db SyncError CalendarSyncResult := do
  let feed ← query (answers.get .getFeed) fun db => getActiveFeed db propertyId feedId
  setRunning answers propertyId feedId
  tryCatch (trySync collation urls net answers today propertyId feed) fun error => do
    let message := safeSyncError error
    recordError answers propertyId feedId message
    throw (.calendarSync message)

/-! ## What the statements come to -/

/-- What the call does after the fetch when every statement is answered, in one piece. -/
def endSync (collation : Collation) (today : Int) (propertyId : PropertyId) (feedId : Nat)
    (fetched : CalendarFetchResult) (db : Db) : Except SyncError (CalendarSyncResult × Db) :=
  match fetched with
  | .notModified etag lastModified =>
    .ok (⟨feedId, true, 0, 0⟩, recordNotModified db propertyId feedId etag lastModified)
  | .modified body etag lastModified => do
    let events ← (importedEvents collation body).mapError .parse
    let (blockedDateCount, db) ←
      (replaceFeedEvents db today propertyId feedId events etag lastModified).mapError .database
    return (⟨feedId, false, events.length, blockedDateCount⟩, db)

/-- The statement whose effect ends the call successfully. -/
def endStatement : CalendarFetchResult → SyncStatement
  | .notModified .. => .notModified
  | .modified .. => .commit

theorem SyncAnswers.of_get_eq_lost {answers : SyncAnswers} {st : SyncStatement} {error : SyncError}
    (h : answers.get st = .lost error) : ∃ lost, answers st = .lost lost := Answer.of_map_eq_lost h

section

variable {collation : Collation} {answers : SyncAnswers} {today : Int} {propertyId : PropertyId} {feedId : Nat}
  {events : List ImportedEvent} {etag lastModified : Option JsString} {fetched : CalendarFetchResult}
  {c : Connection Db}

theorem eventRows_nil {db : Db} : eventRows db feedId [] = .ok [] := by
  simp [eventRows, Lib.require_of]
  rfl

theorem eventRows_deleteFeedEvents {db : Db} : eventRows (deleteFeedEvents db feedId) feedId events =
    eventRows db feedId events := rfl

/-- Answered, the optional `INSERT` adds the rows of the events. -/
theorem wp_insertFeedEventsStatement {Q : Except SyncError Unit → Connection Db → Prop}
    (hok : ∀ rows, eventRows c.working feedId events = .ok rows →
      Q (.ok ()) { c with working := { c.working with calendarEvents := c.working.calendarEvents ++ rows } })
    (herror : ∀ error c', Q (.error error) c') : wp (insertFeedEventsStatement answers feedId events) Q c := by
  unfold insertFeedEventsStatement
  split
  · rename_i hempty
    cases List.isEmpty_iff.mp hempty
    have hnone := hok [] eventRows_nil
    rw [List.append_nil] at hnone
    exact wp_pure hnone
  · refine wp_statement (fun _ db hinsert => ?_) (fun _ _ error _ _ => herror error _) fun error => herror error _
    unfold insertFeedEvents at hinsert
    cases hrows : eventRows c.working feedId events with
    | error error =>
      rw [hrows] at hinsert
      cases hinsert
    | ok rows =>
      rw [hrows] at hinsert
      cases hinsert
      exact hok rows hrows

/-- When it runs to its end, the body has the result of `replaceFeedEvents` and leaves its
database. -/
theorem wp_replaceFeedEventsBody :
    wp (replaceFeedEventsBody answers today propertyId feedId events etag lastModified)
      (fun r c' => ∀ n, r = .ok n →
        replaceFeedEvents c.working today propertyId feedId events etag lastModified = .ok (n, c'.working)) c := by
  refine wp_bind (wp_statement (fun _ _ hlock => ?_) (fun _ _ _ _ _ => nofun) fun _ => nofun)
  cases hlock
  refine wp_bind (wp_statement (fun _ _ hdelete => ?_) (fun _ _ _ _ _ => nofun) fun _ => nofun)
  cases hdelete
  refine wp_bind (wp_insertFeedEventsStatement (fun rows hrows => ?_) fun _ _ => nofun)
  refine wp_bind (wp_statement (fun _ _ hblocks => ?_) (fun _ _ _ _ _ => nofun) fun _ => nofun)
  cases hblocks
  refine wp_bind (wp_statement (fun _ _ hinsert => ?_) (fun _ _ _ _ _ => nofun) fun _ => nofun)
  cases hinsert
  refine wp_bind (wp_statement (fun _ _ hupdate => ?_) (fun _ _ _ _ _ => nofun) fun _ => nofun)
  cases hupdate
  refine wp_pure fun n hn => ?_
  cases hn
  unfold replaceFeedEvents
  rw [eventRows_deleteFeedEvents] at hrows
  simp only [id] at hrows
  rw [hrows, blockedDateCount_deleteImportedBlocks, insertImportedBlocks_deleteImportedBlocks]
  rfl

theorem insertFeedEventsStatement_isolated : Isolated (insertFeedEventsStatement answers feedId events) := by
  unfold insertFeedEventsStatement
  split
  · exact .pure ()
  · exact .statement _ _

theorem replaceFeedEventsBody_isolated :
    Isolated (replaceFeedEventsBody answers today propertyId feedId events etag lastModified) := by
  refine .bind (.statement _ _) fun _ => ?_
  refine .bind (.statement _ _) fun _ => ?_
  refine .bind insertFeedEventsStatement_isolated fun _ => ?_
  refine .bind (.statement _ _) fun _ => ?_
  refine .bind (.statement _ _) fun _ => ?_
  exact .bind (.statement _ _) fun _ => .pure _

/-- The transaction commits what `replaceFeedEvents` computes, or leaves the committed
state as it was. -/
theorem wp_replaceFeedEventsStatements {Q : Except SyncError Nat → Connection Db → Prop}
    (hok : ∀ n db, replaceFeedEvents c.committed today propertyId feedId events etag lastModified = .ok (n, db) →
      Q (.ok n) (c.commitTo db))
    (hlost : ∀ n db lost, replaceFeedEvents c.committed today propertyId feedId events etag lastModified = .ok (n, db) →
      answers .commit = .lost lost → ∀ error, Q (.error error) (c.commitTo db))
    (hrolledback : ∀ error, Q (.error error) c.reset) :
    wp (replaceFeedEventsStatements answers today propertyId feedId events etag lastModified) Q c := by
  have hbody : ∀ n c', (replaceFeedEventsBody answers today propertyId feedId events etag lastModified).exec
      c.reset = (.ok n, c') →
      replaceFeedEvents c.committed today propertyId feedId events etag lastModified = .ok (n, c'.working) := by
    intro n c' hrun
    have hresult : wp (replaceFeedEventsBody answers today propertyId feedId events etag lastModified)
        (fun r c' => ∀ n, r = .ok n →
          replaceFeedEvents c.committed today propertyId feedId events etag lastModified = .ok (n, c'.working))
        c.reset := wp_replaceFeedEventsBody
    unfold wp at hresult
    rw [hrun] at hresult
    exact hresult n rfl
  refine wp_withTransaction replaceFeedEventsBody_isolated (fun n c' hrun => ?_)
    (fun n c' lost hrun hcommit error => ?_) hrolledback
  · exact hok n c'.working (hbody n c' hrun)
  · obtain ⟨lost', hlost'⟩ := SyncAnswers.of_get_eq_lost hcommit
    exact hlost n c'.working lost' (hbody n c' hrun) hlost' error

/-- What follows the fetch commits what `endSync` computes, with its answer or without, or
leaves the committed state as it was. -/
theorem wp_applyFetched {Q : Except SyncError CalendarSyncResult → Connection Db → Prop} (hidle : c.reset = c)
    (hok : ∀ result db, endSync collation today propertyId feedId fetched c.committed = .ok (result, db) →
      Q (.ok result) (c.commitTo db))
    (hlost : ∀ result db lost, endSync collation today propertyId feedId fetched c.committed = .ok (result, db) →
      answers (endStatement fetched) = .lost lost → ∀ error, Q (.error error) (c.commitTo db))
    (herror : ∀ error, Q (.error error) c) :
    wp (applyFetched collation answers today propertyId feedId fetched) Q c := by
  cases fetched with
  | notModified etag lastModified =>
    refine wp_bind (wp_autocommit (fun _ db hupdate => ?_) (fun _ db error hupdate hanswer => ?_) herror)
    · cases hupdate
      exact wp_pure (hok _ _ rfl)
    · cases hupdate
      obtain ⟨lost, hlost'⟩ := SyncAnswers.of_get_eq_lost hanswer
      exact hlost _ _ lost rfl hlost' error
  | modified body etag lastModified =>
    refine wp_bind (wp_ofExcept ?_)
    cases hevents : importedEvents collation body with
    | error error => exact herror (.parse error)
    | ok events =>
      have hend : ∀ n db, replaceFeedEvents c.committed today propertyId feedId events etag lastModified =
          .ok (n, db) → endSync collation today propertyId feedId (.modified body etag lastModified) c.committed =
            .ok (⟨feedId, false, events.length, n⟩, db) := by
        intro n db hreplaced
        simp only [endSync, hevents, Except.mapError, Lib.ok_bind, hreplaced]
        rfl
      refine wp_bind (wp_replaceFeedEventsStatements (fun n db hreplaced => ?_)
        (fun n db lost hreplaced hcommit error => ?_) fun error => ?_)
      · exact wp_pure (hok _ db (hend n db hreplaced))
      · exact hlost _ db lost (hend n db hreplaced) hcommit error
      · rw [hidle]
        exact herror error

/-! ## Calls whose statements are all answered -/

theorem wp_insertFeedEventsStatement_done {Q : Except SyncError Unit → Connection Db → Prop} {rows : List CalendarEvent}
    (hrows : eventRows c.working feedId events = .ok rows)
    (h : Q (.ok ()) { c with working := { c.working with calendarEvents := c.working.calendarEvents ++ rows } }) :
    wp (insertFeedEventsStatement .allDone feedId events) Q c := by
  unfold insertFeedEventsStatement
  split
  · rename_i hempty
    cases List.isEmpty_iff.mp hempty
    cases eventRows_nil.symm.trans hrows
    rw [List.append_nil] at h
    exact wp_pure h
  · refine wp_statement_done (a := ()) ?_ h
    unfold insertFeedEvents
    rw [hrows]
    rfl

theorem wp_replaceFeedEventsBody_done {n : Nat} {db : Db}
    (h : replaceFeedEvents c.working today propertyId feedId events etag lastModified = .ok (n, db)) :
    wp (replaceFeedEventsBody .allDone today propertyId feedId events etag lastModified)
      (fun r c' => r = .ok n ∧ c'.working = db) c := by
  unfold replaceFeedEvents at h
  obtain ⟨rows, hrows, h⟩ := Lib.bind_eq_ok.mp h
  cases h
  refine wp_bind (wp_statement_done rfl ?_)
  refine wp_bind (wp_statement_done rfl ?_)
  refine wp_bind (wp_insertFeedEventsStatement_done hrows ?_)
  refine wp_bind (wp_statement_done rfl ?_)
  refine wp_bind (wp_statement_done rfl ?_)
  refine wp_bind (wp_statement_done rfl (wp_pure ⟨?_, ?_⟩))
  · rw [blockedDateCount_deleteImportedBlocks]
    rfl
  · rw [← insertImportedBlocks_deleteImportedBlocks]
    rfl

theorem wp_replaceFeedEventsStatements_done {Q : Except SyncError Nat → Connection Db → Prop} {n : Nat} {db : Db}
    (hreplaced : replaceFeedEvents c.committed today propertyId feedId events etag lastModified = .ok (n, db))
    (h : Q (.ok n) (c.commitTo db)) :
    wp (replaceFeedEventsStatements .allDone today propertyId feedId events etag lastModified) Q c := by
  obtain ⟨hresult, hworking⟩ := wp_replaceFeedEventsBody_done (c := c.reset) hreplaced
  refine wp_withTransaction_done replaceFeedEventsBody_isolated (Prod.ext hresult rfl) ?_
  rw [hworking]
  exact h

theorem wp_applyFetched_done {Q : Except SyncError CalendarSyncResult → Connection Db → Prop}
    {result : CalendarSyncResult} {db : Db}
    (hend : endSync collation today propertyId feedId fetched c.committed = .ok (result, db))
    (h : Q (.ok result) (c.commitTo db)) :
    wp (applyFetched collation .allDone today propertyId feedId fetched) Q c := by
  cases fetched with
  | notModified etag lastModified =>
    cases hend
    exact wp_bind (wp_autocommit_done rfl (wp_pure h))
  | modified body etag lastModified =>
    obtain ⟨events, hevents, hend⟩ := Lib.bind_eq_ok.mp hend
    obtain ⟨⟨n, db'⟩, hreplaced, hend⟩ := Lib.bind_eq_ok.mp hend
    cases hend
    refine wp_bind (wp_ofExcept ?_)
    rw [hevents]
    exact wp_bind (wp_replaceFeedEventsStatements_done (Lib.mapError_eq_ok hreplaced) (wp_pure h))

/-- A call that meets no error of its own or of the database returns, and leaves what
`endSync` computes. -/
theorem wp_syncCalendarFeed_done {urls : UrlParser} {net : Network} {db db' : Db} {feed : CalendarFeed}
    {result : CalendarSyncResult} (hfeed : getActiveFeed db propertyId feedId = .ok feed)
    (hfetched : (fetchCalendar urls net feed.feedUrl (fetchOptions feed)).result = .ok fetched)
    (hend : endSync collation today propertyId feed.id fetched (markSyncRunning db propertyId feedId) =
      .ok (result, db')) :
    wp (syncCalendarFeed collation urls net .allDone today propertyId feedId)
      (fun r c' => r = .ok result ∧ c'.committed = db') (.idle db) := by
  refine wp_bind (wp_query_done hfeed ?_)
  refine wp_bind (wp_autocommit_done rfl ?_)
  refine wp_tryCatch (wp_bind (wp_ofExcept ?_))
  rw [hfetched]
  exact wp_applyFetched_done hend ⟨rfl, rfl⟩

end

end HostPlatform
