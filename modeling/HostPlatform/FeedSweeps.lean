-- SUMMARY: The sweep that synchronises the feeds that are due, those longest without a success first, statement by statement among the other calls and changes (`calendarSync.ts`).
import HostPlatform.CalendarSyncs
import HostPlatform.Lib.OldestFirst

/-!
# Sweeps of the calendar feeds

The daily job selects at most `limit` feeds and synchronises one after the other. Which
feeds it selects depends on the times of earlier synchronisations. Any number of sweeps and
single synchronisations run at once, each a statement at a time.
-/

namespace HostPlatform

open Lib (Connection JsString Table key)
open Lib.OldestFirst (pick)
open Lib.Session
open Lib.Transition

/-! ## State -/

/-- The columns of a feed that only this selection reads. -/
structure FeedTimes where
  lastSyncStartedAt : Option Int
  lastSuccessfulSyncAt : Option Int
  createdAt : Int
  deriving DecidableEq

/-- A row of the sweep's selection, or what a single synchronisation is asked for. -/
structure FeedRef where
  feedId : Nat
  propertyId : PropertyId
  deriving DecidableEq

structure SyncSweepCounts where
  attempted : Nat
  succeeded : Nat
  failed : Nat
  deriving DecidableEq

/-- A sweep's loop, or a single synchronisation. It is in the call of the first feed that is
left, once that has a phase; when none is left the counts are its result. -/
structure SyncWorker where
  sweep : Bool
  left : List FeedRef
  phase : Option SyncPhase
  counts : SyncSweepCounts
  deriving DecidableEq

/-- The database, with these columns of every feed, and those at work on it. -/
structure FeedSystem where
  db : Db
  times : Nat → FeedTimes
  workers : Nat → Option SyncWorker

/-- What the next statement of a call meets, and when it runs. -/
structure SyncMeets where
  net : Network
  answers : SyncAnswers
  today : Int
  now : Int

inductive FeedLabel where
  | startSweep (worker limit : Nat) (now : Int)
  | startSync (worker : Nat) (propertyId : PropertyId) (feedId : Nat)
  | advance (worker : Nat) (meets : SyncMeets)
  | crash (worker : Nat)
  | transaction (now : Int) (t : Tx)

def staleRunMs : Int := 20 * msPerMinute

/-- `ORDER BY last_successful_sync_at ASC NULLS FIRST, created_at ASC`: the strict part. -/
def FeedTimes.Before (a b : FeedTimes) : Prop :=
  match a.lastSuccessfulSyncAt, b.lastSuccessfulSyncAt with
  | none, some _ => True
  | some _, none => False
  | none, none => a.createdAt < b.createdAt
  | some t, some u => t < u ∨ t = u ∧ a.createdAt < b.createdAt

instance (a b : FeedTimes) : Decidable (a.Before b) := by
  unfold FeedTimes.Before
  split <;> infer_instance

/-- The calendars' statements of a call of `syncCalendarFeed`: only calls run them. -/
def Tx.ofSync : Tx → Bool
  | .replaceFeedEvents .. | .markSyncRunning .. | .recordNotModified .. | .recordSyncError .. => true
  | _ => false

/-! ## One statement of a call -/

/-- How a call stands after a statement. -/
inductive SyncOutcome where
  | goesOn (phase : SyncPhase)
  | returned
  | threw
  deriving DecidableEq

/-- The next statement of the call of a feed, and what is committed then. -/
def nextSyncStatement (collation : Collation) (urls : UrlParser) (meets : SyncMeets) (feed : FeedRef)
    (phase : Option SyncPhase) (db : Db) : SyncOutcome × Connection Db :=
  match phase with
  | none =>
    match (query (meets.answers.get .getFeed) fun db =>
      getActiveFeed db feed.propertyId feed.feedId).exec (.idle db) with
    | (.ok row, c) => (.goesOn (.read row), c)
    | (.error _, c) => (.threw, c)
  | some (.read row) =>
    match (setRunning meets.answers feed.propertyId feed.feedId).exec (.idle db) with
    | (.ok (), c) => (.goesOn (.running row), c)
    | (.error _, c) => (.threw, c)
  | some (.running row) =>
    match (fetchCalendar urls meets.net row.feedUrl (fetchOptions row)).result with
    | .ok result => (.goesOn (.fetched row result), .idle db)
    | .error error => (.goesOn (.failed (safeSyncError (.fetch error))), .idle db)
  | some (.fetched _ result) =>
    match (applyFetched collation meets.answers meets.today feed.propertyId feed.feedId result).exec (.idle db) with
    | (.ok _, c) => (.returned, c)
    | (.error error, c) => (.goesOn (.failed (safeSyncError error)), c)
  | some (.failed message) =>
    (.threw, ((recordError meets.answers feed.propertyId feed.feedId message).exec (.idle db)).2)

/-- The times such a statement writes, if it took effect. -/
def FeedTimes.after (times : FeedTimes) (now : Int) (phase : Option SyncPhase) (c : Connection Db) : FeedTimes :=
  if c.commits = 0 then times
  else match phase with
    | some (.read _) => { times with lastSyncStartedAt := some now }
    | some (.fetched ..) => { times with lastSuccessfulSyncAt := some now }
    | _ => times

/-- The loop after a statement: it goes on with the next feed when a call is over. -/
def SyncWorker.after (worker : SyncWorker) : SyncOutcome → SyncWorker
  | .goesOn phase => { worker with phase := some phase }
  | .returned =>
    { worker with
      left := worker.left.tail
      phase := none
      counts := { worker.counts with succeeded := worker.counts.succeeded + 1 } }
  | .threw =>
    { worker with
      left := worker.left.tail
      phase := none
      counts := { worker.counts with failed := worker.counts.failed + 1 } }

/-- A loop over these feeds, before its first call. -/
def SyncWorker.start (sweep : Bool) (feeds : List FeedRef) : SyncWorker := ⟨sweep, feeds, none, ⟨feeds.length, 0, 0⟩⟩

theorem SyncWorker.left_after_subset (w : SyncWorker) (outcome : SyncOutcome) : (w.after outcome).left ⊆ w.left := by
  cases outcome with
  | goesOn phase => exact List.Subset.refl _
  | returned => exact List.tail_subset _
  | threw => exact List.tail_subset _

/-! ## Steps -/

namespace FeedSystem

/-- Enabled, and not held by a run of the last 20 minutes. -/
def due (s : FeedSystem) (now : Int) (feed : CalendarFeed) : Bool :=
  feed.isActive && (decide (feed.lastSyncStatus ≠ .running)
    || (s.times feed.id).lastSyncStartedAt.any fun t => decide (t < now - staleRunMs))

def feedLe (s : FeedSystem) (a b : CalendarFeed) : Bool := !decide ((s.times b.id).Before (s.times a.id))

/-- The rows a sweep selects. -/
def dueFeeds (s : FeedSystem) (now : Int) (limit : Nat) : List FeedRef :=
  (pick s.feedLe limit (s.db.calendarFeeds.select (s.due now))).map fun feed => ⟨feed.id, feed.propertyId⟩

def setWorker (s : FeedSystem) (worker : Nat) (w : Option SyncWorker) : FeedSystem :=
  { s with workers := fun i => if i = worker then w else s.workers i }

variable (collation : Collation) (urls : UrlParser)

/-- What the call of `feed` committed, with the times it wrote. -/
def commitCall (s : FeedSystem) (feed : FeedRef) (now : Int) (phase : Option SyncPhase) (c : Connection Db) :
    FeedSystem :=
  { s with
    db := c.committed
    times := fun k => if k = feed.feedId then (s.times k).after now phase c else s.times k }

/-- Another transaction. A row it inserts has the defaults of its columns. -/
def transaction (s : FeedSystem) (now : Int) (t : Tx) : FeedSystem :=
  if t.ofSync then s
  else
    { s with
      db := t.exec s.db
      times := fun k => if s.db.calendarFeeds.find? k = none then ⟨none, none, now⟩ else s.times k }

def step (s : FeedSystem) : FeedLabel → FeedSystem
  | .startSweep worker limit now =>
    match s.workers worker with
    | none => s.setWorker worker (some (.start true (s.dueFeeds now limit)))
    | some _ => s
  | .startSync worker propertyId feedId =>
    match s.workers worker with
    | none => s.setWorker worker (some (.start false [⟨feedId, propertyId⟩]))
    | some _ => s
  | .advance worker meets =>
    match s.workers worker with
    | some w =>
      match w.left with
      | feed :: _ =>
        let (outcome, c) := nextSyncStatement collation urls meets feed w.phase s.db
        (s.commitCall feed meets.now w.phase c).setWorker worker (some (w.after outcome))
      | [] => s
    | none => s
  | .crash worker => s.setWorker worker none
  | .transaction now t => s.transaction now t

end FeedSystem

/-! ## What one statement can do -/

theorem getActiveFeed_eq_ok {db : Db} {propertyId : PropertyId} {feedId : Nat} {feed : CalendarFeed}
    (h : getActiveFeed db propertyId feedId = .ok feed) :
    db.calendarFeeds.find? feedId = some feed ∧ feed.propertyId = propertyId ∧ feed.isActive = true := by
  obtain ⟨row, hrow, h⟩ := Lib.bind_eq_ok.mp h
  obtain ⟨_, hactive, h⟩ := Lib.bind_eq_ok.mp h
  cases h
  unfold getFeed at hrow
  split at hrow
  · rename_i found hfound
    cases hrow
    obtain ⟨hfind, hproperty⟩ := Option.filter_eq_some_iff.mp hfound
    exact ⟨hfind, by simpa using hproperty, Lib.require_eq_ok.mp hactive⟩
  · cases hrow

theorem wp_autocommit_always {answer : Lib.Answer SyncError} {f : Db → Db} {c : Connection Db}
    {Q : Except SyncError Unit → Connection Db → Prop} (hdone : Q (.ok ()) (c.commitTo (f c.committed)))
    (hlost : ∀ error, Q (.error error) (c.commitTo (f c.committed))) (hrefused : ∀ error, Q (.error error) c) :
    wp (autocommit answer (always f)) Q c := by
  refine wp_autocommit (fun _ db' hupdate => ?_) (fun _ db' error hupdate _ => ?_) hrefused
  · cases hupdate
    exact hdone
  · cases hupdate
    exact hlost error

/-- The ways in which a statement of a call can end. -/
inductive Stated (collation : Collation) (today : Int) (feed : FeedRef) (db : Db) :
    Option SyncPhase → SyncOutcome × Connection Db → Prop
  | found {row : CalendarFeed} (h : getActiveFeed db feed.propertyId feed.feedId = .ok row) :
      Stated collation today feed db none (.goesOn (.read row), .idle db)
  | notFound : Stated collation today feed db none (.threw, .idle db)
  | marked {row : CalendarFeed} : Stated collation today feed db (some (.read row))
      (.goesOn (.running row), (Connection.idle db).commitTo (markSyncRunning db feed.propertyId feed.feedId))
  | markUnanswered {row : CalendarFeed} : Stated collation today feed db (some (.read row))
      (.threw, (Connection.idle db).commitTo (markSyncRunning db feed.propertyId feed.feedId))
  | markRefused {row : CalendarFeed} : Stated collation today feed db (some (.read row)) (.threw, .idle db)
  | fetched {row : CalendarFeed} (result : CalendarFetchResult) :
      Stated collation today feed db (some (.running row)) (.goesOn (.fetched row result), .idle db)
  | fetchFailed {row : CalendarFeed} (message : JsString) :
      Stated collation today feed db (some (.running row)) (.goesOn (.failed message), .idle db)
  | ended {row : CalendarFeed} {fetched : CalendarFetchResult} {result : CalendarSyncResult} {db' : Db}
      (h : endSync collation today feed.propertyId feed.feedId fetched db = .ok (result, db')) :
      Stated collation today feed db (some (.fetched row fetched)) (.returned, (Connection.idle db).commitTo db')
  | endUnanswered {row : CalendarFeed} {fetched : CalendarFetchResult} {result : CalendarSyncResult} {db' : Db}
      (message : JsString) (h : endSync collation today feed.propertyId feed.feedId fetched db = .ok (result, db')) :
      Stated collation today feed db (some (.fetched row fetched))
        (.goesOn (.failed message), (Connection.idle db).commitTo db')
  | endFailed {row : CalendarFeed} {fetched : CalendarFetchResult} (message : JsString) :
      Stated collation today feed db (some (.fetched row fetched)) (.goesOn (.failed message), .idle db)
  | recorded {message : JsString} : Stated collation today feed db (some (.failed message))
      (.threw, (Connection.idle db).commitTo (recordSyncError db feed.propertyId feed.feedId message))
  | recordRefused {message : JsString} : Stated collation today feed db (some (.failed message)) (.threw, .idle db)

theorem nextSyncStatement_stated (collation : Collation) (urls : UrlParser) (meets : SyncMeets) (feed : FeedRef)
    (phase : Option SyncPhase) (db : Db) :
    Stated collation meets.today feed db phase (nextSyncStatement collation urls meets feed phase db) := by
  cases phase with
  | none =>
    have hread : wp (query (meets.answers.get .getFeed) fun db => getActiveFeed db feed.propertyId feed.feedId)
        (fun r c => Stated collation meets.today feed db none
          (match (r, c) with
            | (.ok row, c) => (.goesOn (.read row), c)
            | (.error _, c) => (.threw, c))) (.idle db) :=
      wp_query (fun _ h => .found h) fun _ => .notFound
    exact hread
  | some phase =>
    cases phase with
    | read row =>
      have hmark : wp (setRunning meets.answers feed.propertyId feed.feedId)
          (fun r c => Stated collation meets.today feed db (some (.read row))
            (match (r, c) with
              | (.ok (), c) => (.goesOn (.running row), c)
              | (.error _, c) => (.threw, c))) (.idle db) :=
        wp_autocommit_always .marked (fun _ => .markUnanswered) fun _ => .markRefused
      exact hmark
    | running row =>
      simp only [nextSyncStatement]
      cases (fetchCalendar urls meets.net row.feedUrl (fetchOptions row)).result with
      | ok result => exact .fetched result
      | error error => exact .fetchFailed _
    | fetched row result =>
      have hend : wp (applyFetched collation meets.answers meets.today feed.propertyId feed.feedId result)
          (fun r c => Stated collation meets.today feed db (some (.fetched row result))
            (match (r, c) with
              | (.ok _, c) => (.returned, c)
              | (.error error, c) => (.goesOn (.failed (safeSyncError error)), c))) (.idle db) :=
        wp_applyFetched rfl (fun _ _ h => .ended h) (fun _ _ _ h _ _ => .endUnanswered _ h) fun _ => .endFailed _
      exact hend
    | failed message =>
      have hrecord : wp (recordError meets.answers feed.propertyId feed.feedId message)
          (fun _ c => Stated collation meets.today feed db (some (.failed message)) (.threw, c)) (.idle db) :=
        wp_autocommit_always .recorded (fun _ => .recorded) fun _ => .recordRefused
      exact hrecord

/-! ### Rows of the feeds -/

/-- What a call for the feed does to a row at most. -/
structure SyncRow (feedId : Nat) (f f' : CalendarFeed) : Prop where
  propertyId : f'.propertyId = f.propertyId
  isActive : f'.isActive = f.isActive
  others : f.id ≠ feedId → f' = f

theorem SyncRow.refl {feedId : Nat} (f : CalendarFeed) : SyncRow feedId f f := ⟨rfl, rfl, fun _ => rfl⟩

theorem updateFeed_rows {db : Db} {propertyId : PropertyId} {feedId : Nat} {set : CalendarFeed → CalendarFeed}
    (hset : ∀ f : CalendarFeed, key (set f) = key f)
    (hkept : ∀ f : CalendarFeed, (set f).propertyId = f.propertyId ∧ (set f).isActive = f.isActive) :
    Table.Rowwise (SyncRow feedId) db.calendarFeeds (updateFeed db propertyId feedId set hset).calendarFeeds := by
  refine .updateWhere .refl hset fun f _ hthis => ?_
  rw [Bool.and_eq_true, beq_iff_eq] at hthis
  exact ⟨(hkept f).1, (hkept f).2, fun hother => absurd hthis.1 hother⟩

theorem endSync_rows {collation : Collation} {today : Int} {propertyId : PropertyId} {feedId : Nat}
    {fetched : CalendarFetchResult} {db db' : Db} {result : CalendarSyncResult}
    (h : endSync collation today propertyId feedId fetched db = .ok (result, db')) :
    Table.Rowwise (SyncRow feedId) db.calendarFeeds db'.calendarFeeds := by
  cases fetched with
  | notModified etag lastModified =>
    cases h
    exact updateFeed_rows _ fun _ => ⟨rfl, rfl⟩
  | modified body etag lastModified =>
    obtain ⟨events, -, h⟩ := Lib.bind_eq_ok.mp h
    obtain ⟨⟨count, replaced⟩, hreplaced, h⟩ := Lib.bind_eq_ok.mp h
    cases h
    obtain ⟨rows, -, rfl⟩ := replaceFeedEvents_eq_ok (Lib.mapError_eq_ok hreplaced)
    exact updateFeed_rows _ fun _ => ⟨rfl, rfl⟩

theorem Stated.rows {collation : Collation} {today : Int} {feed : FeedRef} {db : Db} {phase : Option SyncPhase}
    {r : SyncOutcome × Connection Db} (h : Stated collation today feed db phase r) :
    Table.Rowwise (SyncRow feed.feedId) db.calendarFeeds r.2.committed.calendarFeeds := by
  have hsame : Table.Rowwise (SyncRow feed.feedId) db.calendarFeeds db.calendarFeeds := .refl .refl _
  cases h with
  | marked => exact updateFeed_rows _ fun _ => ⟨rfl, rfl⟩
  | markUnanswered => exact updateFeed_rows _ fun _ => ⟨rfl, rfl⟩
  | ended hend => exact endSync_rows hend
  | endUnanswered _ hend => exact endSync_rows hend
  | recorded => exact updateFeed_rows _ fun _ => ⟨rfl, rfl⟩
  | _ => exact hsame

/-! ## The counts of a sweep -/

/-- Every feed that was selected has succeeded, has failed, or is left. -/
def SyncWorker.Counted (w : SyncWorker) : Prop :=
  w.counts.attempted = w.counts.succeeded + w.counts.failed + w.left.length

theorem SyncWorker.Counted.after {w : SyncWorker} (h : w.Counted) (hleft : w.left ≠ []) (outcome : SyncOutcome) :
    (w.after outcome).Counted := by
  have hlength : w.left.tail.length + 1 = w.left.length := by
    rw [List.length_tail]
    exact Nat.sub_add_cancel (List.length_pos_iff.mpr hleft)
  unfold Counted at h ⊢
  cases outcome with
  | goesOn phase => exact h
  | returned =>
    simp only [SyncWorker.after]
    omega
  | threw =>
    simp only [SyncWorker.after]
    omega

theorem FeedSystem.counted_step {collation : Collation} {urls : UrlParser} {s : FeedSystem}
    (h : ∀ i w, s.workers i = some w → w.Counted) (l : FeedLabel) :
    ∀ i w, (s.step collation urls l).workers i = some w → w.Counted := by
  have hset : ∀ (s' : FeedSystem) worker w', (∀ i w, s'.workers i = some w → w.Counted) →
      (∀ w, w' = some w → w.Counted) → ∀ i w, (s'.setWorker worker w').workers i = some w → w.Counted := by
    intro s' worker w' hothers hthis i w hw
    simp only [setWorker] at hw
    split at hw
    · exact hthis w hw
    · exact hothers i w hw
  have hstart : ∀ sweep feeds w, some (SyncWorker.start sweep feeds) = some w → w.Counted := by
    rintro sweep feeds w ⟨⟩
    exact (Nat.zero_add _).symm
  cases l with
  | startSweep worker limit now =>
    simp only [step]
    split
    · exact hset s worker _ h (hstart _ _)
    · exact h
  | startSync worker propertyId feedId =>
    simp only [step]
    split
    · exact hset s worker _ h (hstart _ _)
    · exact h
  | advance worker meets =>
    simp only [step]
    split
    · rename_i w hworker
      split
      · rename_i feed rest hleft
        refine hset _ worker _ h fun w' heq => ?_
        cases heq
        exact (h worker w hworker).after (by rw [hleft]; nofun) _
      · exact h
    · exact h
  | crash worker => exact hset s worker none h fun _ hnone => by cases hnone
  | transaction now t =>
    simp only [step, transaction]
    split <;> exact h

/-- The counts a sweep ends with add up, in every run. -/
theorem FeedSystem.counted_run (collation : Collation) (urls : UrlParser) {s : FeedSystem}
    (h : ∀ i w, s.workers i = some w → w.Counted) (ls : List FeedLabel) :
    ∀ i w, (run (FeedSystem.step collation urls) s ls).workers i = some w → w.Counted :=
  run_invariant' (I := fun s : FeedSystem => ∀ i w, s.workers i = some w → w.Counted)
    (fun _ l h => FeedSystem.counted_step h l) h ls

/-! ## Other transactions -/

/-- What a transaction outside the calls does to the feeds. -/
theorem Tx.feeds_cases {t : Tx} (h : t.ofSync = false) (db : Db) :
    (t.exec db).calendarFeeds = db.calendarFeeds ∨
    (∃ p name feedUrl, t = .createCalendarFeed p name feedUrl ∧ ∀ k, (t.exec db).calendarFeeds.find? k =
      if k = db.calendarFeeds.freshKey then some (feedRow p name feedUrl k) else db.calendarFeeds.find? k) ∨
    (∃ today p feedId isActive, t = .setCalendarFeedActive today p feedId isActive ∧ (t.exec db).calendarFeeds =
      db.calendarFeeds.modify feedId (fun f => { f with isActive := isActive }) fun _ => rfl) ∨
    ∃ today p feedId, t = .deleteCalendarFeed today p feedId ∧ (t.exec db).calendarFeeds =
      db.calendarFeeds.deleteWhere fun f => f.id == feedId := by
  by_cases hwrites : t.writesFeeds = false
  · exact .inl (Tx.sameFeeds hwrites db).calendarFeeds
  · cases t with
    | createCalendarFeed p name feedUrl =>
      cases hrun : HostPlatform.createCalendarFeed db p name feedUrl with
      | error e =>
        left
        simp only [Tx.exec, hrun]
        rfl
      | ok db' =>
        refine .inr (.inl ⟨p, name, feedUrl, rfl, fun k => ?_⟩)
        simp only [Tx.exec, hrun]
        obtain ⟨-, -, hrun⟩ := Lib.bind_eq_ok.mp hrun
        obtain ⟨-, -, hrun⟩ := Lib.bind_eq_ok.mp hrun
        cases hrun
        refine (Table.find?_insertNew db.calendarFeeds (feedRow p name feedUrl) (fun _ => rfl) k).trans ?_
        by_cases hk : k = db.calendarFeeds.freshKey
        · rw [if_pos hk, if_pos hk, hk]
        · rw [if_neg hk, if_neg hk]
    | setCalendarFeedActive today p feedId isActive =>
      cases hrun : HostPlatform.setCalendarFeedActive db today p feedId isActive with
      | error e =>
        left
        simp only [Tx.exec, hrun]
        rfl
      | ok db' =>
        refine .inr (.inr (.inl ⟨today, p, feedId, isActive, rfl, ?_⟩))
        simp only [Tx.exec, hrun]
        rw [setCalendarFeedActive_eq_ok hrun]
        rfl
    | deleteCalendarFeed today p feedId =>
      cases hrun : HostPlatform.deleteCalendarFeed db today p feedId with
      | error e =>
        left
        simp only [Tx.exec, hrun]
        rfl
      | ok db' =>
        refine .inr (.inr (.inr ⟨today, p, feedId, rfl, ?_⟩))
        simp only [Tx.exec, hrun]
        rw [deleteCalendarFeed_eq_ok hrun]
        rfl
    | replaceFeedEvents today p feedId events etag lastModified => cases h
    | markSyncRunning p feedId => cases h
    | recordNotModified p feedId etag lastModified => cases h
    | recordSyncError p feedId message => cases h
    | _ => exact absurd rfl hwrites

end HostPlatform
