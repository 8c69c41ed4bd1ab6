-- SUMMARY: The synchronisations of one feed as a system: calls statement by statement, the provider's content, and the other transactions.
import HostPlatform.Calendar.SyncCalendarFeed
import HostPlatform.TransactionFrames

/-!
# Synchronisations of a feed

Any number of calls of `syncCalendarFeed` run on one feed, each as the statements it
executes, while the provider publishes new content and the rest of the program runs. A
statement can fail, and the answer to one that had its effect can be lost.
-/

namespace HostPlatform

open Lib (JsString js)
open Lib.JsString

/-- What the provider serves at the feed's URL. -/
structure Content where
  etag : Option JsString
  lastModified : Option JsString
  body : JsString
  deriving DecidableEq

/-- A validator of the request names this content: the etag, or without one the date. -/
def Content.Matches (c : Content) (ifNoneMatch ifModifiedSince : Option JsString) : Prop :=
  match ifNoneMatch, ifModifiedSince with
  | some etag, _ => c.etag = some etag
  | none, some lastModified => c.lastModified = some lastModified
  | none, none => False

instance (c : Content) (ifNoneMatch ifModifiedSince : Option JsString) :
    Decidable (c.Matches ifNoneMatch ifModifiedSince) := by
  unfold Content.Matches
  split <;> infer_instance

/-- The network answers for a provider that serves `c`: `304` only to a request that
matches `c`, with validators of `c` or none, and otherwise `c` itself. -/
structure Serves (net : Network) (c : Content) : Prop where
  notModified : ∀ n request response, net.respond n request = some response → response.status = 304 →
    c.Matches request.ifNoneMatch request.ifModifiedSince ∧
      (response.etag = none ∨ response.etag = c.etag) ∧
      (response.lastModified = none ∨ response.lastModified = c.lastModified)
  modified : ∀ n request response result, net.respond n request = some response →
    readResponse response = .ok result → result = .modified c.body c.etag c.lastModified

/-! ## State -/

/-- Where a call stands; `feed` is the row it read first. -/
inductive SyncPhase where
  | read (feed : CalendarFeed)
  | running (feed : CalendarFeed)
  | fetched (feed : CalendarFeed) (result : CalendarFetchResult)
  | failed (message : JsString)
  deriving DecidableEq

/-- The feed the calls are for, and the fixed parts of the runtime. -/
structure SyncSetup where
  collation : Collation
  urls : UrlParser
  propertyId : PropertyId
  feedId : Nat

/-- `served` is every content the provider has had. -/
structure SyncWorld where
  db : Db
  content : Content
  served : List Content
  calls : Nat → Option SyncPhase

inductive SyncLabel where
  | start (call : Nat)
  | markRunning (call : Nat) (answers : SyncAnswers)
  | fetch (call : Nat) (net : Network)
  | apply (call : Nat) (today : Int) (answers : SyncAnswers)
  | record (call : Nat) (answers : SyncAnswers)
  | crash (call : Nat)
  | publish (content : Content)
  | transaction (t : Tx)

/-- The statements that end a successful sync of the feed: only its calls run them. -/
def Tx.syncs (feedId : Nat) : Tx → Bool
  | .replaceFeedEvents _ _ f _ _ _ => f == feedId
  | .recordNotModified _ f _ _ => f == feedId
  | _ => false

/-! ## Steps -/

namespace SyncWorld

variable (s : SyncSetup)

def setCall (w : SyncWorld) (call : Nat) (phase : Option SyncPhase) : SyncWorld :=
  { w with calls := fun c => if c = call then phase else w.calls c }

def step (w : SyncWorld) : SyncLabel → SyncWorld
  | .start call =>
    match w.calls call, getActiveFeed w.db s.propertyId s.feedId with
    | none, .ok feed => w.setCall call (some (.read feed))
    | _, _ => w
  | .markRunning call answers =>
    match w.calls call with
    | some (.read feed) =>
      match (setRunning answers s.propertyId s.feedId).exec (.idle w.db) with
      | (.ok (), c) => { w with db := c.committed }.setCall call (some (.running feed))
      -- this statement is outside the `try`
      | (.error _, c) => { w with db := c.committed }.setCall call none
    | _ => w
  | .fetch call net =>
    match w.calls call with
    | some (.running feed) =>
      match (fetchCalendar s.urls net feed.feedUrl (fetchOptions feed)).result with
      | .ok result => w.setCall call (some (.fetched feed result))
      | .error error => w.setCall call (some (.failed (safeSyncError (.fetch error))))
    | _ => w
  | .apply call today answers =>
    match w.calls call with
    | some (.fetched _ result) =>
      match (applyFetched s.collation answers today s.propertyId s.feedId result).exec (.idle w.db) with
      | (.ok _, c) => { w with db := c.committed }.setCall call none
      | (.error error, c) => { w with db := c.committed }.setCall call (some (.failed (safeSyncError error)))
    | _ => w
  | .record call answers =>
    match w.calls call with
    | some (.failed message) =>
      { w with db := ((recordError answers s.propertyId s.feedId message).exec (.idle w.db)).2.committed }.setCall
        call none
    | _ => w
  | .crash call => w.setCall call none
  | .publish content => { w with content := content, served := content :: w.served }
  | .transaction t => if t.syncs s.feedId then w else { w with db := t.exec w.db }

/-- Only the provider changes what it serves. -/
theorem provider_step (w : SyncWorld) (l : SyncLabel) :
    ((w.step s l).content, (w.step s l).served) = match l with
      | .publish content => (content, content :: w.served)
      | _ => (w.content, w.served) := by
  cases l with
  | start call => simp only [step]; split <;> rfl
  | markRunning call answers =>
    simp only [step]
    split
    · split <;> rfl
    · rfl
  | fetch call net =>
    simp only [step]
    split
    · split <;> rfl
    · rfl
  | apply call today answers =>
    simp only [step]
    split
    · split <;> rfl
    · rfl
  | record call answers => simp only [step]; split <;> rfl
  | crash call => rfl
  | publish content => rfl
  | transaction t => simp only [step]; split <;> rfl

theorem content_step (w : SyncWorld) (l : SyncLabel) :
    (w.step s l).content = match l with
      | .publish content => content
      | _ => w.content := by
  have h := congrArg Prod.fst (w.provider_step s l)
  cases l <;> exact h

theorem served_step (w : SyncWorld) (l : SyncLabel) :
    (w.step s l).served = match l with
      | .publish content => content :: w.served
      | _ => w.served := by
  have h := congrArg Prod.snd (w.provider_step s l)
  cases l <;> exact h

end SyncWorld

/-! ## What a fetch returns -/

section

variable {urls : UrlParser} {net : Network} {options : CalendarFetchOptions}

/-- A successful round read the response to the request it sent. -/
theorem fetchRound_done {n : Nat} {url : JsString} {result : CalendarFetchResult}
    (h : (fetchRound urls net options n url).2 = .done (.ok result)) :
    ∃ request response, request.ifNoneMatch = options.etag.filter (fun t => t != []) ∧
      request.ifModifiedSince = options.lastModified.filter (fun t => t != []) ∧
      net.respond n request = some response ∧
      (response.status = 304 ∧ result = .notModified response.etag response.lastModified ∨
        readResponse response = .ok result) := by
  unfold fetchRound at h
  split at h
  · cases h
  · split at h
    · cases h
    · dsimp only at h
      split at h
      · cases h
      · rename_i safeUrl _ _ address _ _ response hresponse
        refine ⟨makeRequest options safeUrl address, response, rfl, rfl, hresponse, ?_⟩
        unfold answerRound at h
        split at h
        · rename_i hstatus
          cases h
          exact .inl ⟨hstatus, rfl⟩
        · split at h
          · split at h
            · cases h
            · split at h
              · cases h
              · split at h <;> cases h
          · cases hread : readResponse response with
            | error e => rw [hread] at h; cases h
            | ok r =>
              rw [hread] at h
              cases h
              exact .inr rfl

/-- The result of a fetch is the result of one of its rounds. -/
theorem fetchLoop_ok {rounds n : Nat} {url : JsString} {result : CalendarFetchResult}
    (h : (fetchLoop urls net options rounds n url).result = .ok result) :
    ∃ m v, (fetchRound urls net options m v).2 = .done (.ok result) := by
  induction rounds generalizing n url with
  | zero => cases h
  | succ rounds ih =>
    unfold fetchLoop at h
    split at h
    · rename_i request done hround
      exact ⟨n, url, by rw [hround]; exact congrArg RoundEnd.done h⟩
    · exact ih h

/-- A fetch from a provider that serves `c` returns `c`, or that `c` was matched. -/
inductive FetchedFrom (c : Content) (options : CalendarFetchOptions) : CalendarFetchResult → Prop
  | modified : FetchedFrom c options (.modified c.body c.etag c.lastModified)
  | notModified {etag lastModified : Option JsString}
      (hmatches : c.Matches (options.etag.filter fun t => t != [])
        (options.lastModified.filter fun t => t != []))
      (hetag : etag = none ∨ etag = c.etag)
      (hlastModified : lastModified = none ∨ lastModified = c.lastModified) :
      FetchedFrom c options (.notModified etag lastModified)

theorem fetchCalendar_from {c : Content} (hserves : Serves net c) {rawUrl : JsString}
    {result : CalendarFetchResult} (h : (fetchCalendar urls net rawUrl options).result = .ok result) :
    FetchedFrom c options result := by
  obtain ⟨n, url, hround⟩ := fetchLoop_ok h
  obtain ⟨request, response, hetag, hdate, hresponse, ⟨hstatus, rfl⟩ | hread⟩ := fetchRound_done hround
  · obtain ⟨hmatches, he, hl⟩ := hserves.notModified n request response hresponse hstatus
    rw [hetag, hdate] at hmatches
    exact .notModified hmatches he hl
  · rw [hserves.modified n request response result hresponse hread]
    exact .modified

end

end HostPlatform
