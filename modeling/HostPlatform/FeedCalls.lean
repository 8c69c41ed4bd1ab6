-- SUMMARY: The calls of one feed, seen among all sweeps and other calls: their statements are those of the synchronisations of one feed.
import HostPlatform.FeedSweeps

/-!
# The calls of one feed

The system of sweeps and the synchronisations of one feed run the same statements. What the
sweeps, the other feeds' calls and the other transactions do to the feed is, seen from its own
calls, a run of transactions.
-/

namespace HostPlatform

open Lib (Connection)
open Lib.Session
open Lib.Transition

/-! ## What a statement commits -/

/-- The transaction a statement of a call commits, if it takes effect. -/
def SyncPhase.tx (collation : Collation) (today : Int) (feed : FeedRef) : SyncPhase → Option Tx
  | .read _ => some (.markSyncRunning feed.propertyId feed.feedId)
  | .running _ => none
  | .fetched _ (.notModified etag lastModified) =>
    some (.recordNotModified feed.propertyId feed.feedId etag lastModified)
  | .fetched _ (.modified body etag lastModified) =>
    (importedEvents collation body).toOption.map fun events =>
      .replaceFeedEvents today feed.propertyId feed.feedId events etag lastModified
  | .failed message => some (.recordSyncError feed.propertyId feed.feedId message)

/-- What a statement of a call commits is one transaction, or nothing. -/
theorem Stated.committed {collation : Collation} {today : Int} {feed : FeedRef} {db : Db} {phase : Option SyncPhase}
    {r : SyncOutcome × Connection Db} (h : Stated collation today feed db phase r) :
    r.2.committed =
      ((if r.2.commits = 0 then none
        else phase.bind fun ph => ph.tx collation today feed).elim db fun t => t.exec db) := by
  have hend : ∀ {row fetched result db'}, endSync collation today feed.propertyId feed.feedId fetched db =
      .ok (result, db') →
      db' = (((some (SyncPhase.fetched row fetched)).bind fun ph =>
        ph.tx collation today feed).elim db fun t => t.exec db) := by
    intro row fetched result db' h
    cases fetched with
    | notModified etag lastModified =>
      cases h
      rfl
    | modified body etag lastModified =>
      obtain ⟨events, hevents, h⟩ := Lib.bind_eq_ok.mp h
      obtain ⟨⟨count, replaced⟩, hreplaced, h⟩ := Lib.bind_eq_ok.mp h
      cases h
      simp only [Option.bind_some, SyncPhase.tx, Lib.mapError_eq_ok hevents, Except.toOption, Option.map_some,
        Option.elim_some, Tx.exec, Lib.mapError_eq_ok hreplaced, Lib.commit]
  cases h with
  | ended h => exact hend h
  | endUnanswered _ h => exact hend h
  | _ => rfl

/-! ## The view of one feed -/

/-- The phase of the loop's call, when that is one of this feed. -/
def SyncWorker.callOf (setup : SyncSetup) (w : SyncWorker) : Option SyncPhase :=
  if w.left.head? = some ⟨setup.feedId, setup.propertyId⟩ then w.phase else none

/-- The calls of one feed, on their own. -/
def FeedSystem.callsOf (setup : SyncSetup) (content : Content) (served : List Content) (s : FeedSystem) : SyncWorld :=
  { db := s.db
    content := content
    served := served
    calls := fun i => (s.workers i).bind (SyncWorker.callOf setup) }

/-- A statement of a call of the feed, as a step of those calls. -/
def SyncMeets.callLabel (meets : SyncMeets) (call : Nat) : Option SyncPhase → Option SyncLabel
  | none => if meets.answers .getFeed = .done then some (.start call) else none
  | some (.read _) => some (.markRunning call meets.answers)
  | some (.running _) => some (.fetch call meets.net)
  | some (.fetched ..) => some (.apply call meets.today meets.answers)
  | some (.failed _) => some (.record call meets.answers)

/-- What a step is to the calls of one feed: a step of one of them, another transaction, or
nothing. -/
def FeedSystem.callLabel (setup : SyncSetup) (s : FeedSystem) : FeedLabel → Option SyncLabel
  | .advance i meets =>
    (s.workers i).bind fun w => w.left.head?.bind fun feed =>
      if feed = ⟨setup.feedId, setup.propertyId⟩ then meets.callLabel i w.phase
      else if (nextSyncStatement setup.collation setup.urls meets feed w.phase s.db).2.commits = 0 then none
      else (w.phase.bind fun ph => ph.tx setup.collation meets.today feed).map .transaction
  | .crash i => some (.crash i)
  | .transaction _ t => if t.ofSync then none else some (.transaction t)
  | _ => none

/-- The feed is synchronised as one of its property only. -/
def FeedSystem.OneProperty (setup : SyncSetup) (s : FeedSystem) : FeedLabel → Prop
  | .advance i _ => ∀ w, s.workers i = some w → ∀ feed, w.left.head? = some feed → w.phase ≠ none →
      feed.feedId = setup.feedId → feed.propertyId = setup.propertyId
  | _ => True

/-! ## Steps -/

section

variable {setup : SyncSetup} {content : Content} {served : List Content} {s : FeedSystem} {w : SyncWorker}
  {feed : FeedRef} {rest : List FeedRef}

theorem SyncWorld.setCall_self (world : SyncWorld) (call : Nat) : world.setCall call (world.calls call) = world := by
  unfold SyncWorld.setCall
  congr
  funext other
  split
  · rename_i hsame
    rw [hsame]
  · rfl

theorem FeedSystem.callsOf_commitCall (worker : Nat) (now : Int) (phase : Option SyncPhase) (c : Connection Db) :
    ((s.commitCall feed now phase c).setWorker worker (some w)).callsOf setup content served =
      SyncWorld.setCall { s.callsOf setup content served with db := c.committed } worker (w.callOf setup) := by
  unfold callsOf setWorker SyncWorld.setCall
  congr
  funext other
  dsimp only
  split
  · rfl
  · rfl

/-- Whoever starts, is in no call yet. -/
theorem FeedSystem.callsOf_start {worker : Nat} (hnone : s.workers worker = none) (sweep : Bool)
    (feeds : List FeedRef) :
    (s.setWorker worker (some (.start sweep feeds))).callsOf setup content served = s.callsOf setup content served := by
  unfold callsOf setWorker
  congr
  funext other
  dsimp only
  split
  · rename_i hsame
    rw [hsame, hnone]
    show SyncWorker.callOf setup _ = none
    unfold SyncWorker.callOf
    split <;> rfl
  · rfl

theorem SyncWorker.callOf_returned (setup : SyncSetup) (w : SyncWorker) :
    (w.after .returned).callOf setup = none := by
  unfold callOf
  split
  · rfl
  · rfl

theorem SyncWorker.callOf_threw (setup : SyncSetup) (w : SyncWorker) :
    (w.after .threw).callOf setup = none := by
  unfold callOf
  split
  · rfl
  · rfl

theorem SyncWorker.callOf_goesOn (hleft : w.left = ⟨setup.feedId, setup.propertyId⟩ :: rest) (phase : SyncPhase) :
    (w.after (.goesOn phase)).callOf setup = some phase := by
  unfold callOf
  exact if_pos (by rw [after, hleft]; rfl)

/-- The first statement of a call. -/
theorem nextSyncStatement_none (collation : Collation) (urls : UrlParser) (meets : SyncMeets) (feed : FeedRef)
    (db : Db) :
    nextSyncStatement collation urls meets feed none db =
      (match meets.answers .getFeed, getActiveFeed db feed.propertyId feed.feedId with
        | .done, .ok row => .goesOn (.read row)
        | _, _ => .threw, .idle db) := by
  have hworking : (Connection.idle db).working = db := rfl
  simp only [nextSyncStatement, exec_query, SyncAnswers.get, hworking]
  cases meets.answers .getFeed with
  | done => cases getActiveFeed db feed.propertyId feed.feedId <;> rfl
  | refused error => cases getActiveFeed db feed.propertyId feed.feedId <;> rfl
  | lost error => cases getActiveFeed db feed.propertyId feed.feedId <;> rfl

/-- A statement of a call of the feed is that statement of the call alone. -/
theorem FeedSystem.callsOf_own {worker : Nat} {meets : SyncMeets} (hworker : s.workers worker = some w)
    (hleft : w.left = ⟨setup.feedId, setup.propertyId⟩ :: rest) :
    (s.step setup.collation setup.urls (.advance worker meets)).callsOf setup content served =
      (meets.callLabel worker w.phase).elim (s.callsOf setup content served)
        (SyncWorld.step setup (s.callsOf setup content served)) := by
  have hcall : (s.callsOf setup content served).calls worker = w.phase := by
    show (s.workers worker).bind _ = _
    rw [hworker]
    exact if_pos (by rw [hleft]; rfl)
  have hdb : (s.callsOf setup content served).db = s.db := rfl
  have hreturned := w.callOf_returned setup
  have hthrew := w.callOf_threw setup
  have hgoesOn := w.callOf_goesOn hleft
  simp only [step, hworker, hleft, callsOf_commitCall]
  cases hphase : w.phase with
  | none =>
    rw [hphase] at hcall
    -- a call that reads no feed is over, and leaves nothing behind
    have hsame := (s.callsOf setup content served).setCall_self worker
    rw [hcall] at hsame
    rw [nextSyncStatement_none, SyncMeets.callLabel]
    cases hanswer : meets.answers .getFeed with
    | done =>
      simp only [if_true, Option.elim_some, SyncWorld.step, hcall, hdb]
      cases getActiveFeed s.db setup.propertyId setup.feedId with
      | error error =>
        rw [hthrew]
        exact hsame
      | ok row =>
        rw [hgoesOn]
        rfl
    | refused error =>
      simp only [hthrew]
      exact hsame
    | lost error =>
      simp only [hthrew]
      exact hsame
  | some phase =>
    rw [hphase] at hcall
    cases phase with
    | read row =>
      simp only [nextSyncStatement, SyncMeets.callLabel, Option.elim_some, SyncWorld.step, hcall, hdb]
      rcases (setRunning meets.answers setup.propertyId setup.feedId).exec (.idle s.db) with ⟨_ | _, c⟩
      · rw [hthrew]
      · rw [hgoesOn]
    | running row =>
      simp only [nextSyncStatement, SyncMeets.callLabel, Option.elim_some, SyncWorld.step, hcall]
      cases (fetchCalendar setup.urls meets.net row.feedUrl (fetchOptions row)).result with
      | error error =>
        rw [hgoesOn]
        rfl
      | ok result =>
        rw [hgoesOn]
        rfl
    | fetched row result =>
      simp only [nextSyncStatement, SyncMeets.callLabel, Option.elim_some, SyncWorld.step, hcall, hdb]
      rcases (applyFetched setup.collation meets.answers meets.today setup.propertyId setup.feedId result).exec
        (.idle s.db) with ⟨_ | _, c⟩
      · rw [hgoesOn]
      · rw [hreturned]
    | failed message =>
      simp only [nextSyncStatement, SyncMeets.callLabel, Option.elim_some, SyncWorld.step, hcall, hdb]
      rw [hthrew]

/-- The transactions of other feeds' calls leave this feed alone. -/
theorem SyncPhase.syncs_tx (setup : SyncSetup) {collation : Collation} {today : Int} {phase : SyncPhase} {t : Tx}
    (h : phase.tx collation today feed = some t) (hother : feed.feedId ≠ setup.feedId) :
    t.syncs setup.feedId = false := by
  cases phase with
  | read row =>
    cases h
    rfl
  | running row => cases h
  | fetched row result =>
    cases result with
    | notModified etag lastModified =>
      cases h
      exact beq_eq_false_iff_ne.mpr hother
    | modified body etag lastModified =>
      obtain ⟨events, -, rfl⟩ := Option.map_eq_some_iff.mp h
      exact beq_eq_false_iff_ne.mpr hother
  | failed message =>
    cases h
    rfl

theorem SyncWorker.callOf_others (hleft : w.left = feed :: rest) (hother : feed ≠ ⟨setup.feedId, setup.propertyId⟩)
    (outcome : SyncOutcome) : (w.after outcome).callOf setup = none := by
  cases outcome with
  | goesOn phase =>
    unfold callOf
    refine if_neg fun hhead => hother ?_
    rw [after, hleft] at hhead
    exact Option.some.inj hhead
  | returned => exact w.callOf_returned setup
  | threw => exact w.callOf_threw setup

/-- A statement of another feed's call commits a transaction, or nothing. -/
theorem FeedSystem.callsOf_others {worker : Nat} {meets : SyncMeets} (hworker : s.workers worker = some w)
    (hleft : w.left = feed :: rest) (hother : feed ≠ ⟨setup.feedId, setup.propertyId⟩)
    (hone : w.phase ≠ none → feed.feedId ≠ setup.feedId) :
    (s.step setup.collation setup.urls (.advance worker meets)).callsOf setup content served =
      (s.callLabel setup (.advance worker meets)).elim (s.callsOf setup content served)
        (SyncWorld.step setup (s.callsOf setup content served)) := by
  have hcall : (s.callsOf setup content served).calls worker = none := by
    show (s.workers worker).bind _ = _
    rw [hworker]
    exact if_neg fun hhead => hother (Option.some.inj (by rw [← hhead, hleft]; rfl))
  have hsame := (s.callsOf setup content served).setCall_self worker
  rw [hcall] at hsame
  have hstated := nextSyncStatement_stated setup.collation setup.urls meets feed w.phase s.db
  have hstep : (s.step setup.collation setup.urls (.advance worker meets)).callsOf setup content served =
      { s.callsOf setup content served with
        db := (nextSyncStatement setup.collation setup.urls meets feed w.phase s.db).2.committed } := by
    simp only [step, hworker, hleft, callsOf_commitCall, SyncWorker.callOf_others hleft hother]
    exact congrArg (fun world : SyncWorld => { world with
      db := (nextSyncStatement setup.collation setup.urls meets feed w.phase s.db).2.committed }) hsame
  rw [hstep, hstated.committed]
  simp only [callLabel, hworker, hleft, Option.bind_some, List.head?_cons, if_neg hother]
  split
  · rfl
  · cases htx : w.phase.bind fun ph => ph.tx setup.collation meets.today feed with
    | none => rfl
    | some t =>
      obtain ⟨phase, hphase, ht⟩ := Option.bind_eq_some_iff.mp htx
      have hsyncs := SyncPhase.syncs_tx setup ht (hone (hphase ▸ Option.some_ne_none phase))
      simp only [Option.map_some, Option.elim_some, SyncWorld.step, hsyncs]
      rfl

/-- A step of sweeps and other calls is at most one step of the calls of one feed. -/
theorem FeedSystem.callsOf_step (l : FeedLabel) (hone : s.OneProperty setup l) :
    (s.step setup.collation setup.urls l).callsOf setup content served =
      (s.callLabel setup l).elim (s.callsOf setup content served)
        (SyncWorld.step setup (s.callsOf setup content served)) := by
  cases l with
  | startSweep worker limit now =>
    simp only [step, callLabel]
    split
    · rename_i hnone
      exact callsOf_start hnone _ _
    · rfl
  | startSync worker propertyId feedId =>
    simp only [step, callLabel]
    split
    · rename_i hnone
      exact callsOf_start hnone _ _
    · rfl
  | advance worker meets =>
    cases hworker : s.workers worker with
    | none =>
      simp only [step, callLabel, hworker]
      rfl
    | some w =>
      cases hleft : w.left with
      | nil =>
        simp only [step, callLabel, hworker, hleft, Option.bind_some, List.head?_nil, Option.bind_none]
        rfl
      | cons feed rest =>
        by_cases hthis : feed = ⟨setup.feedId, setup.propertyId⟩
        · subst hthis
          rw [callsOf_own hworker hleft]
          simp only [callLabel, hworker, hleft, Option.bind_some, List.head?_cons, if_true]
        · refine callsOf_others hworker hleft hthis fun hphase hid => hthis ?_
          have hproperty := hone w hworker feed (by rw [hleft]; rfl) hphase hid
          rw [← hid, ← hproperty]
  | crash worker =>
    unfold step callsOf setWorker
    show _ = SyncWorld.setCall _ worker none
    unfold SyncWorld.setCall
    congr
    funext other
    dsimp only
    split <;> rfl
  | transaction now t =>
    simp only [step, transaction, callLabel]
    split
    · rfl
    · rename_i hsync
      have hsyncs : t.syncs setup.feedId = false := by
        cases t with
        | replaceFeedEvents today p f events etag lastModified => exact absurd rfl hsync
        | recordNotModified p f etag lastModified => exact absurd rfl hsync
        | _ => rfl
      simp only [Option.elim_some, SyncWorld.step, hsyncs]
      rfl

/-- Every run of sweeps and other calls is, for the calls of one feed, a run of these alone. -/
theorem FeedSystem.callsOf_run {as : List FeedLabel}
    (hone : Guarded (FeedSystem.step setup.collation setup.urls) (FeedSystem.OneProperty setup) s as) :
    ∃ ls, (run (FeedSystem.step setup.collation setup.urls) s as).callsOf setup content served =
      run (SyncWorld.step setup) (s.callsOf setup content served) ls :=
  ⟨_, run_projects (FeedSystem.callsOf setup content served) (fun _ l h => FeedSystem.callsOf_step l h) hone⟩

end

end HostPlatform
