-- SUMMARY: Stored cache validators belong to the stored events unless a `304` is recorded on a feed another sync has rewritten.
import HostPlatform.FeedCalls
import HostPlatform.Lib.Transition

/-!
# Cache validators

`replaceFeedEvents` stores events and validators of one response together. The `304`
update stores validators only, of a response to the validators the call read first;
it keeps the two together as long as the row still has those.
-/

namespace HostPlatform

open Lib (Answer JsString Table js)
open Lib.JsString
open Lib.Session (autocommit wp wp_autocommit)
open Lib.Transition

/-! ## What is claimed -/

/-- The stored events of the feed, in the order they were inserted. -/
def Db.storedEvents (db : Db) (feedId : Nat) : List CalendarEvent :=
  db.calendarEvents.filter fun event => event.feedId == feedId

/-- The rows a body is stored as, when it is stored. -/
def feedRows (collation : Collation) (feedId : Nat) (body : JsString) : Option (List CalendarEvent) :=
  match importedEvents collation body with
  | .error _ => none
  | .ok events => (events.mapM (eventRow feedId)).toOption

/-- The validators of the feed, where they are not null, and the stored events are those
of `c`. -/
structure Holds (collation : Collation) (events : List CalendarEvent) (feed : CalendarFeed)
    (c : Content) : Prop where
  etag : ∀ etag, feed.remoteEtag = some etag → c.etag = some etag
  lastModified : ∀ date, feed.remoteLastModified = some date → c.lastModified = some date
  events : feedRows collation feed.id c.body = some events

/-- Stored validators are those of a content that was served and whose events are stored. -/
def SyncWorld.ValidatorsMatch (s : SyncSetup) (w : SyncWorld) : Prop :=
  ∀ feed, w.db.calendarFeeds.find? s.feedId = some feed →
    feed.remoteEtag ≠ none ∨ feed.remoteLastModified ≠ none →
      ∃ c ∈ w.served, Holds s.collation (w.db.storedEvents s.feedId) feed c

/-! ## The provider -/

/-- Contents that share a validator have one body. -/
def Content.Compatible (c c' : Content) : Prop :=
  (∀ etag, c.etag = some etag → c'.etag = some etag → c.body = c'.body) ∧
    ∀ date, c.lastModified = some date → c'.lastModified = some date → c.body = c'.body

theorem Content.Compatible.symm {c c' : Content} (h : c.Compatible c') : c'.Compatible c :=
  ⟨fun etag h1 h2 => (h.1 etag h2 h1).symm, fun date h1 h2 => (h.2 date h2 h1).symm⟩

/-- What is assumed of the provider: it answers for what it serves, and a validator
names one body for good. -/
def ProviderHonest (w : SyncWorld) : SyncLabel → Prop
  | .fetch _ net => Serves net w.content
  | .publish content => ∀ c ∈ w.served, content.Compatible c
  | _ => True

/-- A `304` that carries a validator is recorded on the row as the call read it. -/
def RecordedUnchanged (s : SyncSetup) (w : SyncWorld) : SyncLabel → Prop
  | .apply call _ _ => ∀ feed etag lastModified,
      w.calls call = some (.fetched feed (.notModified etag lastModified)) →
      etag ≠ none ∨ lastModified ≠ none →
      ∀ row, w.db.calendarFeeds.find? s.feedId = some row →
        row.remoteEtag = feed.remoteEtag ∧ row.remoteLastModified = feed.remoteLastModified
  | _ => True

/-! ## Rows of the feed -/

section

variable {db db' : Db} {feedId : Nat}

/-- The feed, if it is still there, has the property, the validators and the events it
had; or it is a new one without validators. -/
def Db.FeedKept (feedId : Nat) (db db' : Db) : Prop :=
  ∀ feed', db'.calendarFeeds.find? feedId = some feed' →
    (feed'.remoteEtag = none ∧ feed'.remoteLastModified = none) ∨
      ∃ feed, db.calendarFeeds.find? feedId = some feed ∧ feed'.propertyId = feed.propertyId ∧
        feed'.remoteEtag = feed.remoteEtag ∧ feed'.remoteLastModified = feed.remoteLastModified ∧
        db'.storedEvents feedId = db.storedEvents feedId

theorem Db.FeedKept.of_same (hfeeds : db'.calendarFeeds = db.calendarFeeds)
    (hevents : db'.calendarEvents = db.calendarEvents) : db.FeedKept feedId db' := by
  intro feed hfeed
  rw [hfeeds] at hfeed
  refine .inr ⟨feed, hfeed, rfl, rfl, rfl, ?_⟩
  unfold Db.storedEvents
  rw [hevents]

/-- A row of the feed after an update of some feed's row. -/
theorem find?_updateFeed {propertyId : PropertyId} {other : Nat} {set : CalendarFeed → CalendarFeed}
    {hset : ∀ f : CalendarFeed, Lib.key (set f) = Lib.key f} {feed' : CalendarFeed}
    (h : (updateFeed db propertyId other set hset).calendarFeeds.find? feedId = some feed') :
    ∃ feed, db.calendarFeeds.find? feedId = some feed ∧
      (feed' = feed ∧ ¬ (feed.id = other ∧ feed.propertyId = propertyId) ∨
        feed.id = other ∧ feed.propertyId = propertyId ∧ feed' = set feed) := by
  unfold updateFeed at h
  rw [Table.find?_updateWhere] at h
  obtain ⟨feed, hfeed, rfl⟩ := Option.map_eq_some_iff.mp h
  refine ⟨feed, hfeed, ?_⟩
  split
  · rename_i hthis
    rw [Bool.and_eq_true, beq_iff_eq, beq_iff_eq] at hthis
    exact .inr ⟨hthis.1, hthis.2, rfl⟩
  · rename_i hother
    rw [Bool.and_eq_true, beq_iff_eq, beq_iff_eq] at hother
    exact .inl ⟨rfl, hother⟩

/-- Writing columns other than the validators. -/
theorem Db.FeedKept.updateFeed {propertyId : PropertyId} {other : Nat}
    {set : CalendarFeed → CalendarFeed} {hset : ∀ f : CalendarFeed, Lib.key (set f) = Lib.key f}
    (h : ∀ f : CalendarFeed, f.id = feedId → f.id = other → (set f).propertyId = f.propertyId ∧
      (set f).remoteEtag = f.remoteEtag ∧ (set f).remoteLastModified = f.remoteLastModified) :
    db.FeedKept feedId (updateFeed db propertyId other set hset) := by
  intro feed' hfeed'
  obtain ⟨feed, hfeed, ⟨rfl, -⟩ | ⟨hid, -, rfl⟩⟩ := find?_updateFeed hfeed'
  · exact .inr ⟨feed', hfeed, rfl, rfl, rfl, rfl⟩
  · have hkey : feed.id = feedId := Table.key_of_find? hfeed
    obtain ⟨hproperty, hetag, hdate⟩ := h feed hkey hid
    exact .inr ⟨feed, hfeed, hproperty, hetag, hdate, rfl⟩

theorem markSyncRunning_feedKept (db : Db) (propertyId : PropertyId) (other : Nat) :
    db.FeedKept feedId (markSyncRunning db propertyId other) :=
  .updateFeed fun _ _ _ => ⟨rfl, rfl, rfl⟩

theorem recordSyncError_feedKept (db : Db) (propertyId : PropertyId) (other : Nat) (message : JsString) :
    db.FeedKept feedId (recordSyncError db propertyId other message) :=
  .updateFeed fun _ _ _ => ⟨rfl, rfl, rfl⟩

theorem Db.FeedKept.trans {db'' : Db} (h : db.FeedKept feedId db') (h' : db'.FeedKept feedId db'') :
    db.FeedKept feedId db'' := by
  intro feed'' hfeed''
  rcases h' feed'' hfeed'' with hnone | ⟨feed', hfeed', hproperty', hetag', hdate', hevents'⟩
  · exact .inl hnone
  · rcases h feed' hfeed' with ⟨hetag, hdate⟩ | ⟨feed, hfeed, hproperty, hetag, hdate, hevents⟩
    · exact .inl ⟨hetag'.trans hetag, hdate'.trans hdate⟩
    · exact .inr ⟨feed, hfeed, hproperty'.trans hproperty, hetag'.trans hetag, hdate'.trans hdate,
        hevents'.trans hevents⟩

/-- Deleting the events of another feed. -/
theorem filter_others {events : List CalendarEvent} {other : Nat} (hne : feedId ≠ other) :
    (events.filter fun e => e.feedId != other).filter (fun e => e.feedId == feedId) =
      events.filter fun e => e.feedId == feedId := by
  rw [List.filter_filter]
  refine List.filter_congr fun e _ => ?_
  by_cases he : e.feedId = feedId
  · simp [he, hne]
  · simp [he]

/-- Replacing the events of another feed. -/
theorem filter_replaced_others {events rows : List CalendarEvent} {other : Nat} (hne : feedId ≠ other)
    (hrows : ∀ row ∈ rows, row.feedId = other) :
    ((events.filter fun e => e.feedId != other) ++ rows).filter (fun e => e.feedId == feedId) =
      events.filter fun e => e.feedId == feedId := by
  have hnew : rows.filter (fun e => e.feedId == feedId) = [] := by
    refine List.filter_eq_nil_iff.mpr fun row hrow he => hne ?_
    rw [← beq_iff_eq.mp he]
    exact hrows row hrow
  rw [List.filter_append, filter_others hne, hnew, List.append_nil]

/-- Replacing the events of the feed. -/
theorem filter_replaced {events rows : List CalendarEvent} (hrows : ∀ row ∈ rows, row.feedId = feedId) :
    ((events.filter fun e => e.feedId != feedId) ++ rows).filter (fun e => e.feedId == feedId) = rows := by
  have hold : (events.filter fun e => e.feedId != feedId).filter (fun e => e.feedId == feedId) = [] := by
    refine List.filter_eq_nil_iff.mpr fun e he hthis => ?_
    have hother := (List.mem_filter.mp he).2
    rw [bne, hthis] at hother
    cases hother
  have hnew : rows.filter (fun e => e.feedId == feedId) = rows :=
    List.filter_eq_self.mpr fun row hrow => beq_iff_eq.mpr (hrows row hrow)
  rw [List.filter_append, hold, hnew, List.nil_append]

/-- What any other transaction does to the feed. -/
theorem Tx.feedKept {t : Tx} (h : t.syncs feedId = false) (db : Db) : db.FeedKept feedId (t.exec db) := by
  have hsame : db.FeedKept feedId db := .of_same rfl rfl
  by_cases hwrites : t.writesFeeds = false
  · have hfeeds := Tx.sameFeeds hwrites db
    exact .of_same hfeeds.calendarFeeds hfeeds.calendarEvents
  cases t with
  | createCalendarFeed p name feedUrl =>
    refine commitFeeds_of hsame fun db' hok => ?_
    obtain ⟨-, -, hok⟩ := Lib.bind_eq_ok.mp hok
    obtain ⟨-, -, hok⟩ := Lib.bind_eq_ok.mp hok
    cases hok
    intro feed' hfeed'
    have hfind := Table.find?_insertNew db.calendarFeeds (feedRow p name feedUrl) (fun _ => rfl) feedId
    replace hfeed' := hfind.symm.trans hfeed'
    split at hfeed'
    · cases hfeed'
      exact .inl ⟨rfl, rfl⟩
    · exact .inr ⟨feed', hfeed', rfl, rfl, rfl, rfl⟩
  | setCalendarFeedActive today p other isActive =>
    refine commitFeeds_of hsame fun db' hok => ?_
    rw [setCalendarFeedActive_eq_ok hok]
    intro feed' hfeed'
    simp only [reconcileCalendarAvailability, Table.find?_modify] at hfeed'
    split at hfeed'
    · rename_i hother
      obtain ⟨feed, hfeed, rfl⟩ := Option.map_eq_some_iff.mp hfeed'
      exact .inr ⟨feed, hother ▸ hfeed, rfl, rfl, rfl, rfl⟩
    · exact .inr ⟨feed', hfeed', rfl, rfl, rfl, rfl⟩
  | deleteCalendarFeed today p other =>
    refine commitFeeds_of hsame fun db' hok => ?_
    rw [deleteCalendarFeed_eq_ok hok]
    intro feed' hfeed'
    obtain ⟨hfeed, hkept⟩ := Table.find?_deleteWhere_eq_some.mp hfeed'
    have hid : feed'.id = feedId := Table.key_of_find? hfeed
    refine .inr ⟨feed', hfeed, rfl, rfl, rfl, filter_others ?_⟩
    rintro rfl
    rw [hid, beq_self_eq_true] at hkept
    cases hkept
  | replaceFeedEvents today p other events etag lastModified =>
    have hne : other ≠ feedId := fun heq => by
      rw [Tx.syncs, heq, beq_self_eq_true] at h
      cases h
    refine Lib.commit_of hsame fun count db' hok => ?_
    obtain ⟨rows, hrows, rfl⟩ := replaceFeedEvents_eq_ok hok
    have hfilter := @filter_replaced_others feedId db.calendarEvents rows other hne.symm
      (eventRows_feedId (eventRows_eq_ok hrows))
    have hreplaced : db.FeedKept feedId (reconcileCalendarAvailability
        { db with calendarEvents := (db.calendarEvents.filter fun e => e.feedId != other) ++ rows }
        p today) := fun feed' hfeed' => .inr ⟨feed', hfeed', rfl, rfl, rfl, hfilter⟩
    exact hreplaced.trans (.updateFeed fun f hf hother => absurd (hother.symm.trans hf) hne)
  | markSyncRunning p other => exact markSyncRunning_feedKept db p other
  | recordNotModified p other etag lastModified =>
    refine .updateFeed fun f hf hother => ?_
    rw [Tx.syncs, ← hother, hf, beq_self_eq_true] at h
    cases h
  | recordSyncError p other message => exact recordSyncError_feedKept db p other message
  | _ => exact absurd rfl hwrites

end

/-! ## The invariant -/

/-- Validators match; a row of another property has none; and every result a call holds
came from a content that was served. -/
structure SyncInv (s : SyncSetup) (w : SyncWorld) : Prop where
  validators : w.ValidatorsMatch s
  owned : ∀ feed, w.db.calendarFeeds.find? s.feedId = some feed → feed.propertyId = s.propertyId ∨
    feed.remoteEtag = none ∧ feed.remoteLastModified = none
  current : w.content ∈ w.served
  compatible : ∀ c ∈ w.served, ∀ c' ∈ w.served, c.Compatible c'
  fetched : ∀ call feed result, w.calls call = some (.fetched feed result) →
    ∃ c ∈ w.served, FetchedFrom c (fetchOptions feed) result

section

variable {s : SyncSetup} {w : SyncWorld} {db' : Db}

theorem SyncInv.setCall (h : SyncInv s w) {call : Nat} {phase : Option SyncPhase}
    (hphase : ∀ feed result, phase = some (.fetched feed result) →
      ∃ c ∈ w.served, FetchedFrom c (fetchOptions feed) result) : SyncInv s (w.setCall call phase) := by
  refine ⟨h.validators, h.owned, h.current, h.compatible, fun other feed result hother => ?_⟩
  simp only [SyncWorld.setCall] at hother
  split at hother
  · exact hphase feed result hother
  · exact h.fetched other feed result hother

theorem SyncInv.endCall (h : SyncInv s w) {call : Nat} : SyncInv s (w.setCall call none) :=
  h.setCall fun feed result heq => by cases heq

theorem SyncInv.setPhase (h : SyncInv s w) {call : Nat} {phase : SyncPhase}
    (hphase : ∀ feed result, phase ≠ .fetched feed result) : SyncInv s (w.setCall call (some phase)) :=
  h.setCall fun feed result heq => absurd (Option.some.inj heq) (hphase feed result)

theorem SyncInv.of_feedKept (h : SyncInv s w) (hkept : w.db.FeedKept s.feedId db') :
    SyncInv s { w with db := db' } := by
  refine ⟨fun feed' hfeed' hsome => ?_, fun feed' hfeed' => ?_, h.current, h.compatible, h.fetched⟩
  · rcases hkept feed' hfeed' with ⟨hetag, hdate⟩ | ⟨feed, hfeed, -, hetag, hdate, hevents⟩
    · rw [hetag, hdate] at hsome
      exact absurd hsome (by simp)
    · rw [hetag, hdate] at hsome
      obtain ⟨c, hc, hholds⟩ := h.validators feed hfeed hsome
      have hid : feed'.id = feed.id := (Table.key_of_find? hfeed').trans (Table.key_of_find? hfeed).symm
      refine ⟨c, hc, fun etag he => hholds.etag etag (hetag ▸ he),
        fun date hd => hholds.lastModified date (hdate ▸ hd), ?_⟩
      rw [hid, hholds.events, hevents]
  · rcases hkept feed' hfeed' with hnone | ⟨feed, hfeed, hproperty, hetag, hdate, -⟩
    · exact .inr hnone
    · rw [hproperty, hetag, hdate]
      exact h.owned feed hfeed

/-- The row a `304` leaves, on a row that still has what the call sent, belongs to the
content it belonged to or to the content that was matched. -/
theorem Holds.notModified {collation : Collation} {events : List CalendarEvent} {feed row : CalendarFeed}
    {c matched : Content} {etag lastModified : Option JsString} (h : Holds collation events row c)
    (hcompatible : matched.Compatible c)
    (hfrom : FetchedFrom matched (fetchOptions feed) (.notModified etag lastModified))
    (hetag : row.remoteEtag = feed.remoteEtag) (hdate : row.remoteLastModified = feed.remoteLastModified)
    {row' : CalendarFeed} (hid : row'.id = row.id) (hetag' : row'.remoteEtag = etag.or row.remoteEtag)
    (hdate' : row'.remoteLastModified = lastModified.or row.remoteLastModified) :
    Holds collation events row' c ∨ Holds collation events row' matched := by
  cases hfrom with
  | notModified hmatches he hl =>
    have of_matched : ∀ e l, row'.remoteEtag = e → row'.remoteLastModified = l →
        (∀ x, e = some x → matched.etag = some x) → (∀ y, l = some y → matched.lastModified = some y) →
        matched.body = c.body → Holds collation events row' matched := by
      rintro e l rfl rfl hx hy hbody
      exact ⟨hx, hy, by rw [hbody, hid]; exact h.events⟩
    have of_old : row'.remoteEtag = row.remoteEtag → row'.remoteLastModified = row.remoteLastModified →
        Holds collation events row' c := by
      intro hx hy
      exact ⟨by rw [hx]; exact h.etag, by rw [hy]; exact h.lastModified, by rw [hid]; exact h.events⟩
    simp only [fetchOptions, ← hetag, ← hdate] at hmatches
    cases hsent : row.remoteEtag.filter fun t => t != [] with
    | some x =>
      -- the etag was sent, and it is the etag of both contents
      rw [hsent] at hmatches
      have hx : row.remoteEtag = some x := (Option.filter_eq_some_iff.mp hsent).1
      have hmatched : matched.etag = some x := hmatches
      have hbody := hcompatible.1 x hmatched (h.etag x hx)
      have hkept : row'.remoteEtag = some x := by
        rw [hetag', hx]
        rcases he with rfl | rfl
        · rfl
        · rw [hmatched]
          rfl
      cases lastModified with
      | none => exact .inl (of_old (hkept.trans hx.symm) hdate')
      | some y =>
        refine .inr (of_matched _ _ hkept hdate' (fun x' hx' => hmatched.trans hx') ?_ hbody)
        intro y' hy'
        rcases hl with hl | hl
        · cases hl
        · rw [← hl]
          exact hy'
    | none =>
      rw [hsent] at hmatches
      cases hdated : row.remoteLastModified.filter fun t => t != [] with
      | none =>
        rw [hdated] at hmatches
        exact hmatches.elim
      | some y =>
        -- only the date was sent, and it is the date of both contents
        rw [hdated] at hmatches
        have hy : row.remoteLastModified = some y := (Option.filter_eq_some_iff.mp hdated).1
        have hmatched : matched.lastModified = some y := hmatches
        have hbody := hcompatible.2 y hmatched (h.lastModified y hy)
        have hkept : row'.remoteLastModified = some y := by
          rw [hdate', hy]
          rcases hl with rfl | rfl
          · rfl
          · rw [hmatched]
            rfl
        cases etag with
        | none => exact .inl (of_old hetag' (hkept.trans hy.symm))
        | some x =>
          refine .inr (of_matched _ _ hetag' hkept ?_ (fun y' hy' => hmatched.trans hy') hbody)
          intro x' hx'
          rcases he with he | he
          · cases he
          · rw [← he]
            exact hx'

/-- A `304` is only an answer to a validator. -/
theorem hasValidator_of_from {feed row : CalendarFeed} {c : Content}
    {etag lastModified : Option JsString}
    (hfrom : FetchedFrom c (fetchOptions feed) (.notModified etag lastModified))
    (hetag : row.remoteEtag = feed.remoteEtag) (hdate : row.remoteLastModified = feed.remoteLastModified) :
    row.remoteEtag ≠ none ∨ row.remoteLastModified ≠ none := by
  cases hfrom with
  | notModified hmatches he hl =>
    rw [hetag, hdate]
    by_contra hnone
    push Not at hnone
    simp only [fetchOptions, hnone.1, hnone.2, Option.filter_none] at hmatches
    exact hmatches

/-- A `304` update keeps the invariant when the row still has what the call read. -/
theorem SyncInv.recordNotModified (h : SyncInv s w) {feed : CalendarFeed} {c : Content}
    {etag lastModified : Option JsString} (hc : c ∈ w.served)
    (hfrom : FetchedFrom c (fetchOptions feed) (.notModified etag lastModified))
    (hunchanged : etag ≠ none ∨ lastModified ≠ none →
      ∀ row, w.db.calendarFeeds.find? s.feedId = some row →
        row.remoteEtag = feed.remoteEtag ∧ row.remoteLastModified = feed.remoteLastModified) :
    SyncInv s { w with db := HostPlatform.recordNotModified w.db s.propertyId s.feedId etag lastModified } := by
  have hrow : ∀ feed', (HostPlatform.recordNotModified w.db s.propertyId s.feedId etag
      lastModified).calendarFeeds.find? s.feedId = some feed' →
      ∃ row, w.db.calendarFeeds.find? s.feedId = some row ∧
        (feed' = row ∨ row.propertyId = s.propertyId ∧ feed' = { row with
          lastSyncStatus := .success
          lastError := none
          remoteEtag := etag.or row.remoteEtag
          remoteLastModified := lastModified.or row.remoteLastModified }) := by
    intro feed' hfeed'
    obtain ⟨row, hrow, ⟨rfl, -⟩ | ⟨-, hproperty, rfl⟩⟩ := find?_updateFeed hfeed'
    · exact ⟨feed', hrow, .inl rfl⟩
    · exact ⟨row, hrow, .inr ⟨hproperty, rfl⟩⟩
  refine ⟨fun feed' hfeed' hsome => ?_, fun feed' hfeed' => ?_, h.current, h.compatible, h.fetched⟩
  · obtain ⟨row, hfind, rfl | ⟨-, hnew⟩⟩ := hrow feed' hfeed'
    · exact h.validators feed' hfind hsome
    · have hid : feed'.id = row.id := by rw [hnew]
      have hetag' : feed'.remoteEtag = etag.or row.remoteEtag := by rw [hnew]
      have hdate' : feed'.remoteLastModified = lastModified.or row.remoteLastModified := by rw [hnew]
      by_cases hcarries : etag ≠ none ∨ lastModified ≠ none
      · obtain ⟨hetag, hdate⟩ := hunchanged hcarries row hfind
        obtain ⟨old, hold, hholds⟩ := h.validators row hfind (hasValidator_of_from hfrom hetag hdate)
        rcases hholds.notModified (h.compatible c hc old hold) hfrom hetag hdate hid hetag' hdate' with
          hkept | hmatched
        · exact ⟨old, hold, hkept⟩
        · exact ⟨c, hc, hmatched⟩
      · -- without a validator the update keeps both columns
        push Not at hcarries
        obtain ⟨rfl, rfl⟩ := hcarries
        rw [hetag', hdate'] at hsome
        obtain ⟨old, hold, hholds⟩ := h.validators row hfind hsome
        refine ⟨old, hold, ?_, ?_, ?_⟩
        · rw [hetag']
          exact hholds.etag
        · rw [hdate']
          exact hholds.lastModified
        · rw [hid]
          exact hholds.events
  · obtain ⟨row, hfind, rfl | ⟨hproperty, rfl⟩⟩ := hrow feed' hfeed'
    · exact h.owned feed' hfind
    · exact .inl hproperty

/-- `replaceFeedEvents` stores the events and the validators of one content. -/
theorem SyncInv.replaced (h : SyncInv s w) {c : Content} (hc : c ∈ w.served) {today : Int}
    {events : List ImportedEvent} {count : Nat} (hevents : importedEvents s.collation c.body = .ok events)
    (hok : replaceFeedEvents w.db today s.propertyId s.feedId events c.etag c.lastModified =
      .ok (count, db')) : SyncInv s { w with db := db' } := by
  obtain ⟨rows, hrows, rfl⟩ := replaceFeedEvents_eq_ok hok
  have hinserted := eventRows_eq_ok hrows
  have hstored : feedRows s.collation s.feedId c.body = some rows := by
    unfold feedRows
    rw [hevents]
    simp only [hinserted, Except.toOption]
  refine ⟨fun feed' hfeed' hsome => ?_, fun feed' hfeed' => ?_, h.current, h.compatible, h.fetched⟩
  · obtain ⟨feed, hfeed, ⟨rfl, hother⟩ | ⟨hid, -, rfl⟩⟩ := find?_updateFeed hfeed'
    · -- the update wrote no row: the feed of that id is another property's
      have hkey : feed'.id = s.feedId := Table.key_of_find? hfeed
      rcases h.owned feed' hfeed with hproperty | ⟨hetag, hdate⟩
      · exact absurd ⟨hkey, hproperty⟩ hother
      · rw [hetag, hdate] at hsome
        exact absurd hsome (by simp)
    · refine ⟨c, hc, fun etag he => he, fun date hd => hd, ?_⟩
      show feedRows s.collation feed.id c.body = some (List.filter _ (_ ++ rows))
      rw [hid, hstored, filter_replaced (eventRows_feedId hinserted)]
  · obtain ⟨feed, hfeed, ⟨rfl, -⟩ | ⟨-, hproperty, rfl⟩⟩ := find?_updateFeed hfeed'
    · exact h.owned feed' hfeed
    · exact .inl hproperty

/-- The statement that ends a successful call, answered or not. -/
theorem SyncInv.applied (h : SyncInv s w) {call : Nat} {today : Int} {feed : CalendarFeed}
    {fetched : CalendarFetchResult} {answers : SyncAnswers} {result : CalendarSyncResult}
    (hcall : w.calls call = some (.fetched feed fetched))
    (hrecorded : RecordedUnchanged s w (.apply call today answers))
    (hend : endSync s.collation today s.propertyId s.feedId fetched w.db = .ok (result, db')) :
    SyncInv s { w with db := db' } := by
  obtain ⟨c, hc, hfrom⟩ := h.fetched call feed fetched hcall
  cases fetched with
  | notModified etag lastModified =>
    cases hend
    exact h.recordNotModified hc hfrom (hrecorded feed etag lastModified hcall)
  | modified body etag lastModified =>
    cases hfrom
    obtain ⟨events, hevents, hend⟩ := Lib.bind_eq_ok.mp hend
    obtain ⟨⟨count, db''⟩, hreplaced, hend⟩ := Lib.bind_eq_ok.mp hend
    cases hend
    exact h.replaced hc (Lib.mapError_eq_ok hevents) (Lib.mapError_eq_ok hreplaced)

/-- The statements after the fetch keep the invariant, whatever becomes of them. -/
theorem SyncInv.applyFetched (h : SyncInv s w) {call : Nat} {today : Int} {feed : CalendarFeed}
    {fetched : CalendarFetchResult} {answers : SyncAnswers}
    (hcall : w.calls call = some (.fetched feed fetched))
    (hrecorded : RecordedUnchanged s w (.apply call today answers)) :
    wp (HostPlatform.applyFetched s.collation answers today s.propertyId s.feedId fetched)
      (fun _ c => SyncInv s { w with db := c.committed }) (.idle w.db) :=
  wp_applyFetched rfl (fun _ _ hend => h.applied hcall hrecorded hend)
    (fun _ _ _ hend _ _ => h.applied hcall hrecorded hend) fun _ => h

/-- An update of progress columns keeps the invariant, whatever becomes of it. -/
theorem SyncInv.autocommit (h : SyncInv s w) (answer : Answer SyncError) (f : Db → Db)
    (hkept : w.db.FeedKept s.feedId (f w.db)) :
    wp (autocommit answer (always f)) (fun _ c => SyncInv s { w with db := c.committed }) (.idle w.db) := by
  refine wp_autocommit (fun _ db' hupdate => ?_) (fun _ db' _ hupdate _ => ?_) fun _ => h
  · cases hupdate
    exact h.of_feedKept hkept
  · cases hupdate
    exact h.of_feedKept hkept

theorem SyncInv.step (h : SyncInv s w) {l : SyncLabel} (hhonest : ProviderHonest w l)
    (hrecorded : RecordedUnchanged s w l) : SyncInv s (w.step s l) := by
  cases l with
  | start call =>
    simp only [SyncWorld.step]
    split
    · exact h.setPhase fun _ _ heq => by cases heq
    · exact h
  | markRunning call answers =>
    simp only [SyncWorld.step]
    split
    · rename_i feed _
      have hrunning := h.autocommit (answers.get .running) (fun db => markSyncRunning db s.propertyId s.feedId)
        (markSyncRunning_feedKept w.db s.propertyId s.feedId)
      split
      · rename_i c heq
        rw [wp, ← setRunning, heq] at hrunning
        exact hrunning.setPhase fun _ _ heq => by cases heq
      · rename_i c heq
        rw [wp, ← setRunning, heq] at hrunning
        exact hrunning.endCall
    · exact h
  | fetch call net =>
    simp only [SyncWorld.step]
    split
    · split
      · rename_i feed _ result hresult
        refine h.setCall fun feed' result' heq => ?_
        cases heq
        exact ⟨w.content, h.current, fetchCalendar_from hhonest hresult⟩
      · exact h.setPhase fun _ _ heq => by cases heq
    · exact h
  | apply call today answers =>
    simp only [SyncWorld.step]
    split
    · rename_i feed result hcall
      have happlied := h.applyFetched hcall hrecorded
      split
      · rename_i answer c heq
        rw [wp, heq] at happlied
        exact happlied.endCall
      · rename_i error c heq
        rw [wp, heq] at happlied
        exact happlied.setPhase fun _ _ heq => by cases heq
    · exact h
  | record call answers =>
    simp only [SyncWorld.step]
    split
    · rename_i message _
      have hrecord := h.autocommit (answers.get .record) (fun db => recordSyncError db s.propertyId s.feedId message)
        (recordSyncError_feedKept w.db s.propertyId s.feedId message)
      exact hrecord.endCall
    · exact h
  | crash call => exact h.endCall
  | publish content =>
    refine ⟨fun feed hfeed hsome => ?_, h.owned, List.mem_cons_self, ?_, fun call feed result hcall => ?_⟩
    · obtain ⟨c, hc, hholds⟩ := h.validators feed hfeed hsome
      exact ⟨c, List.mem_cons_of_mem _ hc, hholds⟩
    · intro c hc c' hc'
      rcases List.mem_cons.mp hc with rfl | hold
      · rcases List.mem_cons.mp hc' with rfl | hold'
        · exact ⟨fun _ _ _ => rfl, fun _ _ _ => rfl⟩
        · exact hhonest c' hold'
      · rcases List.mem_cons.mp hc' with rfl | hold'
        · exact (hhonest c hold).symm
        · exact h.compatible c hold c' hold'
    · obtain ⟨c, hc, hfrom⟩ := h.fetched call feed result hcall
      exact ⟨c, List.mem_cons_of_mem _ hc, hfrom⟩
  | transaction t =>
    simp only [SyncWorld.step]
    split
    · exact h
    · rename_i hsyncs
      exact h.of_feedKept (Tx.feedKept (Bool.not_eq_true _ ▸ hsyncs) w.db)

/-! ## Runs -/

/-- The feed, if it is there, was never synchronised, and no call runs. -/
structure SyncWorld.Unsynced (s : SyncSetup) (w : SyncWorld) : Prop where
  calls : ∀ call, w.calls call = none
  feed : ∀ feed, w.db.calendarFeeds.find? s.feedId = some feed →
    feed.remoteEtag = none ∧ feed.remoteLastModified = none
  served : w.served = [w.content]

theorem SyncWorld.Unsynced.syncInv (h : w.Unsynced s) : SyncInv s w := by
  refine ⟨fun feed hfeed hsome => ?_, fun feed hfeed => .inr (h.feed feed hfeed), ?_, ?_, ?_⟩
  · rw [(h.feed feed hfeed).1, (h.feed feed hfeed).2] at hsome
    exact absurd hsome (by simp)
  · rw [h.served]
    exact List.mem_singleton.mpr rfl
  · intro c hc c' hc'
    rw [h.served, List.mem_singleton] at hc hc'
    rw [hc, hc']
    exact ⟨fun _ _ _ => rfl, fun _ _ _ => rfl⟩
  · intro call feed result hcall
    rw [h.calls] at hcall
    cases hcall

end

/-- In every run whose `304` responses are recorded on the row their call read, stored
validators are those of a served content whose events are stored. -/
theorem validatorsMatch_run (s : SyncSetup) (w : SyncWorld) (hstart : w.Unsynced s)
    (ls : List SyncLabel)
    (hrun : Guarded (SyncWorld.step s) (fun w l => ProviderHonest w l ∧ RecordedUnchanged s w l) w ls) :
    (run (SyncWorld.step s) w ls).ValidatorsMatch s :=
  (run_invariant (I := SyncInv s) (fun _ _ h hguard => h.step hguard.1 hguard.2) hstart.syncInv
    hrun).validators

/-- The same of the feed's calls among all sweeps, other calls and transactions. -/
theorem sweeps_validatorsMatch (s : SyncSetup) (content : Content) (w : FeedSystem)
    (hstart : (w.callsOf s content [content]).Unsynced s) (ls : List FeedLabel)
    (hrun : Guarded (FeedSystem.step s.collation s.urls)
      (fun w l => w.OneProperty s l ∧ ∀ l', w.callLabel s l = some l' →
        ProviderHonest (w.callsOf s content [content]) l' ∧ RecordedUnchanged s (w.callsOf s content [content]) l')
      w ls) :
    ((run (FeedSystem.step s.collation s.urls) w ls).callsOf s content [content]).ValidatorsMatch s := by
  have hinv := run_invariant (I := fun w : FeedSystem => SyncInv s (w.callsOf s content [content]))
    (fun w l h hguard => ?_) hstart.syncInv hrun
  · exact hinv.validators
  · obtain ⟨hone, hcall⟩ := hguard
    show SyncInv s ((w.step s.collation s.urls l).callsOf s content [content])
    rw [w.callsOf_step l hone]
    cases hlabel : w.callLabel s l with
    | none => exact h
    | some l' => exact h.step (hcall l' hlabel).1 (hcall l' hlabel).2

/-! ## A `304` recorded after the feed was replaced -/

/-- A provider that serves `c` and answers `304` whenever it may. -/
def providerNetwork (c : Content) : Network :=
  { resolver := fun _ _ => some [js "93.184.216.34"]
    connect := fun _ _ => some (js "93.184.216.34")
    respond := fun _ request =>
      if c.Matches request.ifNoneMatch request.ifModifiedSince then
        some ⟨304, c.etag, c.lastModified, none, none, none, .none⟩
      else some ⟨200, c.etag, c.lastModified, none, none, none, .bytes (utf8Length c.body) c.body⟩ }

theorem providerNetwork_serves (c : Content) : Serves (providerNetwork c) c where
  notModified n request response hresponse hstatus := by
    simp only [providerNetwork] at hresponse
    split at hresponse
    · rename_i hmatches
      cases hresponse
      exact ⟨hmatches, .inr rfl, .inr rfl⟩
    · cases hresponse
      cases hstatus
  modified n request response result hresponse hread := by
    simp only [providerNetwork] at hresponse
    split at hresponse
    · cases hresponse
      cases hread
    · cases hresponse
      obtain ⟨_, -, hread⟩ := Lib.bind_eq_ok.mp hread
      obtain ⟨_, -, hread⟩ := Lib.bind_eq_ok.mp hread
      obtain ⟨body, hbody, hread⟩ := Lib.bind_eq_ok.mp hread
      obtain ⟨_, -, hbody⟩ := Lib.bind_eq_ok.mp hbody
      obtain ⟨_, -, hbody⟩ := Lib.bind_eq_ok.mp hbody
      cases hbody
      cases hread
      rfl

def oneStay : Content :=
  ⟨some (js "1"), none, js "BEGIN:VCALENDAR\nBEGIN:VEVENT\nUID:a\nDTSTART:20260501\nDTEND:20260502\nEND:VEVENT"⟩

def noStay : Content := ⟨some (js "2"), none, js "BEGIN:VCALENDAR"⟩

def sampleSetup : SyncSetup :=
  { collation := sampleCollation
    urls := sampleUrls
    propertyId := 1
    feedId := 1 }

/-- A new feed whose provider serves one stay. -/
def newFeed : SyncWorld :=
  { db := Tx.exec sampleDb (.createCalendarFeed 1 (js "Other site") sampleUrl.href)
    content := oneStay
    served := [oneStay]
    calls := fun _ => none }

theorem newFeed_unsynced : newFeed.Unsynced sampleSetup where
  calls _ := rfl
  feed feed h := by
    cases h
    exact ⟨rfl, rfl⟩
  served := rfl

/-- The whole of a call against a provider that serves `c`. -/
def syncFrom (c : Content) (call : Nat) : List SyncLabel :=
  [.start call, .markRunning call .allDone, .fetch call (providerNetwork c), .apply call 0 .allDone]

/-- While the provider serves the same, the feed is synchronised once, and then by two
calls at the same time. -/
def syncedTogether : List SyncLabel :=
  syncFrom oneStay 1 ++
    [.start 2, .start 3, .markRunning 2 .allDone, .fetch 2 (providerNetwork oneStay), .markRunning 3 .allDone,
      .apply 2 0 .allDone, .fetch 3 (providerNetwork oneStay), .apply 3 0 .allDone]

theorem providerHonest_fetch {w : SyncWorld} {c : Content} {call : Nat} (h : w.content = c) :
    ProviderHonest w (.fetch call (providerNetwork c)) := by
  subst h
  exact providerNetwork_serves w.content

theorem recordedUnchanged_of {s : SyncSetup} {w : SyncWorld} {call : Nat} {today : Int}
    {answers : SyncAnswers} (feed row : CalendarFeed) (result : CalendarFetchResult)
    (hread : w.calls call = some (.fetched feed result) ∧ w.db.calendarFeeds.find? s.feedId = some row)
    (hsame : row.remoteEtag = feed.remoteEtag ∧ row.remoteLastModified = feed.remoteLastModified) :
    RecordedUnchanged s w (.apply call today answers) := by
  intro feed' etag lastModified hcall' _ row' hrow'
  rw [hread.1] at hcall'
  rw [hread.2] at hrow'
  cases hcall'
  cases hrow'
  exact hsame

/-- The feed after a call whose response carried the etag `1`, or before any call. -/
def sampleFeed (status : SyncStatus) (etag : Option JsString) : CalendarFeed :=
  ⟨1, 1, js "Other site", sampleUrl.href, true, status, none, etag, none⟩

theorem syncedTogether_match :
    Guarded (SyncWorld.step sampleSetup)
        (fun w l => ProviderHonest w l ∧ RecordedUnchanged sampleSetup w l) newFeed syncedTogether ∧
      (run (SyncWorld.step sampleSetup) newFeed syncedTogether).ValidatorsMatch sampleSetup := by
  have hguard : Guarded (SyncWorld.step sampleSetup)
      (fun w l => ProviderHonest w l ∧ RecordedUnchanged sampleSetup w l) newFeed syncedTogether := by
    refine ⟨⟨trivial, trivial⟩, ⟨trivial, trivial⟩, ⟨?_, trivial⟩, ⟨trivial, ?_⟩,
      ⟨trivial, trivial⟩, ⟨trivial, trivial⟩, ⟨trivial, trivial⟩, ⟨?_, trivial⟩, ⟨trivial, trivial⟩,
      ⟨trivial, ?_⟩, ⟨?_, trivial⟩, ⟨trivial, ?_⟩, trivial⟩
    · exact providerHonest_fetch rfl
    · exact recordedUnchanged_of (sampleFeed .never none) (sampleFeed .running none)
        (.modified oneStay.body oneStay.etag none) (by decide) (by decide)
    · refine providerHonest_fetch ?_
      simp only [SyncWorld.content_step]
      rfl
    · exact recordedUnchanged_of (sampleFeed .success oneStay.etag)
        (sampleFeed .running oneStay.etag) (.notModified oneStay.etag none)
        (by decide +kernel) (by decide)
    · refine providerHonest_fetch ?_
      simp only [SyncWorld.content_step]
      rfl
    · exact recordedUnchanged_of (sampleFeed .success oneStay.etag)
        (sampleFeed .success oneStay.etag) (.notModified oneStay.etag none)
        (by decide +kernel) (by decide)
  exact ⟨hguard, validatorsMatch_run sampleSetup newFeed newFeed_unsynced syncedTogether hguard⟩

/-- A call is told `304` by the provider of one stay. -/
def toldNotModified : List SyncLabel :=
  syncFrom oneStay 0 ++ [.start 1, .markRunning 1 .allDone, .fetch 1 (providerNetwork oneStay)]

/-- Before the call records that, the provider removes the stay and a second call stores
the empty calendar. -/
def lateNotModified : List SyncLabel :=
  toldNotModified ++ [.publish noStay] ++ syncFrom noStay 2 ++ [.apply 1 0 .allDone]

/-- The old validator stands beside the new events. -/
theorem lateNotModified_mismatch :
    Guarded (SyncWorld.step sampleSetup) ProviderHonest newFeed lateNotModified ∧
      ¬ (run (SyncWorld.step sampleSetup) newFeed lateNotModified).ValidatorsMatch sampleSetup := by
  constructor
  · refine ⟨trivial, trivial, ?_, trivial, trivial, trivial, ?_, ?_, trivial, trivial, ?_, trivial,
      trivial, trivial⟩
    · exact providerHonest_fetch rfl
    · refine providerHonest_fetch ?_
      simp only [SyncWorld.content_step]
      rfl
    · intro c hc
      simp only [SyncWorld.served_step] at hc
      cases List.mem_singleton.mp hc
      refine ⟨fun etag h h' => ?_, fun date h => by cases h⟩
      cases h
      cases h'
    · refine providerHonest_fetch ?_
      simp only [SyncWorld.content_step]
  · intro hmatch
    obtain ⟨hfind, hevents⟩ :
        (run (SyncWorld.step sampleSetup) newFeed lateNotModified).db.calendarFeeds.find? 1 =
          some (sampleFeed .success oneStay.etag) ∧
        (run (SyncWorld.step sampleSetup) newFeed lateNotModified).db.storedEvents 1 = [] := by
      decide +kernel
    have hserved : (run (SyncWorld.step sampleSetup) newFeed lateNotModified).served =
        [noStay, oneStay] := by
      simp only [lateNotModified, toldNotModified, syncFrom, run, List.cons_append, List.nil_append,
        List.foldl_cons, List.foldl_nil, SyncWorld.served_step]
      rfl
    have hone : feedRows sampleSetup.collation 1 oneStay.body ≠ some [] := by decide +kernel
    obtain ⟨c, hc, hholds⟩ := hmatch _ hfind (.inl nofun)
    rw [hserved] at hc
    rcases List.mem_cons.mp hc with rfl | hc
    · cases hholds.etag _ rfl
    · cases List.mem_singleton.mp hc
      refine hone ?_
      rw [← hevents]
      exact hholds.events

end HostPlatform
