-- SUMMARY: How many sweeps a feed waits for its synchronisation, and when it waits for ever.
import HostPlatform.FeedSweeps
import HostPlatform.Safety.FailedSync

/-!
# Which feeds the sweep reaches

A feed waits as long as its last success lies before a given instant. A sweep selects either
every waiting feed that is due or only waiting ones, so each sweep shortens the queue by what
it does not lose to failures, whatever runs at the same time.
-/

namespace HostPlatform

open Lib (Connection Table js key)
open Lib.JsString
open Lib.OldestFirst
open Lib.Transition

variable {collation : Collation} {urls : UrlParser}

/-! ## The order of the feeds -/

theorem FeedTimes.not_before_trans {a b c : FeedTimes} (hab : ¬ b.Before a) (hbc : ¬ c.Before b) : ¬ c.Before a := by
  revert hab hbc
  obtain ⟨-, ta, na⟩ := a
  obtain ⟨-, tb, nb⟩ := b
  obtain ⟨-, tc, nc⟩ := c
  cases ta <;> cases tb <;> cases tc <;> simp [FeedTimes.Before] <;> omega

theorem FeedTimes.before_asymm (a b : FeedTimes) : ¬ b.Before a ∨ ¬ a.Before b := by
  obtain ⟨-, ta, na⟩ := a
  obtain ⟨-, tb, nb⟩ := b
  cases ta <;> cases tb <;> simp [FeedTimes.Before] <;> omega

/-- A later success stands behind. -/
theorem FeedTimes.before_of_since {a b : FeedTimes} {since u : Int}
    (ha : ∀ t, a.lastSuccessfulSyncAt = some t → t < since) (hb : b.lastSuccessfulSyncAt = some u)
    (hu : since ≤ u) : a.Before b := by
  unfold FeedTimes.Before
  rw [hb]
  cases hta : a.lastSuccessfulSyncAt with
  | none => trivial
  | some t =>
    left
    have hlt := ha t hta
    omega

/-! ## The queue -/

/-- An enabled feed has this id. -/
def FeedSystem.Active (s : FeedSystem) (k : Nat) : Prop :=
  ∃ feed, s.db.calendarFeeds.find? k = some feed ∧ feed.isActive = true

/-- The feed is enabled and has not succeeded since the instant. -/
def FeedSystem.waits (s : FeedSystem) (since : Int) (f : CalendarFeed) : Bool :=
  f.isActive && (s.times f.id).lastSuccessfulSyncAt.all fun t => decide (t < since)

def FeedSystem.waiting (s : FeedSystem) (since : Int) : List Nat :=
  (s.db.calendarFeeds.select (s.waits since)).map CalendarFeed.id

/-- The feed is on the list of a sweep under way. -/
def FeedSystem.Listed (s : FeedSystem) (k : Nat) : Prop :=
  ∃ i w, s.workers i = some w ∧ w.sweep = true ∧ k ∈ w.left.map FeedRef.feedId

open Classical in
/-- The waiting feeds that no sweep has on its list. -/
noncomputable def FeedSystem.unlisted (s : FeedSystem) (since : Int) : List Nat :=
  (s.waiting since).filter fun k => ¬ s.Listed k

/-- The feeds a sweep gives up without a success: one call has thrown, or all that are left
when the sweep stops. -/
def FeedSystem.loses (collation : Collation) (urls : UrlParser) (s : FeedSystem) : FeedLabel → List Nat
  | .advance i meets =>
    match s.workers i with
    | some ⟨true, feed :: _, phase, _⟩ =>
      match (nextSyncStatement collation urls meets feed phase s.db).1 with
      | .threw => [feed.feedId]
      | _ => []
    | _ => []
  | .crash i =>
    match s.workers i with
    | some ⟨true, left, _, _⟩ => left.map FeedRef.feedId
    | _ => []
  | _ => []

namespace FeedSystem

variable {s s' : FeedSystem} {since : Int} {k : Nat}

theorem mem_waiting : k ∈ s.waiting since ↔
    s.Active k ∧ ∀ t, (s.times k).lastSuccessfulSyncAt = some t → t < since := by
  constructor
  · intro h
    obtain ⟨f, hf, rfl⟩ := List.mem_map.mp h
    obtain ⟨hrow, hwaits⟩ := List.mem_filter.mp hf
    simp only [waits, Bool.and_eq_true, Option.all_eq_true, decide_eq_true_eq] at hwaits
    exact ⟨⟨f, Table.find?_of_mem hrow, hwaits.1⟩, hwaits.2⟩
  · rintro ⟨⟨f, hfind, hactive⟩, htimes⟩
    have hid : f.id = k := Table.key_of_find? hfind
    refine List.mem_map.mpr ⟨f, List.mem_filter.mpr ⟨Table.mem_of_find? hfind, ?_⟩, hid⟩
    simp only [waits, hactive, hid, Bool.true_and, Option.all_eq_true, decide_eq_true_eq]
    exact htimes

theorem mem_unlisted : k ∈ s.unlisted since ↔ k ∈ s.waiting since ∧ ¬ s.Listed k := by
  simp only [unlisted, List.mem_filter, decide_eq_true_eq]

theorem nodup_waiting : (s.waiting since).Nodup :=
  s.db.calendarFeeds.nodup.sublist (List.filter_sublist.map key)

theorem nodup_unlisted : (s.unlisted since).Nodup := nodup_waiting.filter _

theorem length_unlisted_le : (s.unlisted since).length ≤ (s.waiting since).length := List.length_filter_le _ _

theorem unlisted_grows {entering : List Nat} (h : s'.unlisted since ⊆ entering ++ s.unlisted since) :
    (s'.unlisted since).length ≤ (s.unlisted since).length + entering.length := by
  have hle := (nodup_unlisted.subperm h).length_le
  rw [List.length_append] at hle
  omega

end FeedSystem

/-! ## Statements of calls -/

section

variable {s : FeedSystem} {since : Int} {k : Nat}

/-- What a statement writes about successes. -/
theorem FeedTimes.after_lastSuccessfulSyncAt (times : FeedTimes) (now : Int) (phase : Option SyncPhase)
    (c : Connection Db) :
    (times.after now phase c).lastSuccessfulSyncAt = times.lastSuccessfulSyncAt ∨
      (times.after now phase c).lastSuccessfulSyncAt = some now := by
  unfold FeedTimes.after
  split
  · exact .inl rfl
  · split
    · exact .inl rfl
    · exact .inr rfl
    · exact .inl rfl

/-- A call that returned has written its success. -/
theorem Stated.after_returned {today : Int} {feed : FeedRef} {db : Db} {phase : Option SyncPhase}
    {r : SyncOutcome × Connection Db} (h : Stated collation today feed db phase r) (hreturned : r.1 = .returned)
    (times : FeedTimes) (now : Int) : (times.after now phase r.2).lastSuccessfulSyncAt = some now := by
  cases h with
  | ended hend => rfl
  | _ => cases hreturned

theorem Stated.active {today : Int} {feed : FeedRef} {phase : Option SyncPhase} {r : SyncOutcome × Connection Db}
    (h : Stated collation today feed s.db phase r) (now : Int) :
    (s.commitCall feed now phase r.2).Active k ↔ s.Active k := by
  constructor
  · rintro ⟨row', hrow', hactive⟩
    obtain ⟨row, hrow, hkept⟩ := h.rows.to_find? hrow'
    exact ⟨row, hrow, hkept.isActive.symm.trans hactive⟩
  · rintro ⟨row, hrow, hactive⟩
    obtain ⟨row', hrow', hkept⟩ := h.rows.of_find? hrow
    exact ⟨row', hrow', hkept.isActive.trans hactive⟩

/-- A statement puts no feed into the queue. -/
theorem Stated.waiting_subset {today now : Int} {feed : FeedRef} {phase : Option SyncPhase}
    {r : SyncOutcome × Connection Db} (h : Stated collation today feed s.db phase r) (hnow : since ≤ now) :
    (s.commitCall feed now phase r.2).waiting since ⊆ s.waiting since := by
  intro k hk
  obtain ⟨hactive, htimes⟩ := FeedSystem.mem_waiting.mp hk
  refine FeedSystem.mem_waiting.mpr ⟨(h.active now).mp hactive, ?_⟩
  change ∀ t, (if k = feed.feedId then (s.times k).after now phase r.2 else s.times k).lastSuccessfulSyncAt = some t →
    t < since at htimes
  split at htimes
  · rcases (s.times k).after_lastSuccessfulSyncAt now phase r.2 with hsame | hlate
    · rwa [hsame] at htimes
    · have hbefore := htimes now hlate
      omega
  · exact htimes

/-- A call that returns takes its feed out of the queue. -/
theorem Stated.not_waiting {today now : Int} {feed : FeedRef} {phase : Option SyncPhase}
    {r : SyncOutcome × Connection Db} (h : Stated collation today feed s.db phase r) (hnow : since ≤ now)
    (hreturned : r.1 = .returned) : feed.feedId ∉ (s.commitCall feed now phase r.2).waiting since := by
  intro hwaits
  have htimes := (FeedSystem.mem_waiting.mp hwaits).2
  change ∀ t, (if feed.feedId = feed.feedId then _ else _ : FeedTimes).lastSuccessfulSyncAt = some t →
    t < since at htimes
  rw [if_pos rfl] at htimes
  have hbefore := htimes now (h.after_returned hreturned _ now)
  omega

end

/-! ## Other transactions -/

/-- The transaction disables or deletes the feed. -/
def Tx.stopsFeed (k : Nat) : Tx → Bool
  | .setCalendarFeedActive _ _ feedId isActive => feedId == k && !isActive
  | .deleteCalendarFeed _ _ feedId => feedId == k
  | _ => false

/-- How many feeds the transaction may put into the queue. -/
def Tx.queues : Tx → Nat
  | .createCalendarFeed .. => 1
  | .setCalendarFeedActive _ _ _ isActive => if isActive then 1 else 0
  | _ => 0

theorem Tx.feed_exec {t : Tx} {db : Db} {k : Nat} {feed : CalendarFeed} (hsync : t.ofSync = false)
    (hstops : t.stopsFeed k = false) (hfind : db.calendarFeeds.find? k = some feed) :
    ∃ feed', (t.exec db).calendarFeeds.find? k = some feed' ∧ feed'.lastSyncStatus = feed.lastSyncStatus ∧
      feed'.propertyId = feed.propertyId ∧ (feed.isActive = true → feed'.isActive = true) := by
  rcases Tx.feeds_cases hsync db with h | ⟨p, name, feedUrl, rfl, h⟩ | ⟨today, p, feedId, isActive, rfl, h⟩ |
    ⟨today, p, feedId, rfl, h⟩
  · exact ⟨feed, by rw [h, hfind], rfl, rfl, id⟩
  · refine ⟨feed, ?_, rfl, rfl, id⟩
    rw [h, if_neg (Table.ne_freshKey_of_find? hfind), hfind]
  · rw [h, Table.find?_modify]
    by_cases hk : k = feedId
    · subst hk
      cases isActive with
      | true => exact ⟨{ feed with isActive := true }, by simp [hfind], rfl, rfl, fun _ => rfl⟩
      | false => simp [Tx.stopsFeed] at hstops
    · exact ⟨feed, by rw [if_neg hk, hfind], rfl, rfl, id⟩
  · have hid : feed.id = k := Table.key_of_find? hfind
    have hne : (feed.id == feedId) = false := by
      rw [hid]
      simp only [Tx.stopsFeed, beq_eq_false_iff_ne, ne_eq] at hstops ⊢
      exact fun heq => hstops heq.symm
    exact ⟨feed, by rw [h]; exact Table.find?_deleteWhere_eq_some.mpr ⟨hfind, hne⟩, rfl, rfl, id⟩

theorem Tx.active_exec {t : Tx} (db : Db) (hsync : t.ofSync = false) :
    ∃ added : List Nat, added.length ≤ t.queues ∧
      ∀ k feed', (t.exec db).calendarFeeds.find? k = some feed' → feed'.isActive = true →
        k ∈ added ∨ ∃ feed, db.calendarFeeds.find? k = some feed ∧ feed.isActive = true := by
  rcases Tx.feeds_cases hsync db with h | ⟨p, name, feedUrl, rfl, h⟩ | ⟨today, p, feedId, isActive, rfl, h⟩ |
    ⟨today, p, feedId, rfl, h⟩
  · refine ⟨[], Nat.zero_le _, fun k feed' hfind hactive => .inr ⟨feed', ?_, hactive⟩⟩
    rw [← h, hfind]
  · refine ⟨[db.calendarFeeds.freshKey], le_rfl, fun k feed' hfind hactive => ?_⟩
    rw [h] at hfind
    by_cases hk : k = db.calendarFeeds.freshKey
    · exact .inl (List.mem_singleton.mpr hk)
    · rw [if_neg hk] at hfind
      exact .inr ⟨feed', hfind, hactive⟩
  · have hother : ∀ k feed', k ≠ feedId →
        (Tx.exec db (.setCalendarFeedActive today p feedId isActive)).calendarFeeds.find? k = some feed' →
        db.calendarFeeds.find? k = some feed' := by
      intro k feed' hk hfind
      rwa [h, Table.find?_modify, if_neg hk] at hfind
    cases isActive with
    | true =>
      refine ⟨[feedId], le_rfl, fun k feed' hfind hactive => ?_⟩
      by_cases hk : k = feedId
      · exact .inl (List.mem_singleton.mpr hk)
      · exact .inr ⟨feed', hother k feed' hk hfind, hactive⟩
    | false =>
      refine ⟨[], le_rfl, fun k feed' hfind hactive => .inr ?_⟩
      by_cases hk : k = feedId
      · rw [h, Table.find?_modify, if_pos hk] at hfind
        obtain ⟨feed, -, rfl⟩ := Option.map_eq_some_iff.mp hfind
        cases hactive
      · exact ⟨feed', hother k feed' hk hfind, hactive⟩
  · refine ⟨[], Nat.zero_le _, fun k feed' hfind hactive => .inr ⟨feed', ?_, hactive⟩⟩
    rw [h] at hfind
    exact (Table.find?_deleteWhere_eq_some.mp hfind).1

/-! ## Steps -/

def FeedLabel.queues : FeedLabel → Nat
  | .transaction _ t => t.queues
  | _ => 0

/-- How many feeds the step may put on a list. -/
def FeedLabel.room : FeedLabel → Nat
  | .startSweep _ limit _ => limit
  | _ => 0

/-- A step from the instant on that does not stop the feed and that no sweep loses it by. A
sweep starts when none is under way, and the feed is due then. -/
def FeedSystem.Serves (collation : Collation) (urls : UrlParser) (since : Int) (k : Nat) (s : FeedSystem)
    (l : FeedLabel) : Prop :=
  k ∉ s.loses collation urls l ∧
    match l with
    | .startSweep worker _ now => s.workers worker = none ∧ (∀ j, ¬ s.Listed j) ∧
        ∀ feed, s.db.calendarFeeds.find? k = some feed → s.due now feed = true
    | .advance _ meets => since ≤ meets.now
    | .transaction _ t => t.stopsFeed k = false
    | _ => True

namespace FeedSystem

variable {s : FeedSystem} {since : Int} {k : Nat}

theorem transaction_feed (now : Int) {t : Tx} {feed : CalendarFeed} (hfind : s.db.calendarFeeds.find? k = some feed)
    (hstops : t.stopsFeed k = false) :
    ∃ feed', (s.transaction now t).db.calendarFeeds.find? k = some feed' ∧
      feed'.lastSyncStatus = feed.lastSyncStatus ∧ feed'.propertyId = feed.propertyId ∧
      (feed.isActive = true → feed'.isActive = true) ∧ (s.transaction now t).times k = s.times k := by
  unfold transaction
  split
  · exact ⟨feed, hfind, rfl, rfl, id, rfl⟩
  · rename_i hsync
    obtain ⟨feed', hfind', hstatus, hproperty, hon⟩ := Tx.feed_exec (Bool.eq_false_iff.mpr hsync) hstops hfind
    exact ⟨feed', hfind', hstatus, hproperty, hon, if_neg (by rw [hfind]; nofun)⟩

theorem transaction_workers (now : Int) (t : Tx) : (s.transaction now t).workers = s.workers := by
  unfold transaction
  split <;> rfl

theorem transaction_waiting (now : Int) (t : Tx) :
    ∃ added : List Nat, added.length ≤ t.queues ∧
      (s.transaction now t).waiting since ⊆ added ++ s.waiting since := by
  unfold transaction
  split
  · exact ⟨[], Nat.zero_le _, List.Subset.refl _⟩
  · rename_i hsync
    obtain ⟨added, hlength, hadded⟩ := Tx.active_exec s.db (Bool.eq_false_iff.mpr hsync)
    refine ⟨added, hlength, fun j hj => ?_⟩
    obtain ⟨⟨feed', hfind', hactive'⟩, htimes⟩ := mem_waiting.mp hj
    rcases hadded j feed' hfind' hactive' with hnew | ⟨feed, hfind, hactive⟩
    · exact List.mem_append_left _ hnew
    · refine List.mem_append_right _ (mem_waiting.mpr ⟨⟨feed, hfind, hactive⟩, ?_⟩)
      have hkept : (if s.db.calendarFeeds.find? j = none then (⟨none, none, now⟩ : FeedTimes) else s.times j) =
          s.times j := if_neg (by rw [hfind]; nofun)
      change ∀ u, (if s.db.calendarFeeds.find? j = none then (⟨none, none, now⟩ : FeedTimes)
        else s.times j).lastSuccessfulSyncAt = some u → u < since at htimes
      rwa [hkept] at htimes

/-- What a statement of a call comes to, for the loop that runs it. -/
theorem step_advance {i : Nat} {w : SyncWorker} {feed : FeedRef} {rest : List FeedRef} (meets : SyncMeets)
    (hworker : s.workers i = some w) (hleft : w.left = feed :: rest) :
    s.step collation urls (.advance i meets) =
      (s.commitCall feed meets.now w.phase (nextSyncStatement collation urls meets feed w.phase s.db).2).setWorker i
        (some (w.after (nextSyncStatement collation urls meets feed w.phase s.db).1)) := by
  simp only [step, hworker, hleft]

/-- A loop that is not there, or is through, does nothing more. -/
theorem step_advance_idle {i : Nat} (meets : SyncMeets)
    (hidle : ∀ w feed rest, s.workers i = some w → w.left ≠ feed :: rest) :
    s.step collation urls (.advance i meets) = s := by
  simp only [step]
  split
  · rename_i w hworker
    split
    · rename_i feed rest hleft
      exact absurd hleft (hidle w feed rest hworker)
    · rfl
  · rfl

/-- The feeds that wait after a step waited before it, or are new. -/
theorem step_waiting {l : FeedLabel} (hserves : s.Serves collation urls since k l) :
    ∃ added : List Nat, added.length ≤ l.queues ∧
      (s.step collation urls l).waiting since ⊆ added ++ s.waiting since := by
  have hsame : ∃ added : List Nat, added.length ≤ 0 ∧ s.waiting since ⊆ added ++ s.waiting since :=
    ⟨[], le_rfl, List.Subset.refl _⟩
  cases l with
  | startSweep worker limit now =>
    simp only [step]
    split <;> exact hsame
  | startSync worker propertyId feedId =>
    simp only [step]
    split <;> exact hsame
  | advance i meets =>
    by_cases hrun : ∃ w feed rest, s.workers i = some w ∧ w.left = feed :: rest
    · obtain ⟨w, feed, rest, hworker, hleft⟩ := hrun
      rw [step_advance meets hworker hleft]
      exact ⟨[], le_rfl, (nextSyncStatement_stated collation urls meets feed w.phase s.db).waiting_subset hserves.2⟩
    · rw [step_advance_idle meets fun w feed rest hworker hleft => hrun ⟨w, feed, rest, hworker, hleft⟩]
      exact hsame
  | crash i => exact hsame
  | transaction now t => exact s.transaction_waiting now t

/-- A step takes a feed off a list only when a sweep loses it, or it waits no more. -/
theorem step_listed {l : FeedLabel} (hserves : s.Serves collation urls since k l) {j : Nat} (hlisted : s.Listed j)
    (hwaits : j ∈ (s.step collation urls l).waiting since) :
    (s.step collation urls l).Listed j ∨ j ∈ s.loses collation urls l := by
  obtain ⟨i, w, hworker, hsweep, hj⟩ := hlisted
  cases l with
  | startSweep worker limit now => exact absurd ⟨i, w, hworker, hsweep, hj⟩ (hserves.2.2.1 j)
  | startSync worker propertyId feedId =>
    left
    simp only [step]
    split
    · rename_i hnone
      have hne : i ≠ worker := fun heq => by
        rw [heq, hnone] at hworker
        cases hworker
      exact ⟨i, w, (if_neg hne).trans hworker, hsweep, hj⟩
    · exact ⟨i, w, hworker, hsweep, hj⟩
  | advance worker meets =>
    by_cases hi : i = worker
    · subst hi
      obtain ⟨_ | _, left, phase, counts⟩ := w
      · cases hsweep
      cases left with
      | nil => cases hj
      | cons feed rest =>
        rw [step_advance meets hworker rfl] at hwaits ⊢
        have hstated := nextSyncStatement_stated collation urls meets feed phase s.db
        cases houtcome : (nextSyncStatement collation urls meets feed phase s.db).1 with
        | goesOn next => exact .inl ⟨i, _, if_pos rfl, rfl, hj⟩
        | returned =>
          left
          refine ⟨i, _, if_pos rfl, rfl, ?_⟩
          rcases List.mem_cons.mp hj with rfl | hrest
          · exact absurd hwaits (hstated.not_waiting hserves.2 houtcome)
          · exact hrest
        | threw =>
          rcases List.mem_cons.mp hj with rfl | hrest
          · right
            simp only [loses, hworker, houtcome]
            exact List.mem_singleton.mpr rfl
          · exact .inl ⟨i, _, if_pos rfl, rfl, hrest⟩
    · left
      by_cases hrun : ∃ w feed rest, s.workers worker = some w ∧ w.left = feed :: rest
      · obtain ⟨w', feed, rest, hworker', hleft⟩ := hrun
        rw [step_advance meets hworker' hleft]
        exact ⟨i, w, (if_neg hi).trans hworker, hsweep, hj⟩
      · rw [step_advance_idle meets fun w feed rest hworker hleft => hrun ⟨w, feed, rest, hworker, hleft⟩]
        exact ⟨i, w, hworker, hsweep, hj⟩
  | crash worker =>
    by_cases hi : i = worker
    · right
      subst hi
      obtain ⟨_ | _, left, phase, counts⟩ := w
      · cases hsweep
      · simp only [loses, hworker]
        exact hj
    · exact .inl ⟨i, w, (if_neg hi).trans hworker, hsweep, hj⟩
  | transaction now t =>
    left
    simp only [step]
    refine ⟨i, w, ?_, hsweep, hj⟩
    rw [transaction_workers]
    exact hworker

/-- The queue grows at most by what sweeps lose and transactions add. -/
theorem step_unlisted {l : FeedLabel} (hserves : s.Serves collation urls since k l) :
    ∃ added : List Nat, added.length ≤ l.queues ∧
      (s.step collation urls l).unlisted since ⊆ (s.loses collation urls l ++ added) ++ s.unlisted since := by
  obtain ⟨added, hlength, hwaiting⟩ := step_waiting hserves
  refine ⟨added, hlength, fun j hj => ?_⟩
  obtain ⟨hwaits, hnot⟩ := mem_unlisted.mp hj
  rw [List.append_assoc, List.mem_append]
  by_cases hlisted : s.Listed j
  · rcases step_listed hserves hlisted hwaits with hstill | hlost
    · exact absurd hstill hnot
    · exact .inl hlost
  · right
    rcases List.mem_append.mp (hwaiting hwaits) with hnew | hold
    · exact List.mem_append_left _ hnew
    · exact List.mem_append_right _ (mem_unlisted.mpr ⟨hold, hlisted⟩)

end FeedSystem

/-! ## The selection of a sweep -/

namespace FeedSystem

variable {s : FeedSystem} {since : Int} {k : Nat}

theorem feedLe_trans (s : FeedSystem) (a b c : CalendarFeed) (hab : s.feedLe a b) (hbc : s.feedLe b c) :
    s.feedLe a c := by
  simp only [feedLe, Bool.not_eq_true', decide_eq_false_iff_not] at hab hbc ⊢
  exact FeedTimes.not_before_trans hab hbc

theorem feedLe_total (s : FeedSystem) (a b : CalendarFeed) : s.feedLe a b || s.feedLe b a := by
  simp only [feedLe, Bool.or_eq_true, Bool.not_eq_true', decide_eq_false_iff_not]
  exact FeedTimes.before_asymm _ _

/-- Waiting feeds stand before the others that are due. -/
theorem separates_waits (s : FeedSystem) (since now : Int) :
    Separates s.feedLe (s.waits since) (s.db.calendarFeeds.select (s.due now)) := by
  intro a _ b hb hwaits hnot
  have hactive : b.isActive = true := by
    have hdue := (List.mem_filter.mp hb).2
    simp only [due, Bool.and_eq_true] at hdue
    exact hdue.1
  simp only [waits, Bool.and_eq_true, Option.all_eq_true, decide_eq_true_eq] at hwaits
  simp only [waits, hactive, Bool.true_and] at hnot
  simp only [feedLe, Bool.not_eq_false', decide_eq_true_eq]
  cases hb : (s.times b.id).lastSuccessfulSyncAt with
  | none =>
    rw [hb] at hnot
    cases hnot
  | some u =>
    rw [hb] at hnot
    simp only [Option.all_some, decide_eq_false_iff_not] at hnot
    exact FeedTimes.before_of_since hwaits.2 hb (by omega)

theorem dueFeeds_ids (s : FeedSystem) (now : Int) (limit : Nat) :
    (s.dueFeeds now limit).map FeedRef.feedId =
      (pick s.feedLe limit (s.db.calendarFeeds.select (s.due now))).map CalendarFeed.id := by
  unfold dueFeeds
  rw [List.map_map]
  rfl

theorem nodup_dueFeeds (s : FeedSystem) (now : Int) (limit : Nat) :
    ((s.dueFeeds now limit).map FeedRef.feedId).Nodup := by
  rw [dueFeeds_ids]
  exact pick_nodup (s.db.calendarFeeds.nodup.sublist (List.filter_sublist.map key))

/-- A sweep that does not select a waiting feed that is due is full of waiting feeds. -/
theorem dueFeeds_full (s : FeedSystem) {now : Int} (limit : Nat) (hwaits : k ∈ s.waiting since)
    (hdue : ∀ feed, s.db.calendarFeeds.find? k = some feed → s.due now feed = true)
    (hnot : k ∉ (s.dueFeeds now limit).map FeedRef.feedId) :
    ((s.dueFeeds now limit).map FeedRef.feedId).length = limit ∧
      (s.dueFeeds now limit).map FeedRef.feedId ⊆ s.waiting since := by
  obtain ⟨feed, hfeed, hid⟩ := List.mem_map.mp hwaits
  obtain ⟨hrow, hfeedWaits⟩ := List.mem_filter.mp hfeed
  have hfind : s.db.calendarFeeds.find? k = some feed := hid ▸ Table.find?_of_mem hrow
  have hselected : feed ∈ s.db.calendarFeeds.select (s.due now) := List.mem_filter.mpr ⟨hrow, hdue feed hfind⟩
  rw [dueFeeds_ids] at hnot ⊢
  obtain ⟨hlength, hearly⟩ := pick_of_not_mem s.feedLe_trans s.feedLe_total (s.separates_waits since now)
    hselected hfeedWaits fun hpicked => hnot (List.mem_map.mpr ⟨feed, hpicked, hid⟩)
  refine ⟨by rw [List.length_map]; exact hlength, fun j hj => ?_⟩
  obtain ⟨f, hf, rfl⟩ := List.mem_map.mp hj
  exact List.mem_map.mpr ⟨f, List.mem_filter.mpr ⟨(List.mem_filter.mp (pick_subset hf)).1, hearly f hf⟩, rfl⟩

/-- A sweep that leaves a due feed waiting takes as many others off the queue as it may. -/
theorem startSweep_shortens {worker limit : Nat} {now : Int}
    (hserves : s.Serves collation urls since k (.startSweep worker limit now))
    (hwaits : k ∈ (s.step collation urls (.startSweep worker limit now)).unlisted since) :
    ((s.step collation urls (.startSweep worker limit now)).unlisted since).length + limit ≤
      (s.unlisted since).length := by
  obtain ⟨-, hnone, hlisted, hdue⟩ := hserves
  have hstep : s.step collation urls (.startSweep worker limit now) =
      s.setWorker worker (some (.start true (s.dueFeeds now limit))) := by
    simp only [step, hnone]
  rw [hstep] at hwaits ⊢
  have hnew : ∀ j ∈ (s.dueFeeds now limit).map FeedRef.feedId,
      (s.setWorker worker (some (.start true (s.dueFeeds now limit)))).Listed j :=
    fun j hj => ⟨worker, _, if_pos rfl, rfl, hj⟩
  obtain ⟨hkwaits, hknot⟩ := mem_unlisted.mp hwaits
  have hwaiting : ∀ j, j ∈ (s.setWorker worker (some (.start true (s.dueFeeds now limit)))).waiting since ↔
      j ∈ s.waiting since := fun _ => Iff.rfl
  obtain ⟨hfull, hsub⟩ := s.dueFeeds_full limit ((hwaiting k).mp hkwaits) hdue fun hk => hknot (hnew k hk)
  have hless : (s.setWorker worker (some (.start true (s.dueFeeds now limit)))).unlisted since ⊆
      s.unlisted since := fun j hj => mem_unlisted.mpr ⟨(hwaiting j).mp (mem_unlisted.mp hj).1, hlisted j⟩
  have hshort := length_add_le nodup_unlisted (s.nodup_dueFeeds now limit) hless
    (fun j hj => mem_unlisted.mpr ⟨hsub hj, hlisted j⟩) fun j hj hstill => (mem_unlisted.mp hstill).2 (hnew j hj)
  rwa [hfull] at hshort

/-! ## Runs -/

theorem step_active {l : FeedLabel} (hactive : s.Active k) (hserves : s.Serves collation urls since k l) :
    (s.step collation urls l).Active k := by
  cases l with
  | startSweep worker limit now =>
    simp only [step]
    split <;> exact hactive
  | startSync worker propertyId feedId =>
    simp only [step]
    split <;> exact hactive
  | advance i meets =>
    by_cases hrun : ∃ w feed rest, s.workers i = some w ∧ w.left = feed :: rest
    · obtain ⟨w, feed, rest, hworker, hleft⟩ := hrun
      rw [step_advance meets hworker hleft]
      exact ((nextSyncStatement_stated collation urls meets feed w.phase s.db).active meets.now).mpr hactive
    · rw [step_advance_idle meets fun w feed rest hworker hleft => hrun ⟨w, feed, rest, hworker, hleft⟩]
      exact hactive
  | crash i => exact hactive
  | transaction now t =>
    obtain ⟨feed, hfind, hon⟩ := hactive
    obtain ⟨feed', hfind', -, -, hon', -⟩ := s.transaction_feed now hfind hserves.2
    exact ⟨feed', hfind', hon' hon⟩

/-- A feed that waits after a step, on no list, did so before it. -/
theorem step_back {l : FeedLabel} (hactive : s.Active k) (hserves : s.Serves collation urls since k l)
    (hwaits : k ∈ (s.step collation urls l).unlisted since) : k ∈ s.unlisted since := by
  obtain ⟨hwaits', hnot⟩ := mem_unlisted.mp hwaits
  refine mem_unlisted.mpr ⟨?_, fun hlisted => ?_⟩
  · cases l with
    | transaction now t =>
      obtain ⟨feed, hfind, -⟩ := id hactive
      obtain ⟨-, -, -, -, -, htimes⟩ := s.transaction_feed now hfind hserves.2
      refine mem_waiting.mpr ⟨hactive, ?_⟩
      rw [← htimes]
      exact (mem_waiting.mp hwaits').2
    | _ =>
      obtain ⟨added, hlength, hsub⟩ := step_waiting hserves
      cases List.length_eq_zero_iff.mp (Nat.le_zero.mp hlength)
      exact hsub hwaits'
  · rcases step_listed hserves hlisted hwaits' with hstill | hlost
    · exact hnot hstill
    · exact hserves.1 hlost

/-- What a step pays out of the queue while the feed waits. -/
theorem step_pays {l : FeedLabel} (hserves : s.Serves collation urls since k l)
    (hwaits : k ∈ (s.step collation urls l).unlisted since) :
    ((s.step collation urls l).unlisted since).length + l.room ≤
      (s.unlisted since).length + ((s.loses collation urls l).length + l.queues) := by
  have hgrows : ((s.step collation urls l).unlisted since).length ≤
      (s.unlisted since).length + ((s.loses collation urls l).length + l.queues) := by
    obtain ⟨added, hlength, hsub⟩ := step_unlisted hserves
    have hle := unlisted_grows hsub
    rw [List.length_append] at hle
    omega
  cases l with
  | startSweep worker limit now =>
    have hshort := startSweep_shortens hserves hwaits
    simp only [FeedLabel.room]
    omega
  | _ => exact hgrows

end FeedSystem

/-- What sweeps lose in the run, and what is queued in it. -/
def FeedSystem.queuedOver (collation : Collation) (urls : UrlParser) (s : FeedSystem) (ls : List FeedLabel) : Nat :=
  sumOver (FeedSystem.step collation urls) (fun s l => (s.loses collation urls l).length + l.queues) s ls

/-- An enabled feed that is due at every selection, and that no sweep loses, is synchronised, or
on the list of the sweep under way, once the sweeps have had room for every feed that waited, was
queued or was lost since. -/
theorem dueFeed_synchronised (collation : Collation) (urls : UrlParser) (since : Int) (k : Nat)
    (s : FeedSystem) (ls : List FeedLabel) (hactive : s.Active k)
    (hserves : Guarded (FeedSystem.step collation urls) (FeedSystem.Serves collation urls since k) s ls)
    (hroom : (s.waiting since).length + s.queuedOver collation urls ls ≤ (ls.map FeedLabel.room).sum) :
    (∃ t, ((run (FeedSystem.step collation urls) s ls).times k).lastSuccessfulSyncAt = some t ∧ since ≤ t) ∨
      (run (FeedSystem.step collation urls) s ls).Listed k := by
  have hI : ∀ (s : FeedSystem) l, s.Active k → s.Serves collation urls since k l →
      (s.step collation urls l).Active k := fun _ _ => FeedSystem.step_active
  have hcost : (s.unlisted since).length + s.queuedOver collation urls ls ≤
      sumOver (FeedSystem.step collation urls) (fun _ l => l.room) s ls := by
    rw [sumOver_label]
    exact (Nat.add_le_add_right FeedSystem.length_unlisted_le _).trans hroom
  have hserved := served_of_cost (P := fun s => k ∈ s.unlisted since) (m := fun s => (s.unlisted since).length) hI
    (fun _ _ => FeedSystem.step_back) (fun _ _ _ => FeedSystem.step_pays)
    (fun _ _ hk => List.length_pos_of_mem hk) hactive hserves hcost
  have hend := run_invariant hI hactive hserves
  by_contra hlate
  push Not at hlate
  obtain ⟨hunsynced, hunlisted⟩ := hlate
  refine hserved (FeedSystem.mem_unlisted.mpr ⟨FeedSystem.mem_waiting.mpr ⟨hend, fun t ht => ?_⟩, hunlisted⟩)
  exact hunsynced t ht

/-! ## One sweep -/

/-- The feed's host answers that nothing has changed. -/
def unchangedNetwork : Network :=
  { pageNetwork with
    respond := fun _ _ => some
      { status := 304
        etag := none
        lastModified := none
        location := none
        contentType := none
        contentLength := none
        body := .bytes 0 [] } }

/-- Nobody is at work on the sample feed. -/
def newFeedSystem : FeedSystem := ⟨sampleFeedDb, fun _ => ⟨none, none, 0⟩, fun _ => none⟩

def firstFeed : CalendarFeed := feedRow 1 (js "Other site") sampleUrl.href 1

def unchanged (now : Int) : SyncMeets := ⟨unchangedNetwork, .allDone, 0, now⟩

/-- A sweep, and the four statements of its one call. -/
def newFeedSweep : List FeedLabel :=
  [.startSweep 0 50 0, .advance 0 (unchanged 1), .advance 0 (unchanged 2), .advance 0 (unchanged 3),
    .advance 0 (unchanged 4)]

theorem newFeedSystem_start (limit : Nat) (hlimit : limit ≠ 0) (now : Int) :
    newFeedSystem.step sampleCollation sampleUrls (.startSweep 0 limit now) =
      newFeedSystem.setWorker 0 (some (.start true [⟨1, 1⟩])) := by
  have hselected : newFeedSystem.db.calendarFeeds.select (newFeedSystem.due now) = [firstFeed] := by rfl
  have hdue : newFeedSystem.dueFeeds now limit = [⟨1, 1⟩] := by
    unfold FeedSystem.dueFeeds pick
    rw [hselected, List.mergeSort_singleton, List.take_of_length_le (Nat.one_le_iff_ne_zero.mpr hlimit)]
    rfl
  show newFeedSystem.setWorker 0 (some (.start true (newFeedSystem.dueFeeds now limit))) = _
  rw [hdue]

/-- One sweep reaches a new feed. -/
theorem newFeed_synchronised :
    (∃ t, ((run (FeedSystem.step sampleCollation sampleUrls) newFeedSystem newFeedSweep).times 1).lastSuccessfulSyncAt =
        some t ∧ 0 ≤ t) ∨
      (run (FeedSystem.step sampleCollation sampleUrls) newFeedSystem newFeedSweep).Listed 1 := by
  have hstart := newFeedSystem_start 50 (by decide) 0
  have hfeed : newFeedSystem.db.calendarFeeds.find? 1 = some firstFeed := by rfl
  refine dueFeed_synchronised sampleCollation sampleUrls 0 1 newFeedSystem newFeedSweep ⟨_, hfeed, rfl⟩ ?_ ?_
  · refine ⟨⟨List.not_mem_nil, rfl, ?_, ?_⟩, ?_⟩
    · rintro j ⟨i, w, hw, -⟩
      cases hw
    · intro feed hrow
      cases hfeed.symm.trans hrow
      rfl
    · rw [hstart]
      refine ⟨⟨by decide +kernel, by decide⟩, ⟨by decide +kernel, by decide⟩, ⟨by decide +kernel, by decide⟩,
        ⟨by decide +kernel, by decide⟩, trivial⟩
  · have hqueued : newFeedSystem.queuedOver sampleCollation sampleUrls newFeedSweep = 0 := by
      unfold FeedSystem.queuedOver newFeedSweep
      rw [sumOver, hstart]
      decide +kernel
    rw [hqueued]
    decide +kernel

/-! ## Feeds that are never reached -/

/-- The phases in which the call has marked its feed `running`. -/
def SyncPhase.holds : SyncPhase → Bool
  | .read _ => false
  | _ => true

/-- A call that has marked the feed is under way. -/
def FeedSystem.Synchronising (s : FeedSystem) (j : Nat) : Prop :=
  ∃ i w feed, s.workers i = some w ∧ w.left.head? = some feed ∧ feed.feedId = j ∧ w.phase.any SyncPhase.holds = true

/-- Enabled feeds that stand before the feed `k`, and are at `running` only while a call is
under way; no loop is to synchronise `k`. -/
structure FeedSystem.Crowded (crowd : List Nat) (k : Nat) (s : FeedSystem) : Prop where
  behind : ∃ feed, s.db.calendarFeeds.find? k = some feed
  passed : ∀ i w, s.workers i = some w → k ∉ w.left.map FeedRef.feedId
  before : ∀ j ∈ crowd, (s.times j).Before (s.times k)
  ready : ∀ j ∈ crowd, ∃ row, s.db.calendarFeeds.find? j = some row ∧ row.isActive = true ∧
    (row.lastSyncStatus = .running → s.Synchronising j)
  owned : ∀ i w feed, s.workers i = some w → w.left.head? = some feed → feed.feedId ∈ crowd → w.phase ≠ none →
    ∀ row, s.db.calendarFeeds.find? feed.feedId = some row → row.propertyId = feed.propertyId

/-- The statement is one of a call that fails, and whose failure is recorded. -/
def FailsRecorded : Option SyncPhase → SyncOutcome × Connection Db → Prop
  | some (.read _), (.threw, c) => c.commits = 0
  | some (.fetched ..), (_, c) => c.commits = 0
  | some (.failed _), (_, c) => c.commits ≠ 0
  | _, _ => True

/-- A step in which every call on the crowd fails, records that and is not stopped, none of these
feeds is disabled or deleted, and `k` is not synchronised by hand. Sweeps of this limit start
while no call holds a feed of the crowd. -/
def FeedSystem.Fails (collation : Collation) (urls : UrlParser) (crowd : List Nat) (k limit : Nat) (s : FeedSystem) :
    FeedLabel → Prop
  | .startSweep _ limit' _ => limit' = limit ∧ ∀ j ∈ crowd, ¬ s.Synchronising j
  | .startSync _ _ j => j ≠ k
  | .advance i meets => ∀ w feed, s.workers i = some w → w.left.head? = some feed → feed.feedId ∈ crowd →
      FailsRecorded w.phase (nextSyncStatement collation urls meets feed w.phase s.db)
  | .crash i => ∀ w feed, s.workers i = some w → w.left.head? = some feed → feed.feedId ∈ crowd →
      w.phase.any SyncPhase.holds = false
  | .transaction _ t => ∀ j ∈ k :: crowd, t.stopsFeed j = false

theorem FeedTimes.before_congr {a a' b : FeedTimes} (hsuccess : a'.lastSuccessfulSyncAt = a.lastSuccessfulSyncAt)
    (hcreated : a'.createdAt = a.createdAt) (h : a.Before b) : a'.Before b := by
  unfold FeedTimes.Before at h ⊢
  rw [hsuccess, hcreated]
  exact h

theorem FeedTimes.before_irrefl (a : FeedTimes) : ¬ a.Before a := (before_asymm a a).elim id id

/-! ### One call -/

section

variable {today : Int} {feed : FeedRef} {db : Db} {phase : Option SyncPhase} {r : SyncOutcome × Connection Db}

/-- A call that fails does not move its feed back. -/
theorem FailsRecorded.before {times other : FeedTimes} (hfails : FailsRecorded phase r) (now : Int)
    (h : times.Before other) : (times.after now phase r.2).Before other := by
  refine FeedTimes.before_congr ?_ ?_ h
  · unfold FeedTimes.after
    split
    · rfl
    · rename_i hcommits
      split
      · rfl
      · exact absurd hfails hcommits
      · rfl
  · unfold FeedTimes.after
    split
    · rfl
    · split <;> rfl

/-- A feed is at `running` after a statement of such a call only if the call goes on, or if it
was before and the call had not marked it. -/
theorem Stated.running (h : Stated collation today feed db phase r) (hfails : FailsRecorded phase r)
    {row row' : CalendarFeed} (hrow : db.calendarFeeds.find? feed.feedId = some row)
    (hrow' : r.2.committed.calendarFeeds.find? feed.feedId = some row')
    (howned : phase ≠ none → row.propertyId = feed.propertyId) (hrunning : row'.lastSyncStatus = .running) :
    (∃ next, r.1 = .goesOn next ∧ next.holds = true) ∨
      row.lastSyncStatus = .running ∧ phase.any SyncPhase.holds = false := by
  have hsame : r.2.committed = db → row.lastSyncStatus = .running := by
    intro heq
    rw [heq, hrow] at hrow'
    cases hrow'
    exact hrunning
  cases h with
  | found => exact .inr ⟨hsame rfl, rfl⟩
  | notFound => exact .inr ⟨hsame rfl, rfl⟩
  | marked => exact .inl ⟨_, rfl, rfl⟩
  | markUnanswered => cases hfails
  | markRefused => exact .inr ⟨hsame rfl, rfl⟩
  | fetched result => exact .inl ⟨_, rfl, rfl⟩
  | fetchFailed message => exact .inl ⟨_, rfl, rfl⟩
  | ended hend => cases hfails
  | endUnanswered message hend => exact .inl ⟨_, rfl, rfl⟩
  | endFailed message => exact .inl ⟨_, rfl, rfl⟩
  | recorded =>
    -- the failure is recorded in the row
    have hid : row.id = feed.feedId := Table.key_of_find? hrow
    have hfind : (recordSyncError db feed.propertyId feed.feedId _).calendarFeeds.find? feed.feedId = some row' := hrow'
    unfold recordSyncError updateFeed at hfind
    rw [Table.find?_updateWhere, hrow, Option.map_some, hid, howned nofun] at hfind
    simp only [BEq.rfl, Bool.and_self, if_true, Option.some.injEq] at hfind
    rw [← hfind] at hrunning
    cases hrunning
  | recordRefused => exact absurd rfl hfails

/-- Past its first statement, a call is one of the property of its feed. -/
theorem Stated.owned (h : Stated collation today feed db phase r) {next : SyncPhase} (hnext : r.1 = .goesOn next)
    (howned : phase ≠ none → ∀ row, db.calendarFeeds.find? feed.feedId = some row → row.propertyId = feed.propertyId) :
    ∀ row, r.2.committed.calendarFeeds.find? feed.feedId = some row → row.propertyId = feed.propertyId := by
  intro row' hrow'
  obtain ⟨row, hrow, hkept⟩ := h.rows.to_find? hrow'
  rw [hkept.propertyId]
  cases h with
  | found hfound =>
    obtain ⟨hfind, hproperty, -⟩ := getActiveFeed_eq_ok hfound
    rw [hrow] at hfind
    cases hfind
    exact hproperty
  | notFound => cases hnext
  | _ => exact howned nofun row hrow

end

/-! ### Steps -/

namespace FeedSystem

variable {s : FeedSystem} {k limit : Nat} {crowd : List Nat}

/-- A sweep that is full of the crowd does not get to the feed behind it. -/
theorem sweep_passes_over (now : Int) (hcrowd : s.Crowded crowd k) (hfree : ∀ j ∈ crowd, ¬ s.Synchronising j)
    (hnodup : crowd.Nodup) (hmany : limit ≤ crowd.length) : k ∉ (s.dueFeeds now limit).map FeedRef.feedId := by
  rw [dueFeeds_ids]
  intro hmem
  obtain ⟨feed, hfeed, hid⟩ := List.mem_map.mp hmem
  let early : CalendarFeed → Bool := fun f => decide ((s.times f.id).Before (s.times k))
  have hsep : Separates s.feedLe early (s.db.calendarFeeds.select (s.due now)) := by
    intro a _ b _ ha hb
    simp only [early, decide_eq_true_eq, decide_eq_false_iff_not] at ha hb
    simp only [feedLe, Bool.not_eq_false', decide_eq_true_eq]
    by_contra hab
    exact FeedTimes.not_before_trans hb hab ha
  have hsub : crowd ⊆ ((s.db.calendarFeeds.select (s.due now)).filter early).map CalendarFeed.id := by
    intro j hj
    obtain ⟨row, hfind, hactive, hrunning⟩ := hcrowd.ready j hj
    have hrow : row.id = j := Table.key_of_find? hfind
    have hstatus : row.lastSyncStatus ≠ .running := fun h => hfree j hj (hrunning h)
    refine List.mem_map.mpr ⟨row, List.mem_filter.mpr ⟨List.mem_filter.mpr ⟨Table.mem_of_find? hfind, ?_⟩, ?_⟩, hrow⟩
    · simp [due, hactive, hstatus]
    · simpa [early, hrow] using hcrowd.before j hj
  have hlength := (hnodup.subperm hsub).length_le
  rw [List.length_map] at hlength
  obtain ⟨-, hearly⟩ := pick_of_le s.feedLe_trans s.feedLe_total hsep (hmany.trans hlength)
  have hbefore := hearly feed hfeed
  simp only [early, hid, decide_eq_true_eq] at hbefore
  exact FeedTimes.before_irrefl _ hbefore

/-- A loop that starts is in no call. -/
theorem Crowded.start (h : s.Crowded crowd k) {worker : Nat} (hnone : s.workers worker = none) (sweep : Bool)
    {feeds : List FeedRef} (hpassed : k ∉ feeds.map FeedRef.feedId) :
    (s.setWorker worker (some (.start sweep feeds))).Crowded crowd k where
  behind := h.behind
  passed i w hw := by
    simp only [setWorker] at hw
    split at hw
    · cases hw
      exact hpassed
    · exact h.passed i w hw
  before := h.before
  ready j hj := by
    obtain ⟨row, hfind, hactive, hrunning⟩ := h.ready j hj
    refine ⟨row, hfind, hactive, fun hstatus => ?_⟩
    obtain ⟨i, w, feed, hw, hhead⟩ := hrunning hstatus
    refine ⟨i, w, feed, (if_neg fun heq => ?_).trans hw, hhead⟩
    rw [heq, hnone] at hw
    cases hw
  owned i w feed hw hhead hj hphase := by
    simp only [setWorker] at hw
    split at hw
    · cases hw
      exact absurd rfl hphase
    · exact h.owned i w feed hw hhead hj hphase

/-- A statement of a call. -/
theorem Crowded.advance (h : s.Crowded crowd k) {i : Nat} {w : SyncWorker} {feed : FeedRef} {rest : List FeedRef}
    {today now : Int} {r : SyncOutcome × Connection Db} (hworker : s.workers i = some w) (hleft : w.left = feed :: rest)
    (hstated : Stated collation today feed s.db w.phase r) (hfails : feed.feedId ∈ crowd → FailsRecorded w.phase r) :
    ((s.commitCall feed now w.phase r.2).setWorker i (some (w.after r.1))).Crowded crowd k ∧
      ((s.commitCall feed now w.phase r.2).setWorker i (some (w.after r.1))).times k = s.times k := by
  have hhead : w.left.head? = some feed := by rw [hleft]; rfl
  have hne : k ≠ feed.feedId := by
    rintro rfl
    exact h.passed i w hworker (by rw [hleft]; exact List.mem_cons_self)
  have htimesk : ((s.commitCall feed now w.phase r.2).setWorker i (some (w.after r.1))).times k = s.times k :=
    if_neg hne
  refine ⟨⟨?_, ?_, ?_, ?_, ?_⟩, htimesk⟩
  · obtain ⟨row, hrow⟩ := h.behind
    obtain ⟨row', hrow', -⟩ := hstated.rows.of_find? hrow
    exact ⟨row', hrow'⟩
  · intro i' w' hw' hk
    simp only [setWorker] at hw'
    split at hw'
    · cases hw'
      obtain ⟨ref, href, heq⟩ := List.mem_map.mp hk
      exact h.passed i w hworker (List.mem_map.mpr ⟨ref, w.left_after_subset _ href, heq⟩)
    · exact h.passed i' w' hw' hk
  · intro j hj
    rw [htimesk]
    change (if j = feed.feedId then (s.times j).after now w.phase r.2 else s.times j).Before (s.times k)
    split
    · rename_i hthis
      exact (hfails (hthis ▸ hj)).before now (h.before j hj)
    · exact h.before j hj
  · intro j hj
    obtain ⟨row, hfind, hactive, hrunning⟩ := h.ready j hj
    obtain ⟨row', hfind', hkept⟩ := hstated.rows.of_find? hfind
    refine ⟨row', hfind', hkept.isActive.trans hactive, fun hstatus => ?_⟩
    -- another loop's call goes on as it was
    have hothers : s.Synchronising j → (∀ feed', w.left.head? = some feed' → feed'.feedId = j →
        w.phase.any SyncPhase.holds = false) →
        ((s.commitCall feed now w.phase r.2).setWorker i (some (w.after r.1))).Synchronising j := by
      rintro ⟨i', w', feed', hw', hhead', hid, hholds⟩ hnot
      refine ⟨i', w', feed', (if_neg fun heq => ?_).trans hw', hhead', hid, hholds⟩
      rw [heq, hworker] at hw'
      cases hw'
      rw [hnot feed' hhead' hid] at hholds
      cases hholds
    by_cases hthis : j = feed.feedId
    · subst hthis
      have howned : w.phase ≠ none → row.propertyId = feed.propertyId :=
        fun hphase => h.owned i w feed hworker hhead hj hphase row hfind
      rcases hstated.running (hfails hj) hfind hfind' howned hstatus with ⟨next, hnext, hholds⟩ | ⟨hbefore, hnot⟩
      · rw [hnext]
        exact ⟨i, _, feed, if_pos rfl, hhead, rfl, hholds⟩
      · exact hothers (hrunning hbefore) fun _ _ _ => hnot
    · have hsame : row' = row := hkept.others fun hid => hthis ((Table.key_of_find? hfind).symm.trans hid)
      rw [hsame] at hstatus
      refine hothers (hrunning hstatus) fun feed' hhead' hid => ?_
      rw [hhead] at hhead'
      cases hhead'
      exact absurd hid.symm hthis
  · intro i' w' feed' hw' hhead' hj hphase row' hrow'
    simp only [setWorker] at hw'
    split at hw'
    · cases hw'
      cases hnext : r.1 with
      | goesOn next =>
        rw [hnext] at hhead'
        cases hhead.symm.trans hhead'
        exact hstated.owned hnext (h.owned i w feed hworker hhead hj) row' hrow'
      | returned =>
        rw [hnext] at hphase
        exact absurd rfl hphase
      | threw =>
        rw [hnext] at hphase
        exact absurd rfl hphase
    · obtain ⟨row, hrow, hkept⟩ := hstated.rows.to_find? hrow'
      rw [hkept.propertyId]
      exact h.owned i' w' feed' hw' hhead' hj hphase row hrow

theorem Crowded.crash (h : s.Crowded crowd k) {i : Nat}
    (hfree : ∀ w feed, s.workers i = some w → w.left.head? = some feed → feed.feedId ∈ crowd →
      w.phase.any SyncPhase.holds = false) : (s.setWorker i none).Crowded crowd k := by
  have hold : ∀ i' w', (s.setWorker i none).workers i' = some w' → s.workers i' = some w' := by
    intro i' w' hw'
    simp only [setWorker] at hw'
    split at hw'
    · cases hw'
    · exact hw'
  refine ⟨h.behind, fun i' w' hw' => h.passed i' w' (hold i' w' hw'), h.before, fun j hj => ?_,
    fun i' w' feed hw' => h.owned i' w' feed (hold i' w' hw')⟩
  obtain ⟨row, hfind, hactive, hrunning⟩ := h.ready j hj
  refine ⟨row, hfind, hactive, fun hstatus => ?_⟩
  obtain ⟨i', w, feed, hw, hhead, hid, hholds⟩ := hrunning hstatus
  refine ⟨i', w, feed, (if_neg fun heq => ?_).trans hw, hhead, hid, hholds⟩
  rw [hfree w feed (heq ▸ hw) hhead (hid.symm ▸ hj)] at hholds
  cases hholds

theorem Crowded.transaction (h : s.Crowded crowd k) (now : Int) {t : Tx}
    (hstops : ∀ j ∈ k :: crowd, t.stopsFeed j = false) :
    (s.transaction now t).Crowded crowd k ∧ (s.transaction now t).times k = s.times k := by
  obtain ⟨feed, hfind⟩ := h.behind
  obtain ⟨feed', hfind', -, -, -, htimes⟩ := s.transaction_feed now hfind (hstops k List.mem_cons_self)
  have hworkers := s.transaction_workers now t
  refine ⟨⟨⟨feed', hfind'⟩, ?_, fun j hj => ?_, fun j hj => ?_, ?_⟩, htimes⟩
  · rw [hworkers]
    exact h.passed
  · obtain ⟨row, hrow, -⟩ := h.ready j hj
    obtain ⟨-, -, -, -, -, htimesj⟩ := s.transaction_feed now hrow (hstops j (List.mem_cons_of_mem _ hj))
    rw [htimes, htimesj]
    exact h.before j hj
  · obtain ⟨row, hrow, hactive, hrunning⟩ := h.ready j hj
    obtain ⟨row', hrow', hstatus', -, hactive', -⟩ := s.transaction_feed now hrow (hstops j (List.mem_cons_of_mem _ hj))
    refine ⟨row', hrow', hactive' hactive, fun hstatus => ?_⟩
    unfold Synchronising
    rw [hworkers]
    exact hrunning (hstatus' ▸ hstatus)
  · intro i w ref hw hhead hj hphase row' hrow'
    rw [hworkers] at hw
    obtain ⟨row, hrow, -⟩ := h.ready ref.feedId hj
    obtain ⟨row₂, hrow₂, -, hproperty, -, -⟩ := s.transaction_feed now hrow (hstops _ (List.mem_cons_of_mem _ hj))
    cases hrow₂.symm.trans hrow'
    rw [hproperty]
    exact h.owned i w ref hw hhead hj hphase row hrow

theorem step_crowded {l : FeedLabel} (hcrowd : s.Crowded crowd k) (hnodup : crowd.Nodup)
    (hmany : limit ≤ crowd.length) (hfails : s.Fails collation urls crowd k limit l) :
    (s.step collation urls l).Crowded crowd k ∧ (s.step collation urls l).times k = s.times k := by
  cases l with
  | startSweep worker limit' now =>
    obtain ⟨rfl, hfree⟩ := hfails
    simp only [step]
    split
    · rename_i hnone
      exact ⟨hcrowd.start hnone true (sweep_passes_over now hcrowd hfree hnodup hmany), rfl⟩
    · exact ⟨hcrowd, rfl⟩
  | startSync worker propertyId j =>
    simp only [step]
    split
    · rename_i hnone
      refine ⟨hcrowd.start hnone false fun hmem => hfails ?_, rfl⟩
      exact (List.mem_singleton.mp hmem).symm
    · exact ⟨hcrowd, rfl⟩
  | advance i meets =>
    by_cases hrun : ∃ w feed rest, s.workers i = some w ∧ w.left = feed :: rest
    · obtain ⟨w, feed, rest, hworker, hleft⟩ := hrun
      rw [step_advance meets hworker hleft]
      exact hcrowd.advance hworker hleft (nextSyncStatement_stated collation urls meets feed w.phase s.db)
        (hfails w feed hworker (by rw [hleft]; rfl))
    · rw [step_advance_idle meets fun w feed rest hworker hleft => hrun ⟨w, feed, rest, hworker, hleft⟩]
      exact ⟨hcrowd, rfl⟩
  | crash i => exact ⟨hcrowd.crash hfails, rfl⟩
  | transaction now t => exact hcrowd.transaction now hfails

end FeedSystem

/-- Behind `limit` feeds that keep failing, no sweep ever gets to a feed: no loop has it on its
list, and its times stay as they are. -/
theorem failingFeeds_starve (collation : Collation) (urls : UrlParser) (crowd : List Nat) (k limit : Nat)
    (s : FeedSystem) (ls : List FeedLabel) (hnodup : crowd.Nodup) (hmany : limit ≤ crowd.length)
    (hcrowd : s.Crowded crowd k)
    (hfails : Guarded (FeedSystem.step collation urls) (FeedSystem.Fails collation urls crowd k limit) s ls) :
    (run (FeedSystem.step collation urls) s ls).times k = s.times k ∧
      ∀ i w, (run (FeedSystem.step collation urls) s ls).workers i = some w → k ∉ w.left.map FeedRef.feedId := by
  have hrun := run_invariant (I := fun s' : FeedSystem => s'.Crowded crowd k ∧ s'.times k = s.times k)
    (fun s' l h hl => by
      obtain ⟨hcrowd', htimes⟩ := FeedSystem.step_crowded h.1 hnodup hmany hl
      exact ⟨hcrowd', htimes.trans h.2⟩) ⟨hcrowd, rfl⟩ hfails
  exact ⟨hrun.2, hrun.1.passed⟩

/-! ### Two feeds, and room for one -/

def secondFeed : CalendarFeed := feedRow 1 (js "Third site") (js "https://calendar.example/2.ics") 2

/-- Two feeds of the property: the first has never succeeded, the second has. -/
def twoFeedSystem : FeedSystem :=
  ⟨Tx.exec sampleFeedDb (.createCalendarFeed 1 secondFeed.name secondFeed.feedUrl),
    fun k => ⟨none, if k = 1 then none else some 5, 0⟩, fun _ => none⟩

/-- The host of the first answers with no calendar. -/
def failing (now : Int) : SyncMeets := ⟨pageNetwork, .allDone, 0, now⟩

/-- A sweep, and the five statements of its one call. -/
def failingSweep : List FeedLabel :=
  [.startSweep 0 1 10, .advance 0 (failing 11), .advance 0 (failing 12), .advance 0 (failing 13),
    .advance 0 (failing 14), .advance 0 (failing 15)]

theorem twoFeedSystem_crowded : twoFeedSystem.Crowded [1] 2 where
  behind := ⟨secondFeed, by rfl⟩
  passed i w hw := by cases hw
  before j hj := by
    cases List.mem_singleton.mp hj
    decide
  ready j hj := by
    cases List.mem_singleton.mp hj
    exact ⟨firstFeed, by rfl, rfl, nofun⟩
  owned i w feed hw := by cases hw

theorem twoFeedSystem_start :
    twoFeedSystem.step sampleCollation sampleUrls (.startSweep 0 1 10) =
      twoFeedSystem.setWorker 0 (some (.start true [⟨1, 1⟩])) := by
  have hselected : twoFeedSystem.db.calendarFeeds.select (twoFeedSystem.due 10) = [firstFeed, secondFeed] := by rfl
  have hdue : twoFeedSystem.dueFeeds 10 1 = [⟨1, 1⟩] := by
    unfold FeedSystem.dueFeeds pick
    rw [hselected, List.mergeSort_of_pairwise (by decide)]
    rfl
  show twoFeedSystem.setWorker 0 (some (.start true (twoFeedSystem.dueFeeds 10 1))) = _
  rw [hdue]

instance (phase : Option SyncPhase) (r : SyncOutcome × Connection Db) : Decidable (FailsRecorded phase r) := by
  unfold FailsRecorded
  split <;> infer_instance

theorem fails_of_first {s : FeedSystem} {w : SyncWorker} {meets : SyncMeets} (hworker : s.workers 0 = some w)
    (hhead : w.left.head? = some ⟨1, 1⟩)
    (hfails : FailsRecorded w.phase (nextSyncStatement sampleCollation sampleUrls meets ⟨1, 1⟩ w.phase s.db)) :
    s.Fails sampleCollation sampleUrls [1] 2 1 (.advance 0 meets) := by
  intro w' feed hw' hhead' _
  cases hworker.symm.trans hw'
  cases hhead.symm.trans hhead'
  exact hfails

/-- A sweep with room for one feed passes over the second. -/
theorem secondFeed_starves :
    (run (FeedSystem.step sampleCollation sampleUrls) twoFeedSystem failingSweep).times 2 = twoFeedSystem.times 2 ∧
      ∀ i w, (run (FeedSystem.step sampleCollation sampleUrls) twoFeedSystem failingSweep).workers i = some w →
        2 ∉ w.left.map FeedRef.feedId := by
  refine failingFeeds_starve sampleCollation sampleUrls [1] 2 1 twoFeedSystem failingSweep (by decide) le_rfl
    twoFeedSystem_crowded ⟨⟨rfl, ?_⟩, ?_⟩
  · rintro j - ⟨i, w, feed, hw, -⟩
    cases hw
  · rw [twoFeedSystem_start]
    let counts : SyncSweepCounts := ⟨1, 0, 0⟩
    let fetched : CalendarFetchResult := .modified (js "not found") (some (js "2")) none
    refine ⟨?_, ?_, ?_, ?_, ?_, trivial⟩
    · exact fails_of_first (w := ⟨true, [⟨1, 1⟩], none, counts⟩) (by decide +kernel) rfl (by decide +kernel)
    · exact fails_of_first (w := ⟨true, [⟨1, 1⟩], some (.read firstFeed), counts⟩) (by decide +kernel) rfl
        (by decide +kernel)
    · exact fails_of_first (w := ⟨true, [⟨1, 1⟩], some (.running firstFeed), counts⟩) (by decide +kernel) rfl
        (by decide +kernel)
    · exact fails_of_first (w := ⟨true, [⟨1, 1⟩], some (.fetched firstFeed fetched), counts⟩) (by decide +kernel) rfl
        (by decide +kernel)
    · exact fails_of_first
        (w := ⟨true, [⟨1, 1⟩], some (.failed (js "Calendar could not be synchronised")), counts⟩) (by decide +kernel)
        rfl (by decide +kernel)

end HostPlatform
