-- SUMMARY: The calendar behind a published link: read back, it covers exactly the nights of the property that are taken.
import HostPlatform.Calendar.ExportSize
import HostPlatform.Calendar.PublishedCalendar
import HostPlatform.Safety.ExportTokens
import HostPlatform.Safety.FeedFairness
import HostPlatform.Safety.DateGroups
import HostPlatform.Safety.SettledCalendar

/-!
# What a published calendar says

From the rows of the calendar over the grouped ranges and the folded lines to the events
a parser reads: nothing is lost on the way, and the file is one that HOST itself accepts.
-/

namespace HostPlatform

open Lib (CivilDate JsString Table js)
open Lib.JsString
open Lib.Transition

/-! ## Texts -/

theorem compactDate_iso (d : CivilDate) : compactDate d.iso = d.compact := by
  have hdigits : ∀ u ∈ d.compact, (u != hyphen) = true := by
    intro u hu
    have hdigit := d.isDigit_compact u hu
    rw [bne_iff_ne]
    rintro rfl
    exact absurd hdigit (by decide)
  unfold CivilDate.compact at hdigits ⊢
  simp only [List.mem_append, or_imp, forall_and] at hdigits
  obtain ⟨⟨hyear, hmonth⟩, hday⟩ := hdigits
  unfold compactDate CivilDate.iso
  simp only [List.filter_append, List.filter_eq_self.mpr hyear, List.filter_eq_self.mpr hmonth,
    List.filter_eq_self.mpr hday]
  rfl

/-- On real dates the file is the one of their ranges. -/
theorem buildTextCalendar_texts (now : Instant) (propertyId propertyName : JsString) (ranges : List DateRange) :
    buildTextCalendar now propertyId propertyName (ranges.map DateRange.texts) =
      buildCalendar now propertyId propertyName ranges := by
  have hlines : ∀ range : DateRange, textEventLines now propertyId range.texts = eventLines now propertyId range := by
    intro range
    simp only [textEventLines, eventLines, eventUid, DateRange.texts, compactDate_iso]
  unfold buildTextCalendar buildCalendar calendarLines
  rw [List.flatMap_map]
  simp only [hlines]

/-! ## Ranges -/

theorem length_groupFrom_le {start previous : JsString} {dates : List JsString} {ranges : List TextRange}
    (h : groupFrom start previous dates = some ranges) : ranges.length ≤ dates.length + 1 := by
  induction dates generalizing start previous ranges with
  | nil =>
    obtain ⟨after, -, rfl⟩ := Option.map_eq_some_iff.mp h
    exact le_rfl
  | cons date dates ih =>
    obtain ⟨after, -, h⟩ := Option.bind_eq_some_iff.mp h
    split at h
    · exact (ih h).trans (Nat.le_succ _)
    · obtain ⟨later, hlater, h⟩ := Option.bind_eq_some_iff.mp h
      cases h
      exact Nat.succ_le_succ (ih hlater)

/-- The ranges of the rows of the query. -/
theorem groupConsecutiveDates_rows {dates : List CivilDate} (hordered : dates.Pairwise (· < ·))
    (hyear : ∀ d ∈ dates, d.year ≤ 9998) :
    ∃ ranges, groupConsecutiveDates (dates.map CivilDate.iso) = some (ranges.map DateRange.texts) ∧
      Separated ranges ∧ (∀ d, (∃ range ∈ ranges, range.Covers d) ↔ d ∈ dates) ∧ ranges.length ≤ dates.length := by
  obtain ⟨sorted, hsorted, hpairwise, hmem⟩ := sortedDates_iso dates
  have hlength : sorted.length = dates.length := by
    refine ((List.perm_ext_iff_of_nodup ?_ ?_).mpr hmem).length_eq
    · exact hpairwise.imp fun h => h.ne
    · exact hordered.imp fun h => h.ne
  unfold groupConsecutiveDates
  rw [hsorted]
  cases sorted with
  | nil => exact ⟨[], rfl, by simp [Separated], fun d => by simp [← hmem], Nat.zero_le _⟩
  | cons first later =>
    have hyear' : ∀ d ∈ first :: later, d.year ≤ 9998 := fun d hd => hyear d ((hmem d).mp hd)
    obtain ⟨ranges, heq, hgroups⟩ := groupFrom_exact hyear' hpairwise le_rfl
    refine ⟨ranges, heq, hgroups.separated, fun d => ?_, ?_⟩
    · rw [hgroups.covers, ← hmem, List.mem_cons, and_comm, ← le_antisymm_iff]
    · have hle := length_groupFrom_le heq
      rwa [List.length_map, List.length_map, ← List.length_cons (a := first), hlength] at hle

/-! ## Reading the file -/

/-- What a host can make HOST publish: a name as the listing form takes it, in one line. -/
structure Publishable (propertyId propertyName : JsString) (ranges : List DateRange) : Prop where
  uuid : isUuid propertyId = true
  oneLine : cr ∉ propertyName
  length : propertyName.length ≤ 200
  separated : Separated ranges
  count : ranges.length ≤ maxIcalEvents

section

variable {propertyId propertyName : JsString} {ranges : List DateRange}

theorem Publishable.size (h : Publishable propertyId propertyName ranges) (now : Instant) :
    utf8Length (buildCalendar now propertyId propertyName ranges) ≤ maxIcalBytes := by
  have hbound := utf8Length_buildCalendar_le h.uuid now propertyName ranges
  have hlength := h.length
  have hcount := h.count
  unfold maxIcalEvents at hcount
  unfold maxIcalBytes
  omega

/-- The parser reads one event for each range, and nothing else. -/
theorem parse_buildCalendar (collation : Collation) (now : Instant) (h : Publishable propertyId propertyName ranges) :
    parseICalendar collation (buildCalendar now propertyId propertyName ranges) =
      .ok (ranges.map (exportedEvent propertyId)) := by
  obtain ⟨events, hname, hnothing⟩ := nameAddsNothing_of_no_cr propertyId h.oneLine ranges
  have hperm := setAll_perm (keysNodup_name hname) hnothing h.separated
  have hlength : (setAll propertyId events ranges).length ≤ maxIcalEvents := by
    rw [hperm.length_eq, List.length_map]
    exact h.count
  have hend : readLines ⟨setAll propertyId events ranges, none⟩ [js "END:VCALENDAR", []] =
      .ok ⟨setAll propertyId events ranges, none⟩ := by rfl
  rw [parseICalendar_eq collation now h.uuid propertyName ranges (h.size now)]
  simp only [hname, Lib.ok_bind, readLines_ranges h.uuid h.separated.1 now _ hlength]
  rw [hend]
  simp only [Lib.ok_bind, Lib.require_of, mergeSort_exported collation h.separated hperm]
  rfl

end

/-- The response to a link: the file of the ranges of the rows. -/
theorem getCalendar_eq {s : PublishedDb} {now : Instant} {dates : PropertyId → List CivilDate} {token : JsString}
    {row : CalendarExportRow} (htoken : isUuid token = true) (hrow : findExport s.exports token = some row)
    (hproperty : (s.db.properties.find? row.propertyId).isSome) {ranges : List DateRange}
    (hranges : groupConsecutiveDates ((dates row.propertyId).map CivilDate.iso) = some (ranges.map DateRange.texts)) :
    getCalendar s now dates token =
      .calendar (js "HOST-" ++ (s.texts row.propertyId).propertyId ++ js ".ics")
        (buildCalendar now (s.texts row.propertyId).propertyId (s.texts row.propertyId).propertyName ranges) := by
  have hfound : (some row).filter (fun r => (s.db.properties.find? r.propertyId).isSome) = some row := by
    simp [Option.filter, hproperty]
  unfold getCalendar generateCalendarExport
  rw [if_pos htoken, hrow, hfound]
  simp only [hranges, buildTextCalendar_texts]

/-! ## From the calendar to the events -/

/-- The link `token` leads to a property of which these are the rows. -/
structure PublishedDb.Linked (s : PublishedDb) (token : JsString) (row : CalendarExportRow) (today : Int)
    (dates : PropertyId → List CivilDate) : Prop where
  wellFormed : isUuid token = true
  found : findExport s.exports token = some row
  property : (s.db.properties.find? row.propertyId).isSome
  uuid : isUuid (s.texts row.propertyId).propertyId = true
  rows : AvailabilityRows s.db row.propertyId today (dates row.propertyId)

/-- The name and the rows stay within what a calendar line, a date and the parser can take. -/
structure Printable (propertyName : JsString) (dates : List CivilDate) : Prop where
  oneLine : cr ∉ propertyName
  length : propertyName.length ≤ 200
  year : ∀ d ∈ dates, d.year ≤ 9998
  count : dates.length ≤ maxIcalEvents

/-- The body of the response, and the ranges it is made of. -/
theorem PublishedDb.Linked.calendar {s : PublishedDb} {token : JsString} {row : CalendarExportRow} {today : Int}
    {dates : PropertyId → List CivilDate} (h : s.Linked token row today dates)
    (hprintable : Printable (s.texts row.propertyId).propertyName (dates row.propertyId)) (now : Instant) :
    ∃ ranges, Publishable (s.texts row.propertyId).propertyId (s.texts row.propertyId).propertyName ranges ∧
      (∀ d, (∃ range ∈ ranges, range.Covers d) ↔ d ∈ dates row.propertyId) ∧
      getCalendar s now dates token =
        .calendar (js "HOST-" ++ (s.texts row.propertyId).propertyId ++ js ".ics")
          (buildCalendar now (s.texts row.propertyId).propertyId (s.texts row.propertyId).propertyName ranges) := by
  obtain ⟨ranges, hranges, hseparated, hcovers, hlength⟩ := groupConsecutiveDates_rows h.rows.ordered hprintable.year
  exact ⟨ranges, ⟨h.uuid, hprintable.oneLine, hprintable.length, hseparated, hlength.trans hprintable.count⟩, hcovers,
    getCalendar_eq h.wellFormed h.found h.property hranges⟩

/-- After every run, the calendar behind a link, of a property with a name in one line, reads back
as separate ranges that cover, of the days from today on, exactly those a host or a booking holds
or an active feed covers. -/
theorem publishedCalendar_exact (collation : Collation) (now : Instant) {db : Db} (hdb : db.EmptyCalendar)
    {today : Int} {txs : List Tx} (htxs : ∀ t ∈ txs, t.UpTo today) (exports : Table CalendarExportRow)
    (texts : PropertyId → ExportPropertyRow) {token : JsString} {row : CalendarExportRow}
    {dates : PropertyId → List CivilDate}
    (hlinked : PublishedDb.Linked ⟨run Tx.issue db txs, exports, texts⟩ token row today dates)
    (hprintable : Printable (texts row.propertyId).propertyName (dates row.propertyId)) :
    ∃ fileName body events,
      getCalendar ⟨run Tx.issue db txs, exports, texts⟩ now dates token = .calendar fileName body ∧
      parseICalendar collation body = .ok events ∧ Separated (events.map ImportedEvent.range) ∧
      ∀ d : CivilDate, (∃ event ∈ events, event.range.Covers d) ↔ today ≤ d.toDays ∧
        ((run Tx.issue db txs).HeldAt row.propertyId d.toDays ∨
          (run Tx.issue db txs).Covers row.propertyId d.toDays) := by
  obtain ⟨ranges, hpublishable, hcovers, hresponse⟩ := hlinked.calendar hprintable now
  have hsettled := settled_run hdb htxs
  refine ⟨_, _, _, hresponse, parse_buildCalendar collation now hpublishable, ?_, fun d => ?_⟩
  · rw [List.map_map]
    exact (List.map_id ranges).symm ▸ hpublishable.separated
  · have hevents : (∃ event ∈ ranges.map (exportedEvent (texts row.propertyId).propertyId), event.range.Covers d) ↔
        ∃ range ∈ ranges, range.Covers d := by
      simp only [List.mem_map, exists_exists_and_eq_and]
      exact Iff.rfl
    rw [hevents, hcovers, hlinked.rows.mem_iff]
    exact and_congr_right fun hd => hsettled.unavailable_iff hd

/-! ## Importing it again -/

/-- A night of the property is covered by an active feed other than this one. -/
def Db.CoversBesides (db : Db) (feedId : Nat) (p : PropertyId) (d : Int) : Prop :=
  ∃ event ∈ db.calendarEvents, event.feedId ≠ feedId ∧ ∃ feed, db.calendarFeeds.find? event.feedId = some feed ∧
    feed.propertyId = p ∧ feed.isActive = true ∧ event.startsOn ≤ d ∧ d < event.endsOn

theorem covers_without_feed {db : Db} {feedId : Nat} {p : PropertyId} {d : Int} :
    Db.Covers { db with calendarEvents := db.calendarEvents.filter fun e => e.feedId != feedId } p d ↔
      db.CoversBesides feedId p d := by
  constructor
  · rintro ⟨event, hevent, hfeed⟩
    obtain ⟨hmem, hne⟩ := List.mem_filter.mp hevent
    exact ⟨event, hmem, by simpa using hne, hfeed⟩
  · rintro ⟨event, hmem, hne, hfeed⟩
    exact ⟨event, List.mem_filter.mpr ⟨hmem, by simpa using hne⟩, hfeed⟩

theorem importedEvents_published (collation : Collation) (now : Instant) {propertyId propertyName : JsString}
    {ranges : List DateRange} (h : Publishable propertyId propertyName ranges) :
    importedEvents collation (buildCalendar now propertyId propertyName ranges) = .ok [] := by
  have hnone : (ranges.map (exportedEvent propertyId)).filter (fun event => !isHostCalendarEvent event) = [] := by
    refine List.filter_eq_nil_iff.mpr fun event hevent => ?_
    obtain ⟨range, -, rfl⟩ := List.mem_map.mp hevent
    rw [isHost_exportedEvent h.uuid]
    decide
  unfold importedEvents
  rw [parse_buildCalendar collation now h, Lib.ok_bind, hnone]
  rfl

/-- A feed without events of its own leaves the nights that are taken without it. -/
theorem replaceFeedEvents_nil {db : Db} (h : db.NoOpenRow) (today : Int) (p : PropertyId) (feedId : Nat)
    (etag lastModified : Option JsString) :
    ∃ count db',
      replaceFeedEvents (markSyncRunning db p feedId) today p feedId [] etag lastModified = .ok (count, db') ∧
      ∀ d, today ≤ d → (db'.Unavailable p d ↔ db.HeldAt p d ∨ db.CoversBesides feedId p d) := by
  have hrows : eventRows (markSyncRunning db p feedId) feedId [] = .ok [] := by simp [eventRows, Lib.require_of]; rfl
  refine ⟨_, _, by unfold replaceFeedEvents; rw [hrows]; rfl, fun d hd => ?_⟩
  let emptied : Db := { db with calendarEvents := db.calendarEvents.filter fun e => e.feedId != feedId }
  have hopen : (markSyncRunning emptied p feedId).NoOpenRow := h
  have hcovers : (markSyncRunning emptied p feedId).Covers p d ↔ db.CoversBesides feedId p d := by
    unfold markSyncRunning
    refine (updateFeed_covers_iff ?_ ?_).trans covers_without_feed
    · exact fun _ => rfl
    · exact fun _ => rfl
  have hiff := reconcile_unavailable_iff hopen (p := p) hd
  rw [hcovers] at hiff
  refine Iff.trans ?_ hiff
  simp only [List.append_nil]
  exact Iff.rfl

/-- A feed that serves what HOST publishes, for a property with a name in one line, imports
nothing: the nights of the property are those taken without it. -/
theorem publishedCalendar_not_imported (collation : Collation) (urls : UrlParser) (net : Network) (now : Instant)
    (s : PublishedDb) {token : JsString} {row : CalendarExportRow} {exportDay : Int}
    {dates : PropertyId → List CivilDate} (hlinked : s.Linked token row exportDay dates)
    (hprintable : Printable (s.texts row.propertyId).propertyName (dates row.propertyId))
    {fileName body : JsString} (hbody : getCalendar s now dates token = .calendar fileName body)
    {db : Db} (hdb : db.NoOpenRow) (today : Int) {propertyId : PropertyId} {feedId : Nat} {feed : CalendarFeed}
    (hfeed : getActiveFeed db propertyId feedId = .ok feed) {etag lastModified : Option JsString}
    (hfetched : (fetchCalendar urls net feed.feedUrl (fetchOptions feed)).result =
      .ok (.modified body etag lastModified)) :
    ∃ count c, (syncCalendarFeed collation urls net .allDone today propertyId feedId).exec (.idle db) =
        (.ok ⟨feedId, false, 0, count⟩, c) ∧
      ∀ d, today ≤ d → (c.committed.Unavailable propertyId d ↔
        db.HeldAt propertyId d ∨ db.CoversBesides feedId propertyId d) := by
  obtain ⟨ranges, hpublishable, -, hresponse⟩ := hlinked.calendar hprintable now
  rw [hresponse] at hbody
  cases hbody
  obtain ⟨hfind, -, -⟩ := getActiveFeed_eq_ok hfeed
  have hid : feed.id = feedId := Table.key_of_find? hfind
  obtain ⟨count, db', hreplaced, htaken⟩ := replaceFeedEvents_nil hdb today propertyId feedId etag lastModified
  have hend : endSync collation today propertyId feed.id (.modified (buildCalendar now
      (s.texts row.propertyId).propertyId (s.texts row.propertyId).propertyName ranges) etag lastModified)
      (markSyncRunning db propertyId feedId) = .ok (⟨feedId, false, 0, count⟩, db') := by
    simp only [endSync, importedEvents_published collation now hpublishable, Except.mapError, Lib.ok_bind, hid,
      hreplaced]
    rfl
  obtain ⟨hresult, hcommitted⟩ := wp_syncCalendarFeed_done hfeed hfetched hend
  refine ⟨count, _, Prod.ext hresult rfl, ?_⟩
  rw [hcommitted]
  exact htaken

/-! ## A host blocks two nights -/

def blockedNights : List Tx := [.mutateAvailability 0 1 10 12 .block]

def firstNight : CivilDate := ⟨1970, 1, 11, by decide⟩

def secondNight : CivilDate := ⟨1970, 1, 12, by decide⟩

def linkedDb : PublishedDb :=
  ⟨run Tx.issue sampleDb blockedNights, run (ExportLabel.step sampleDb) .empty [.getOrCreate 1 samplePropertyId],
    fun _ => ⟨samplePropertyId, js "Flat 1"⟩⟩

theorem blockedNights_rows : AvailabilityRows linkedDb.db 1 0 [firstNight, secondNight] where
  ordered := by decide
  mem_iff d := by
    have hrow : linkedDb.db.availability 1 d.toDays =
        reconcileDate false (if 1 = 1 ∧ 10 ≤ d.toDays ∧ d.toDays < 12 then mutateDate .block none else none) := rfl
    have hfirst : d.toDays = 10 ↔ d = firstNight :=
      CivilDate.toDays_strictMono.injective.eq_iff' (by decide)
    have hsecond : d.toDays = 11 ↔ d = secondNight :=
      CivilDate.toDays_strictMono.injective.eq_iff' (by decide)
    rw [hrow, List.mem_cons, List.mem_singleton, ← hfirst, ← hsecond]
    by_cases hd : 10 ≤ d.toDays ∧ d.toDays < 12
    · rw [if_pos ⟨rfl, hd⟩]
      refine iff_of_true (by omega) ⟨by omega, ⟨.blocked, .host⟩, rfl, by decide⟩
    · rw [if_neg fun h => hd h.2]
      refine iff_of_false (by omega) ?_
      rintro ⟨-, row, hnone, -⟩
      cases hnone

theorem linkedDb_linked :
    linkedDb.Linked samplePropertyId ⟨1, samplePropertyId⟩ 0 fun _ => [firstNight, secondNight] where
  wellFormed := by decide
  found := by decide
  property := by decide
  uuid := by decide
  rows := blockedNights_rows

theorem blockedNights_printable : Printable (js "Flat 1") [firstNight, secondNight] where
  oneLine := by decide
  length := by decide
  year := by decide
  count := by decide

/-- The two nights are published as one event. -/
theorem blockedNights_published : ∃ fileName body events,
    getCalendar linkedDb sampleInstant (fun _ => [firstNight, secondNight]) samplePropertyId =
      .calendar fileName body ∧
    parseICalendar sampleCollation body = .ok events ∧ Separated (events.map ImportedEvent.range) ∧
    ∀ d : CivilDate, (∃ event ∈ events, event.range.Covers d) ↔ 0 ≤ d.toDays ∧
      (linkedDb.db.HeldAt 1 d.toDays ∨ linkedDb.db.Covers 1 d.toDays) := by
  have htxs : ∀ t ∈ blockedNights, t.UpTo 0 := by
    intro t ht day hday
    cases List.mem_singleton.mp ht
    cases hday
    exact le_rfl
  exact publishedCalendar_exact sampleCollation sampleInstant sampleDb_empty htxs linkedDb.exports linkedDb.texts
    linkedDb_linked blockedNights_printable

/-- The site that serves the published calendar. -/
def publishedNetwork : Network :=
  { pageNetwork with
    respond := fun _ _ => some
      { status := 200
        etag := none
        lastModified := none
        location := none
        contentType := some (js "text/calendar; charset=utf-8")
        contentLength := none
        body := .bytes 500
          (buildCalendar sampleInstant samplePropertyId (js "Flat 1") [⟨firstNight, ⟨1970, 1, 13, by decide⟩⟩]) } }

theorem blockedNights_not_imported :
    ∃ count c, (syncCalendarFeed sampleCollation sampleUrls publishedNetwork .allDone 0 1 1).exec (.idle sampleFeedDb) =
        (.ok ⟨1, false, 0, count⟩, c) ∧
      ∀ d, 0 ≤ d → (c.committed.Unavailable 1 d ↔ sampleFeedDb.HeldAt 1 d ∨ sampleFeedDb.CoversBesides 1 1 d) := by
  have hopen : sampleFeedDb.NoOpenRow := fun p d row hrow => by cases hrow
  have hgroups : groupConsecutiveDates ([firstNight, secondNight].map CivilDate.iso) =
      some ([⟨firstNight, ⟨1970, 1, 13, by decide⟩⟩].map DateRange.texts) := by
    have hsorted : sortedDates ([firstNight, secondNight].map CivilDate.iso) =
        [firstNight, secondNight].map CivilDate.iso := by
      unfold sortedDates
      have hdups : ([firstNight, secondNight].map CivilDate.iso).eraseDups =
          [firstNight, secondNight].map CivilDate.iso := by decide
      rw [hdups, List.mergeSort_of_pairwise (by decide)]
    unfold groupConsecutiveDates
    rw [hsorted]
    decide +kernel
  have hbody : getCalendar linkedDb sampleInstant (fun _ => [firstNight, secondNight]) samplePropertyId =
      .calendar (js "HOST-" ++ samplePropertyId ++ js ".ics")
        (buildCalendar sampleInstant samplePropertyId (js "Flat 1") [⟨firstNight, ⟨1970, 1, 13, by decide⟩⟩]) :=
    getCalendar_eq linkedDb_linked.wellFormed linkedDb_linked.found linkedDb_linked.property hgroups
  have hfeed : getActiveFeed sampleFeedDb 1 1 = .ok firstFeed := by rfl
  have hfetched : (fetchCalendar sampleUrls publishedNetwork firstFeed.feedUrl (fetchOptions firstFeed)).result =
      .ok (.modified (buildCalendar sampleInstant samplePropertyId (js "Flat 1")
        [⟨firstNight, ⟨1970, 1, 13, by decide⟩⟩]) none none) := by rfl
  exact publishedCalendar_not_imported sampleCollation sampleUrls publishedNetwork sampleInstant linkedDb
    linkedDb_linked blockedNights_printable hbody hopen 0 hfeed hfetched

end HostPlatform
