-- SUMMARY: Reading back an exported calendar gives its ranges, exactly if the property's name adds nothing to the file.
import HostPlatform.Calendar.ExportedEvents
import HostPlatform.Calendar.SyncCalendarFeed

/-!
# Export, then import

A name is escaped before it is written, but a carriage return that no line feed follows
is left as it is, and the parser takes it for a line break. What follows it is read as
lines of the file.
-/

namespace HostPlatform

open Lib (CivilDate JsString js)
open Lib.JsString

/-! ## What is claimed -/

/-- The ranges are not empty, sorted, disjoint and not adjacent. -/
def Separated (ranges : List DateRange) : Prop :=
  (∀ range ∈ ranges, range.startsOn < range.endsOn) ∧ ranges.Pairwise fun r r' => r.endsOn < r'.startsOn

def ImportedEvent.range (event : ImportedEvent) : DateRange := ⟨event.startsOn, event.endsOn⟩

/-- The exported calendar is read back as its ranges, and as nothing to import. -/
def ReadsBack (collation : Collation) (now : Instant) (propertyId propertyName : JsString)
    (ranges : List DateRange) : Prop :=
  ∃ events, parseICalendar collation (buildCalendar now propertyId propertyName ranges) = .ok events ∧
    events.map ImportedEvent.range = ranges ∧ ∀ event ∈ events, isHostCalendarEvent event = true

/-- The lines of the name, read alone, leave no event open and give no event but under
the UIDs of the ranges. -/
def NameAddsNothing (propertyId propertyName : JsString) (ranges : List DateRange) : Prop :=
  ∃ events, readLines .start (asRead (nameLine propertyName)) = .ok ⟨events, none⟩ ∧
    ∀ event ∈ events, ∃ range ∈ ranges, event.eventKey = eventUid propertyId range

/-! ## Events by key -/

def KeysNodup (events : List ImportedEvent) : Prop := (events.map ImportedEvent.eventKey).Nodup

section

variable {events : List ImportedEvent} {event e : ImportedEvent}

theorem mem_setEvent : e ∈ setEvent events event ↔ e = event ∨ (e ∈ events ∧ e.eventKey ≠ event.eventKey) := by
  unfold setEvent
  split
  · rename_i hany
    obtain ⟨old, hold, hkey⟩ := List.any_eq_true.mp hany
    rw [List.mem_map]
    constructor
    · rintro ⟨e', he', rfl⟩
      split
      · exact .inl rfl
      · rename_i hne
        exact .inr ⟨he', hne⟩
    · rintro (rfl | ⟨he, hne⟩)
      · exact ⟨old, hold, if_pos (beq_iff_eq.mp hkey)⟩
      · exact ⟨e, he, if_neg hne⟩
  · rename_i hany
    rw [List.mem_append, List.mem_singleton]
    refine ⟨fun h => h.symm.imp_right fun he => ⟨he, fun hkey => hany ?_⟩, fun h => (h.imp_right And.left).symm⟩
    exact List.any_eq_true.mpr ⟨e, he, beq_iff_eq.mpr hkey⟩

theorem KeysNodup.setEvent (h : KeysNodup events) (event : ImportedEvent) :
    KeysNodup (HostPlatform.setEvent events event) := by
  unfold KeysNodup HostPlatform.setEvent
  split
  · have hkeys : (events.map fun e => if e.eventKey = event.eventKey then event else e).map
        ImportedEvent.eventKey = events.map ImportedEvent.eventKey := by
      rw [List.map_map]
      refine List.map_congr_left fun e _ => ?_
      simp only [Function.comp]
      split
      · rename_i hkey
        exact hkey.symm
      · rfl
    rw [hkeys]
    exact h
  · rename_i hany
    rw [List.map_append, List.map_singleton]
    refine List.nodup_append.mpr ⟨h, List.nodup_singleton _, fun key hkey key' hkey' heq => hany ?_⟩
    obtain ⟨e, he, rfl⟩ := List.mem_map.mp hkey
    rw [List.mem_singleton] at hkey'
    exact List.any_eq_true.mpr ⟨e, he, beq_iff_eq.mpr (heq.trans hkey')⟩

theorem KeysNodup.nodup (h : KeysNodup events) : events.Nodup := List.Nodup.of_map _ h

theorem length_le_setEvent (events : List ImportedEvent) (event : ImportedEvent) :
    events.length ≤ (setEvent events event).length := by
  unfold setEvent
  split
  · rw [List.length_map]
  · rw [List.length_append]
    exact Nat.le_add_right _ _

end

/-- The events after the blocks of the ranges. -/
def setAll (propertyId : JsString) (events : List ImportedEvent) (ranges : List DateRange) :
    List ImportedEvent :=
  ranges.foldl (fun events range => setEvent events (exportedEvent propertyId range)) events

section

variable {propertyId : JsString} {events : List ImportedEvent} {ranges : List DateRange} {e : ImportedEvent}

theorem KeysNodup.setAll (h : KeysNodup events) (propertyId : JsString) (ranges : List DateRange) :
    KeysNodup (setAll propertyId events ranges) := by
  induction ranges generalizing events with
  | nil => exact h
  | cons range ranges ih => exact ih (h.setEvent _)

theorem length_le_setAll (propertyId : JsString) (events : List ImportedEvent) (ranges : List DateRange) :
    events.length ≤ (setAll propertyId events ranges).length := by
  induction ranges generalizing events with
  | nil => exact le_rfl
  | cons range ranges ih => exact (length_le_setEvent events _).trans (ih _)

theorem mem_setAll_cases (h : e ∈ setAll propertyId events ranges) :
    (∃ range ∈ ranges, e = exportedEvent propertyId range) ∨
      e ∈ events ∧ ∀ range ∈ ranges, e.eventKey ≠ eventUid propertyId range := by
  induction ranges generalizing events with
  | nil => exact .inr ⟨h, nofun⟩
  | cons range ranges ih =>
    rcases ih h with ⟨range', hrange', heq⟩ | ⟨hmem, hother⟩
    · exact .inl ⟨range', List.mem_cons_of_mem _ hrange', heq⟩
    · rcases mem_setEvent.mp hmem with heq | ⟨hold, hne⟩
      · exact .inl ⟨range, List.mem_cons_self, heq⟩
      · exact .inr ⟨hold, List.forall_mem_cons.mpr ⟨hne, hother⟩⟩

/-- An event that no range overwrites stays. -/
theorem mem_setAll_of_mem (h : e ∈ events)
    (hsame : ∀ range ∈ ranges, e.eventKey = eventUid propertyId range → e = exportedEvent propertyId range) :
    e ∈ setAll propertyId events ranges := by
  induction ranges generalizing events with
  | nil => exact h
  | cons range ranges ih =>
    refine ih (mem_setEvent.mpr ?_) fun range' hrange' => hsame range' (List.mem_cons_of_mem _ hrange')
    by_cases hkey : e.eventKey = eventUid propertyId range
    · exact .inl (hsame range List.mem_cons_self hkey)
    · exact .inr ⟨h, hkey⟩

/-- Different ranges have different UIDs. -/
theorem eventUid_injective (propertyId : JsString) : Function.Injective (eventUid propertyId) := by
  intro r r' h
  unfold eventUid at h
  have hends := List.append_inj_left h (by simp only [List.length_append, CivilDate.length_iso])
  have hstarts := List.append_inj_left hends (by simp only [List.length_append, CivilDate.length_iso])
  have hend : r.endsOn.iso = r'.endsOn.iso :=
    List.append_inj_right hends (by simp only [List.length_append, CivilDate.length_iso])
  have hstart : r.startsOn.iso = r'.startsOn.iso :=
    List.append_inj_right (List.append_inj_left hstarts
      (by simp only [List.length_append, CivilDate.length_iso])) (by simp only [List.length_append])
  obtain ⟨startsOn, endsOn⟩ := r
  obtain ⟨startsOn', endsOn'⟩ := r'
  rw [DateRange.mk.injEq]
  exact ⟨CivilDate.iso_injective hstart, CivilDate.iso_injective hend⟩

theorem exportedEvent_mem_setAll (propertyId : JsString) (events : List ImportedEvent) {range : DateRange}
    (h : range ∈ ranges) : exportedEvent propertyId range ∈ setAll propertyId events ranges := by
  induction ranges generalizing events with
  | nil => cases h
  | cons first ranges ih =>
    show _ ∈ setAll propertyId (setEvent events (exportedEvent propertyId first)) ranges
    rcases List.mem_cons.mp h with rfl | h
    · refine mem_setAll_of_mem (mem_setEvent.mpr (.inl rfl)) fun range' _ hkey => ?_
      rw [eventUid_injective propertyId hkey]
    · exact ih _ h

end

/-! ## The lines of the file -/

theorem isContentLine_calendarLines (now : Instant) (propertyId propertyName : JsString)
    (ranges : List DateRange) : ∀ line ∈ calendarLines now propertyId propertyName ranges, IsContentLine line := by
  intro line hline
  unfold calendarLines at hline
  simp only [List.mem_append, List.mem_singleton, List.mem_flatMap] at hline
  rcases hline with ((hline | rfl) | ⟨range, -, hline⟩) | rfl
  · have hheader : ∀ line ∈ headerLines, IsContentLine line := by
      unfold IsContentLine
      decide
    exact hheader line hline
  · exact rfl
  · unfold eventLines at hline
    simp only [List.mem_cons, List.not_mem_nil, or_false] at hline
    rcases hline with rfl | rfl | rfl | rfl | rfl | rfl | rfl | rfl | rfl
    all_goals exact rfl
  · exact rfl

/-- All lines but those of the name are read as they were written. -/
theorem unfoldLines_buildCalendar (now : Instant) {propertyId : JsString} (h : isUuid propertyId = true)
    (propertyName : JsString) (ranges : List DateRange) :
    unfoldLines (buildCalendar now propertyId propertyName ranges) =
      headerLines ++ (asRead (nameLine propertyName) ++
        (ranges.flatMap (eventLines now propertyId) ++ [js "END:VCALENDAR", []])) := by
  have hcontent := isContentLine_calendarLines now propertyId propertyName ranges
  have hread : ∀ lines : List JsString, (∀ line ∈ lines, NoBreak line ∧ isContinuation line = false) →
      lines.flatMap asRead = lines := by
    intro lines hlines
    rw [List.flatMap_congr fun line hline => asRead_of_noBreak (hlines line hline).1 (hlines line hline).2]
    exact List.flatMap_singleton' _
  have hheader : headerLines.flatMap asRead = headerLines :=
    hread _ (by unfold NoBreak; decide)
  have hend : asRead (js "END:VCALENDAR") = [js "END:VCALENDAR"] := by decide
  have hevents : (ranges.flatMap (eventLines now propertyId)).flatMap asRead =
      ranges.flatMap (eventLines now propertyId) := by
    refine hread _ fun line hline => ?_
    obtain ⟨range, hrange, hmem⟩ := List.mem_flatMap.mp hline
    refine ⟨(solid_eventLines h range now line hmem).noBreak, (hcontent line ?_).isContinuation⟩
    unfold calendarLines
    exact List.mem_append_left _ (List.mem_append_right _ hline)
  have hne : calendarLines now propertyId propertyName ranges ≠ [] :=
    List.append_ne_nil_of_right_ne_nil _ (List.cons_ne_nil _ _)
  unfold buildCalendar
  rw [unfoldLines_joined hne hcontent]
  unfold calendarLines
  simp only [List.flatMap_append, List.flatMap_cons, List.flatMap_nil, List.append_nil, hheader, hevents, hend,
    List.append_assoc, List.cons_append, List.nil_append]

/-! ## Reading the file -/

section

variable {propertyId : JsString} (h : isUuid propertyId = true) {ranges : List DateRange}
  (hranges : ∀ range ∈ ranges, range.startsOn < range.endsOn)

include h hranges

theorem readLines_ranges (now : Instant) {events : List ImportedEvent} (lines : List JsString)
    (hcount : (setAll propertyId events ranges).length ≤ maxIcalEvents) :
    readLines ⟨events, none⟩ (ranges.flatMap (eventLines now propertyId) ++ lines) =
      readLines ⟨setAll propertyId events ranges, none⟩ lines := by
  induction ranges generalizing events with
  | nil => rfl
  | cons range ranges ih =>
    obtain ⟨hrange, hranges⟩ := List.forall_mem_cons.mp hranges
    have hnow : (setEvent events (exportedEvent propertyId range)).length ≤ maxIcalEvents :=
      (length_le_setAll propertyId _ ranges).trans hcount
    rw [List.flatMap_cons, List.append_assoc, readLines_eventLines h hrange, Lib.require_of hnow]
    exact ih hranges hcount

theorem readLines_ranges_ok {now : Instant} {events : List ImportedEvent} {lines : List JsString}
    {state : ParserState}
    (hok : readLines ⟨events, none⟩ (ranges.flatMap (eventLines now propertyId) ++ lines) = .ok state) :
    readLines ⟨setAll propertyId events ranges, none⟩ lines = .ok state := by
  induction ranges generalizing events with
  | nil => exact hok
  | cons range ranges ih =>
    obtain ⟨hrange, hranges⟩ := List.forall_mem_cons.mp hranges
    rw [List.flatMap_cons, List.append_assoc, readLines_eventLines h hrange] at hok
    obtain ⟨_, -, hok⟩ := Lib.bind_eq_ok.mp hok
    exact ih hranges hok

end

/-- An event the name leaves open is never closed. -/
theorem readLines_pending {now : Instant} {propertyId : JsString} {ranges : List DateRange}
    {events : List ImportedEvent} {pending : PendingEvent} {state : ParserState}
    (hok : readLines ⟨events, some pending⟩
      (ranges.flatMap (eventLines now propertyId) ++ [js "END:VCALENDAR", []]) = .ok state) :
    state.pending ≠ none := by
  cases ranges with
  | nil =>
    have hread : readLines ⟨events, some pending⟩ [js "END:VCALENDAR", []] = .ok ⟨events, some pending⟩ := by rfl
    rw [List.flatMap_nil, List.nil_append, hread] at hok
    cases hok
    exact Option.some_ne_none _
  | cons range ranges =>
    -- the block of the first range begins inside the open event
    have hbegin : readLine ⟨events, some pending⟩ (js "BEGIN:VEVENT") =
        .error ⟨js "Nested calendar events are invalid"⟩ := by rfl
    have hread : (readLine ⟨events, some pending⟩ (js "BEGIN:VEVENT") >>= fun state =>
        readLines state _) = .ok state := hok
    rw [hbegin] at hread
    cases hread

theorem KeysNodup.readLine {state state' : ParserState} {line : JsString} (h : KeysNodup state.events)
    (hok : readLine state line = .ok state') : KeysNodup state'.events := by
  unfold HostPlatform.readLine at hok
  split at hok
  · split at hok
    · cases hok
    · cases hok
      exact h
  · split at hok
    · split at hok
      · cases hok
      · rename_i pending _
        unfold endEvent at hok
        obtain ⟨completed, -, hok⟩ := Lib.bind_eq_ok.mp hok
        split at hok
        · cases hok
          exact h
        · obtain ⟨_, -, hok⟩ := Lib.bind_eq_ok.mp hok
          cases hok
          exact h.setEvent _
    · split at hok
      · cases hok
        exact h
      · obtain ⟨pending, -, hok⟩ := Lib.bind_eq_ok.mp hok
        cases hok
        exact h

theorem KeysNodup.readLines {state state' : ParserState} {lines : List JsString} (h : KeysNodup state.events)
    (hok : readLines state lines = .ok state') : KeysNodup state'.events := by
  induction lines generalizing state with
  | nil =>
    cases hok
    exact h
  | cons line lines ih =>
    obtain ⟨next, hnext, hok⟩ := Lib.bind_eq_ok.mp hok
    exact ih (h.readLine hnext) hok

/-- What is left to do after the lines of the header. -/
theorem parseICalendar_eq (collation : Collation) (now : Instant) {propertyId : JsString}
    (h : isUuid propertyId = true) (propertyName : JsString) (ranges : List DateRange)
    (hsize : utf8Length (buildCalendar now propertyId propertyName ranges) ≤ maxIcalBytes) :
    parseICalendar collation (buildCalendar now propertyId propertyName ranges) = (do
      let named ← readLines .start (asRead (nameLine propertyName))
      let state ← readLines named (ranges.flatMap (eventLines now propertyId) ++ [js "END:VCALENDAR", []])
      Lib.require (state.pending = none) ⟨js "Calendar event is missing END:VEVENT"⟩
      return state.events.mergeSort (eventLe collation)) := by
  have hcalendar : (headerLines ++ (asRead (nameLine propertyName) ++
      (ranges.flatMap (eventLines now propertyId) ++ [js "END:VCALENDAR", []]))).any
        (fun line => Lib.JsString.toUpperCase (Lib.JsString.trim line) == js "BEGIN:VCALENDAR") = true := by
    rw [List.any_append]
    have hheader : headerLines.any (fun line => Lib.JsString.toUpperCase (Lib.JsString.trim line) == js "BEGIN:VCALENDAR") = true := by
      decide
    rw [hheader, Bool.true_or]
  have hstart : readLines .start headerLines = .ok .start := by rfl
  unfold parseICalendar
  dsimp only
  rw [Lib.require_of hsize, unfoldLines_buildCalendar now h, Lib.require_of hcalendar]
  simp only [Lib.ok_bind, readLines_append, hstart, bind_assoc]

/-! ## Order -/

theorem eventLe_iff {collation : Collation} {a b : ImportedEvent} :
    eventLe collation a b = true ↔ a.startsOn < b.startsOn ∨
      a.startsOn = b.startsOn ∧ (collation.localeCompare a.eventKey b.eventKey).isLE = true := by
  unfold eventLe
  split
  · rename_i heq
    rw [heq]
    exact ⟨fun h => .inr ⟨rfl, h⟩, fun h => (h.resolve_left (lt_irrefl _)).2⟩
  · rename_i hne
    rw [decide_eq_true_eq]
    exact ⟨.inl, fun h => h.resolve_right fun h => hne h.1⟩

theorem eventLe_total (collation : Collation) (a b : ImportedEvent) :
    (eventLe collation a b || eventLe collation b a) = true := by
  rw [Bool.or_eq_true, eventLe_iff, eventLe_iff]
  rcases lt_trichotomy a.startsOn b.startsOn with hlt | heq | hgt
  · exact .inl (.inl hlt)
  · rcases collation.total a.eventKey b.eventKey with hle | hge
    · exact .inl (.inr ⟨heq, hle⟩)
    · exact .inr (.inr ⟨heq.symm, hge⟩)
  · exact .inr (.inl hgt)

theorem eventLe_trans (collation : Collation) (a b c : ImportedEvent) (hab : eventLe collation a b = true)
    (hbc : eventLe collation b c = true) : eventLe collation a c = true := by
  rw [eventLe_iff] at hab hbc ⊢
  rcases hab with hab | ⟨hab, hkey⟩
  · rcases hbc with hbc | ⟨hbc, -⟩
    · exact .inl (hab.trans hbc)
    · exact .inl (hbc ▸ hab)
  · rw [hab]
    exact hbc.imp_right fun ⟨heq, hkey'⟩ => ⟨heq, collation.trans _ _ _ hkey hkey'⟩

/-- The ranges are in the order of their first nights. -/
theorem Separated.pairwise_lt {ranges : List DateRange} (h : Separated ranges) :
    ranges.Pairwise fun r r' => r.startsOn < r'.startsOn :=
  h.2.imp_of_mem fun hr _ hlt => (h.1 _ hr).trans hlt

theorem Separated.nodup_startsOn {ranges : List DateRange} (h : Separated ranges) :
    (ranges.map DateRange.startsOn).Nodup :=
  List.pairwise_map.mpr (h.pairwise_lt.imp fun hlt => ne_of_lt hlt)

theorem Separated.nodup {ranges : List DateRange} (h : Separated ranges) (propertyId : JsString) :
    (ranges.map (exportedEvent propertyId)).Nodup := by
  refine List.Nodup.map (fun r r' heq => ?_) (List.Nodup.of_map _ h.nodup_startsOn)
  exact eventUid_injective propertyId (congrArg ImportedEvent.eventKey heq)

/-- Whatever order they were read in, the events of the ranges are sorted as the ranges. -/
theorem mergeSort_exported (collation : Collation) {propertyId : JsString} {ranges : List DateRange}
    (h : Separated ranges) {events : List ImportedEvent}
    (hperm : events.Perm (ranges.map (exportedEvent propertyId))) :
    events.mergeSort (eventLe collation) = ranges.map (exportedEvent propertyId) := by
  have hsorted : (ranges.map (exportedEvent propertyId)).Pairwise fun a b => eventLe collation a b = true := by
    refine List.pairwise_map.mpr (h.pairwise_lt.imp fun {r r'} hlt => ?_)
    have hlt' : (exportedEvent propertyId r).startsOn < (exportedEvent propertyId r').startsOn := hlt
    exact eventLe_iff.mpr (.inl hlt')
  have hmerged := List.pairwise_mergeSort (eventLe_trans collation) (eventLe_total collation) events
  have hperm' := (List.mergeSort_perm events (eventLe collation)).trans hperm
  refine hperm'.eq_of_pairwise (fun a b ha hb hab hba => ?_) hmerged hsorted
  obtain ⟨r, hr, rfl⟩ := List.mem_map.mp (hperm'.subset ha)
  obtain ⟨r', hr', rfl⟩ := List.mem_map.mp hb
  -- ranges with one first night are one range
  have heq : r.startsOn = r'.startsOn := by
    have hle : (exportedEvent propertyId r).startsOn ≤ (exportedEvent propertyId r').startsOn :=
      (eventLe_iff.mp hab).elim le_of_lt fun h => h.1.le
    have hge : (exportedEvent propertyId r').startsOn ≤ (exportedEvent propertyId r).startsOn :=
      (eventLe_iff.mp hba).elim le_of_lt fun h => h.1.le
    exact le_antisymm hle hge
  rw [List.inj_on_of_nodup_map h.nodup_startsOn hr hr' heq]

theorem isHost_exportedEvent {propertyId : JsString} (h : isUuid propertyId = true) (range : DateRange) :
    isHostCalendarEvent (exportedEvent propertyId range) = true := by
  have hdomain : Lib.JsString.toLowerCase (js "@hostcityliving.com") = js "@hostcityliving.com" := by decide
  have htrim : Lib.JsString.trim (eventUid propertyId range) = eventUid propertyId range :=
    trim_of_all (solid_eventUid h range).isSpace
  unfold isHostCalendarEvent exportedEvent
  dsimp only
  rw [htrim, List.isSuffixOf_iff_suffix]
  unfold eventUid Lib.JsString.toLowerCase
  rw [List.flatMap_append]
  unfold Lib.JsString.toLowerCase at hdomain
  rw [hdomain]
  exact List.suffix_append _ _

/-! ## Round trip -/

section

variable {collation : Collation} {now : Instant} {propertyId propertyName : JsString} {ranges : List DateRange}

theorem keysNodup_name {events : List ImportedEvent} {pending : Option PendingEvent}
    (hname : readLines .start (asRead (nameLine propertyName)) = .ok ⟨events, pending⟩) : KeysNodup events :=
  (show KeysNodup ParserState.start.events from List.nodup_nil).readLines hname

/-- Where the name adds nothing, the events are those of the ranges. -/
theorem setAll_perm {events : List ImportedEvent} (hkeys : KeysNodup events)
    (hnothing : ∀ event ∈ events, ∃ range ∈ ranges, event.eventKey = eventUid propertyId range)
    (hranges : Separated ranges) :
    (setAll propertyId events ranges).Perm (ranges.map (exportedEvent propertyId)) := by
  refine (List.perm_ext_iff_of_nodup (hkeys.setAll propertyId ranges).nodup (hranges.nodup propertyId)).mpr
    fun e => ?_
  rw [List.mem_map]
  constructor
  · intro he
    rcases mem_setAll_cases he with ⟨range, hrange, rfl⟩ | ⟨hold, hother⟩
    · exact ⟨range, hrange, rfl⟩
    · obtain ⟨range, hrange, hkey⟩ := hnothing e hold
      exact absurd hkey (hother range hrange)
  · rintro ⟨range, hrange, rfl⟩
    exact exportedEvent_mem_setAll propertyId events hrange

/-- An event of the name that no range overwrites is one too many. -/
theorem addsNothing_of_length {events : List ImportedEvent} (hranges : Separated ranges)
    (hlength : (setAll propertyId events ranges).length = ranges.length) :
    ∀ event ∈ events, ∃ range ∈ ranges, event.eventKey = eventUid propertyId range := by
  intro event hevent
  by_contra hother
  push Not at hother
  have hmem : event ∈ setAll propertyId events ranges :=
    mem_setAll_of_mem hevent fun range hrange hkey => absurd hkey (hother range hrange)
  have hsub : ranges.map (exportedEvent propertyId) ⊆ setAll propertyId events ranges := by
    intro e he
    obtain ⟨range, hrange, rfl⟩ := List.mem_map.mp he
    exact exportedEvent_mem_setAll propertyId events hrange
  have hperm := ((hranges.nodup propertyId).subperm hsub).perm_of_length_le (by
    rw [hlength, List.length_map])
  obtain ⟨range, hrange, rfl⟩ := List.mem_map.mp (hperm.symm.subset hmem)
  exact hother range hrange rfl

end

/-- Exporting and importing gives the ranges back, and nothing to import, exactly if the
lines of the name add nothing. -/
theorem readsBack_iff (collation : Collation) (now : Instant) (propertyId propertyName : JsString)
    (ranges : List DateRange) (h : isUuid propertyId = true) (hranges : Separated ranges)
    (hcount : ranges.length ≤ maxIcalEvents)
    (hsize : utf8Length (buildCalendar now propertyId propertyName ranges) ≤ maxIcalBytes) :
    ReadsBack collation now propertyId propertyName ranges ↔
      NameAddsNothing propertyId propertyName ranges := by
  unfold ReadsBack
  rw [parseICalendar_eq collation now h propertyName ranges hsize]
  constructor
  · rintro ⟨imported, hok, hpairs, -⟩
    obtain ⟨⟨events, pending⟩, hname, hok⟩ := Lib.bind_eq_ok.mp hok
    obtain ⟨state, hread, hok⟩ := Lib.bind_eq_ok.mp hok
    obtain ⟨_, hclosed, hok⟩ := Lib.bind_eq_ok.mp hok
    cases hok
    have hclosed := Lib.require_eq_ok.mp hclosed
    cases pending with
    | some pending => exact absurd hclosed (readLines_pending hread)
    | none =>
      have hend := readLines_ranges_ok h hranges.1 hread
      cases hend
      refine ⟨events, hname, addsNothing_of_length hranges ?_⟩
      have hlength := congrArg List.length hpairs
      rw [List.length_map, List.length_mergeSort] at hlength
      exact hlength
  · rintro ⟨events, hname, hnothing⟩
    have hperm := setAll_perm (keysNodup_name hname) hnothing hranges
    have hlength : (setAll propertyId events ranges).length ≤ maxIcalEvents := by
      rw [hperm.length_eq, List.length_map]
      exact hcount
    refine ⟨ranges.map (exportedEvent propertyId), ?_, ?_, ?_⟩
    · simp only [hname, Lib.ok_bind, readLines_ranges h hranges.1 now _ hlength]
      have hend : readLines ⟨setAll propertyId events ranges, none⟩ [js "END:VCALENDAR", []] =
          .ok ⟨setAll propertyId events ranges, none⟩ := by rfl
      rw [hend]
      simp only [Lib.ok_bind, Lib.require_of, mergeSort_exported collation hranges hperm]
      rfl
    · rw [List.map_map]
      exact List.map_id _
    · intro event hevent
      obtain ⟨range, -, rfl⟩ := List.mem_map.mp hevent
      exact isHost_exportedEvent h range

/-! ## Names without a carriage return -/

/-- Without a carriage return in it the name is one line of the file. -/
theorem noBreak_nameLine {propertyName : JsString} (h : cr ∉ propertyName) : NoBreak (nameLine propertyName) := by
  have hvalue : cr ∉ replaceUnit backslash [backslash, backslash] (js "HOST - " ++ propertyName) := by
    intro hcr
    rcases mem_replaceUnit.mp hcr with ⟨-, hout⟩ | ⟨hin, -⟩
    · exact absurd hout (by decide)
    · exact (List.mem_append.mp hin).elim (fun h => absurd h (by decide)) h
  have hbreaks : NoBreak (escapeLineBreaks
      (replaceUnit backslash [backslash, backslash] (js "HOST - " ++ propertyName))) := by
    unfold escapeLineBreaks
    rw [replacePairs_of_not_mem isCrLf_first hvalue]
    refine ⟨fun hcr => ?_, fun hlf => ?_⟩
    · exact (mem_replaceUnit.mp hcr).elim (fun h => absurd h.2 (by decide)) fun h => hvalue h.1
    · exact (mem_replaceUnit.mp hlf).elim (fun h => absurd h.2 (by decide)) fun h => h.2 rfl
  have hcomma : NoBreak [backslash, comma] := by unfold NoBreak; decide
  have hsemicolon : NoBreak [backslash, semicolon] := by unfold NoBreak; decide
  have hname : NoBreak (js "X-WR-CALNAME:") := by unfold NoBreak; decide
  exact hname.append (.replaceUnit semicolon hsemicolon (.replaceUnit comma hcomma hbreaks))

/-- Such a name adds nothing, whatever else is in it. -/
theorem nameAddsNothing_of_no_cr (propertyId : JsString) {propertyName : JsString} (h : cr ∉ propertyName)
    (ranges : List DateRange) : NameAddsNothing propertyId propertyName ranges := by
  refine ⟨[], ?_, nofun⟩
  have hcontent : IsContentLine (nameLine propertyName) := rfl
  obtain ⟨hbegin, hend⟩ := marker_ne 88 (by decide) (show (nameLine propertyName).head? = some 88 from rfl)
  have hread : readLine .start (nameLine propertyName) = .ok .start := by
    unfold readLine
    rw [if_neg hbegin, if_neg hend]
    rfl
  rw [asRead_of_noBreak (noBreak_nameLine h) hcontent.isContinuation, readLines_cons _ hread]
  rfl

/-! ## Two names -/

def samplePropertyId : JsString := js "123e4567-e89b-12d3-a456-426614174000"

/-- A noon of 2026. -/
def sampleInstant : Instant := ⟨⟨2026, 4, 1, by decide⟩, 12, 0, 0, 0⟩

/-- One night, and two nights a week later. -/
def sampleRanges : List DateRange :=
  [⟨⟨2026, 5, 1, by decide⟩, ⟨2026, 5, 2, by decide⟩⟩, ⟨⟨2026, 5, 8, by decide⟩, ⟨2026, 5, 10, by decide⟩⟩]

theorem sampleRanges_separated : Separated sampleRanges := by
  unfold Separated
  decide

/-- Separators and backslashes in a name are no harm. -/
theorem escapedName_readsBack :
    ReadsBack sampleCollation sampleInstant samplePropertyId (js "Flat 1, Mill; \\ Lane") sampleRanges := by
  have hsize : utf8Length (buildCalendar sampleInstant samplePropertyId (js "Flat 1, Mill; \\ Lane")
      sampleRanges) ≤ maxIcalBytes := by decide +kernel
  refine (readsBack_iff sampleCollation sampleInstant samplePropertyId (js "Flat 1, Mill; \\ Lane") sampleRanges
    (by decide) sampleRanges_separated (by decide) hsize).mpr ?_
  exact nameAddsNothing_of_no_cr samplePropertyId (by decide) sampleRanges

/-- The name `x`, a carriage return, `BEGIN:VEVENT`: the first exported event begins
inside the one that the name has opened. -/
theorem brokenName_unreadable :
    isUuid samplePropertyId = true ∧ Separated sampleRanges ∧
      utf8Length (buildCalendar sampleInstant samplePropertyId (js "x\rBEGIN:VEVENT") sampleRanges) ≤
        maxIcalBytes ∧
      ¬ ReadsBack sampleCollation sampleInstant samplePropertyId (js "x\rBEGIN:VEVENT") sampleRanges := by
  refine ⟨by decide, sampleRanges_separated, by decide +kernel, ?_⟩
  rintro ⟨events, hok, -⟩
  have herror : (parseICalendar sampleCollation
      (buildCalendar sampleInstant samplePropertyId (js "x\rBEGIN:VEVENT") sampleRanges)).toOption = none := by
    decide +kernel
  rw [hok] at herror
  cases herror

end HostPlatform
