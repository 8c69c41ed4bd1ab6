-- SUMMARY: A component inside an event changes nothing exactly if none of its lines has the name of a property of events.
import HostPlatform.Calendar.JoinedLines
import HostPlatform.Safety.ExactEvents

/-!
# Nested components

The parser has one level of nesting. The lines of a component inside an event are read as
lines of the event, so a component is harmless only if the event has no such properties.
-/

namespace HostPlatform

open Lib (CivilDate JsString js)
open Lib.JsString

/-! ## What is claimed -/

/-- Property lines and components, none of them an event. -/
inductive Nested : List JsString → Prop
  | nil : Nested []
  | property {line : JsString} {rest : List JsString} (hbegin : ¬ js "BEGIN:" <+: marker line)
      (hend : ¬ js "END:" <+: marker line) (hrest : Nested rest) : Nested (line :: rest)
  | component (x : JsString) {first last : JsString} {body rest : List JsString}
      (hfirst : marker first = js "BEGIN:" ++ x) (hlast : marker last = js "END:" ++ x) (hevent : x ≠ js "VEVENT")
      (hbody : Nested body) (hrest : Nested rest) : Nested (first :: (body ++ last :: rest))

/-- One component, from its `BEGIN` to its `END`, written in lines. -/
structure Component (lines : List JsString) : Prop where
  nested : ∃ x first last body, lines = first :: (body ++ [last]) ∧ marker first = js "BEGIN:" ++ x ∧
    marker last = js "END:" ++ x ∧ x ≠ js "VEVENT" ∧ Nested body
  written : ∀ line ∈ lines, IsLogicalLine line

/-- The file with the lines of the component inserted inside an event. -/
structure Inserted (component : List JsString) (source source' : JsString) : Prop where
  lines : ∃ before after, unfoldLines source = before ++ after ∧ unfoldLines source' = before ++ component ++ after ∧
    ∃ earlier first inside, before = earlier ++ first :: inside ∧ isBegin first = true ∧
      ∀ line ∈ inside, isEnd line = false

/-- Wherever it is inserted, the file is accepted as before if it is still small enough. -/
def Unaffected (component : List JsString) : Prop :=
  ∀ collation source source' events, Inserted component source source' →
    parseICalendar collation source = .ok events →
    (parseICalendar collation source' = .ok events ↔ utf8Length source' ≤ maxIcalBytes)

/-- No line has the name of a property the parser reads. -/
def Neutral (component : List JsString) : Prop :=
  ∀ line ∈ component, (contentLine line).1 ∉ propertyNames

instance (component : List JsString) : Decidable (Neutral component) :=
  inferInstanceAs (Decidable (∀ line ∈ component, (contentLine line).1 ∉ propertyNames))

/-! ## Neutral components -/

theorem Nested.no_marker {lines : List JsString} (h : Nested lines) :
    ∀ line ∈ lines, isBegin line = false ∧ isEnd line = false := by
  have hbegin : js "BEGIN:" <+: js "BEGIN:VEVENT" := by decide
  have hend : js "END:" <+: js "END:VEVENT" := by decide
  induction h with
  | nil => exact nofun
  | property hb he _ ih =>
    refine List.forall_mem_cons.mpr ⟨⟨?_, ?_⟩, ih⟩
    · rw [← Bool.not_eq_true, isBegin_iff]
      exact fun heq => hb (heq ▸ hbegin)
    · rw [← Bool.not_eq_true, isEnd_iff]
      exact fun heq => he (heq ▸ hend)
  | component x hfirst hlast hevent _ _ ihbody ihrest =>
    have hb : ∀ {line : JsString}, marker line = js "BEGIN:" ++ x → isBegin line = false ∧ isEnd line = false := by
      intro line hline
      rw [← Bool.not_eq_true, ← Bool.not_eq_true, isBegin_iff, isEnd_iff, hline]
      refine ⟨fun heq => hevent (List.append_cancel_left (heq.trans rfl)), fun heq => ?_⟩
      exact absurd (List.cons.inj heq).1 (by decide)
    have he : ∀ {line : JsString}, marker line = js "END:" ++ x → isBegin line = false ∧ isEnd line = false := by
      intro line hline
      rw [← Bool.not_eq_true, ← Bool.not_eq_true, isBegin_iff, isEnd_iff, hline]
      refine ⟨fun heq => ?_, fun heq => hevent (List.append_cancel_left (heq.trans rfl))⟩
      exact absurd (List.cons.inj heq).1 (by decide)
    exact List.forall_mem_cons.mpr ⟨hb hfirst,
      List.forall_mem_append.mpr ⟨ihbody, List.forall_mem_cons.mpr ⟨he hlast, ihrest⟩⟩⟩

theorem Component.no_marker {lines : List JsString} (h : Component lines) :
    ∀ line ∈ lines, isBegin line = false ∧ isEnd line = false := by
  obtain ⟨x, first, last, body, rfl, hfirst, hlast, hevent, hbody⟩ := h.nested
  exact (Nested.component x hfirst hlast hevent hbody .nil).no_marker

theorem lastValue_eq_none {name : JsString} {block : List JsString} :
    lastValue name block = none ↔ ∀ line ∈ block, (contentLine line).1 ≠ name := by
  simp [lastValue, List.find?_eq_none]

/-- A neutral component says nothing. -/
theorem Neutral.blockPending {component : List JsString} (h : Neutral component) (pending : PendingEvent) :
    blockPending pending component = pending := by
  have hnone : ∀ name ∈ propertyNames, lastValue name component = none := fun name hname =>
    lastValue_eq_none.mpr fun line hline heq => h line hline (heq ▸ hname)
  have hrule : (component.map contentLine).any isRecurrenceRule = false := by
    rw [List.any_eq_false]
    intro content hcontent
    obtain ⟨line, hline, rfl⟩ := List.mem_map.mp hcontent
    have hnot := h line hline
    simp only [propertyNames, List.mem_cons, not_or] at hnot
    simp [isRecurrenceRule, hnot]
  simp only [propertyNames, List.forall_mem_cons] at hnone
  simp [HostPlatform.blockPending, hnone, hrule]

theorem Neutral.datesRead {component : List JsString} (h : Neutral component) : DatesRead component := by
  intro content hcontent hdate
  obtain ⟨line, hline, rfl⟩ := List.mem_map.mp hcontent
  refine absurd ?_ (h line hline)
  rcases hdate with hdate | hdate <;> simp [propertyNames, hdate]

/-- The loop over the lines of a component in an open event. -/
theorem readLines_component {component : List JsString}
    (h : ∀ line ∈ component, isBegin line = false ∧ isEnd line = false) (events : List ImportedEvent)
    (pending : PendingEvent) :
    readLines ⟨events, some pending⟩ component = (do
      let pending ← readBlock pending component
      return ⟨events, some pending⟩) := by
  induction component generalizing pending with
  | nil => rfl
  | cons line component ih =>
    obtain ⟨⟨hbegin, hend⟩, hrest⟩ := List.forall_mem_cons.mp h
    have hcons : ∀ state, readLines state (line :: component) =
        readLine state line >>= fun state => readLines state component := fun _ => rfl
    rw [hcons, readLine_inside hbegin hend]
    simp only [readBlock, List.foldlM_cons, bind_assoc]
    refine bind_congr fun pending' => ?_
    exact ih hrest pending'

theorem readLines_outside {lines : List JsString} (h : ∀ line ∈ lines, isBegin line = false ∧ isEnd line = false)
    (events : List ImportedEvent) : readLines ⟨events, none⟩ lines = .ok ⟨events, none⟩ := by
  induction lines with
  | nil => rfl
  | cons line lines ih =>
    obtain ⟨⟨hbegin, hend⟩, hrest⟩ := List.forall_mem_cons.mp h
    rw [readLines_cons _ (readLine_outside hbegin hend)]
    exact ih hrest

/-- The loop passes over a neutral component. -/
theorem Neutral.readLines {component : List JsString} (hneutral : Neutral component)
    (h : ∀ line ∈ component, isBegin line = false ∧ isEnd line = false) (state : ParserState) :
    readLines state component = .ok state := by
  obtain ⟨events, pending⟩ := state
  cases pending with
  | none => exact readLines_outside h events
  | some pending =>
    rw [readLines_component h, readBlock_eq_ok.mpr ⟨hneutral.datesRead, rfl⟩, hneutral.blockPending]
    rfl

theorem Neutral.unaffected {component : List JsString} (hneutral : Neutral component) (h : Component component) :
    Unaffected component := by
  intro collation source source' events hinserted hparse
  obtain ⟨before, after, hlines, hlines', -⟩ := hinserted.lines
  obtain ⟨-, hcalendar, state, hread, hclosed, hsorted⟩ := parseICalendar_eq_ok.mp hparse
  rw [parseICalendar_eq_ok]
  refine ⟨fun h => h.1, fun hsize => ⟨hsize, ?_, state, ?_, hclosed, hsorted⟩⟩
  · rw [hlines] at hcalendar
    rw [hlines']
    simp only [List.any_append, Bool.or_eq_true] at hcalendar ⊢
    exact hcalendar.imp .inl id
  · rw [hlines, readLines_append] at hread
    rw [hlines', readLines_append, readLines_append, bind_assoc]
    simp only [hneutral.readLines h.no_marker, Lib.ok_bind]
    exact hread

/-! ## Files with one event -/

def oneEventLines (block : List JsString) : List JsString :=
  [js "BEGIN:VCALENDAR", js "BEGIN:VEVENT"] ++ block ++ [js "END:VEVENT"]

/-- The units of the lines, with those of their line breaks. -/
def writtenLength (lines : List JsString) : Nat := (lines.map fun line => line.length + 2).sum

theorem endEvent_first (pending : PendingEvent) :
    endEvent [] pending = finishEvent pending >>= fun result => .ok ⟨result.toList, none⟩ := by
  unfold endEvent
  cases finishEvent pending with
  | error error => rfl
  | ok result => cases result <;> rfl

theorem oneEventLines_ne_nil (block : List JsString) : oneEventLines block ≠ [] :=
  List.append_ne_nil_of_right_ne_nil _ (List.cons_ne_nil _ _)

theorem utf8Length_oneEvent {block : List JsString} (hsize : writtenLength block ≤ 650000) :
    utf8Length (joinedLines (oneEventLines block)) ≤ maxIcalBytes := by
  have hbytes := utf8Length_le (joinedLines (oneEventLines block))
  rw [length_joinedLines (oneEventLines_ne_nil block)] at hbytes
  have hframe : ((oneEventLines block).map fun line => line.length + 2).sum = 43 + writtenLength block := by
    simp only [oneEventLines, writtenLength, List.map_append, List.sum_append]
    simp [js, ofChar]
    omega
  rw [hframe] at hbytes
  unfold maxIcalBytes
  omega

theorem unfoldLines_oneEvent {block : List JsString} (hwritten : ∀ line ∈ block, IsLogicalLine line) :
    unfoldLines (joinedLines (oneEventLines block)) =
      [js "BEGIN:VCALENDAR", js "BEGIN:VEVENT"] ++ (block ++ [js "END:VEVENT", []]) := by
  have hfirst : ∀ line ∈ [js "BEGIN:VCALENDAR", js "BEGIN:VEVENT"], IsLogicalLine line := by
    unfold IsLogicalLine NoBreak
    decide
  have hlast : ∀ line ∈ [js "END:VEVENT"], IsLogicalLine line := by
    unfold IsLogicalLine NoBreak
    decide
  have hlines : ∀ line ∈ oneEventLines block, IsLogicalLine line :=
    List.forall_mem_append.mpr ⟨List.forall_mem_append.mpr ⟨hfirst, hwritten⟩, hlast⟩
  rw [unfoldLines_joinedLines (oneEventLines_ne_nil block) hlines]
  simp [oneEventLines]

/-- A file with one event gives what the block gives. -/
theorem parse_oneEvent {block : List JsString} (hwritten : ∀ line ∈ block, IsLogicalLine line)
    (hmarker : ∀ line ∈ block, isBegin line = false ∧ isEnd line = false) (hsize : writtenLength block ≤ 650000)
    (collation : Collation) (events : List ImportedEvent) :
    parseICalendar collation (joinedLines (oneEventLines block)) = .ok events ↔
      ∃ result, blockResult block = .ok result ∧ events = result.toList := by
  have hlines := unfoldLines_oneEvent hwritten
  have hcalendar : (unfoldLines (joinedLines (oneEventLines block))).any
      (fun line => Lib.JsString.toUpperCase (Lib.JsString.trim line) == js "BEGIN:VCALENDAR") = true := by
    have hheader : (Lib.JsString.toUpperCase (Lib.JsString.trim (js "BEGIN:VCALENDAR")) == js "BEGIN:VCALENDAR") = true := by
      decide
    simp [hlines, hheader]
  have hread : readLines .start (unfoldLines (joinedLines (oneEventLines block))) =
      blockResult block >>= fun result => .ok ⟨result.toList, none⟩ := by
    have hheader : readLines .start [js "BEGIN:VCALENDAR", js "BEGIN:VEVENT"] = .ok ⟨[], some .empty⟩ := by rfl
    have hend : ∀ pending, readLines ⟨[], some pending⟩ [js "END:VEVENT", []] =
        finishEvent pending >>= fun result => .ok ⟨result.toList, none⟩ := by
      intro pending
      have hlast : readLines ⟨[], some pending⟩ [js "END:VEVENT", []] =
          endEvent [] pending >>= fun state => readLines state [[]] := by rfl
      rw [hlast, endEvent_first, bind_assoc]
      rfl
    rw [hlines, readLines_append, hheader, Lib.ok_bind, readLines_append, readLines_component hmarker, blockResult]
    simp only [bind_assoc]
    refine bind_congr fun pending => ?_
    exact hend pending
  rw [parseICalendar_eq_ok, hread]
  simp only [Lib.bind_eq_ok, Except.ok.injEq]
  constructor
  · rintro ⟨-, -, _, ⟨result, hresult, rfl⟩, -, rfl⟩
    exact ⟨result, hresult, by cases result <;> simp⟩
  · rintro ⟨result, hresult, rfl⟩
    exact ⟨utf8Length_oneEvent hsize, hcalendar, _, ⟨result, hresult, rfl⟩, rfl, by cases result <;> simp⟩

/-- What a block gives, it gives with the component too. -/
theorem Unaffected.sameResult {component : List JsString} (hunaffected : Unaffected component) (h : Component component)
    (hfits : writtenLength component ≤ 600000) {block : List JsString} {result : Option ImportedEvent}
    (hwritten : ∀ line ∈ block, IsLogicalLine line)
    (hmarker : ∀ line ∈ block, isBegin line = false ∧ isEnd line = false) (hsize : writtenLength block ≤ 1000)
    (hresult : blockResult block = .ok result) : blockResult (block ++ component) = .ok result := by
  have hwritten' : ∀ line ∈ block ++ component, IsLogicalLine line := List.forall_mem_append.mpr ⟨hwritten, h.written⟩
  have hmarker' : ∀ line ∈ block ++ component, isBegin line = false ∧ isEnd line = false :=
    List.forall_mem_append.mpr ⟨hmarker, h.no_marker⟩
  have hsize' : writtenLength (block ++ component) ≤ 650000 := by
    simp only [writtenLength, List.map_append, List.sum_append] at hfits hsize ⊢
    omega
  have hsmall : writtenLength block ≤ 650000 := hsize.trans (by omega)
  have hinserted : Inserted component (joinedLines (oneEventLines block)) (joinedLines (oneEventLines (block ++ component))) := by
    refine ⟨[js "BEGIN:VCALENDAR", js "BEGIN:VEVENT"] ++ block, [js "END:VEVENT", []], ?_, ?_,
      [js "BEGIN:VCALENDAR"], js "BEGIN:VEVENT", block, rfl, by decide, fun line hline => (hmarker line hline).2⟩
    · rw [unfoldLines_oneEvent hwritten, List.append_assoc]
    · rw [unfoldLines_oneEvent hwritten']
      simp only [List.append_assoc]
  have hparse := (parse_oneEvent hwritten hmarker hsmall sampleCollation result.toList).mpr ⟨result, hresult, rfl⟩
  have hparse' := (hunaffected _ _ _ _ hinserted hparse).mpr (utf8Length_oneEvent hsize')
  obtain ⟨result', hresult', hsame⟩ := (parse_oneEvent hwritten' hmarker' hsize' sampleCollation _).mp hparse'
  obtain rfl : result = result' := by
    cases result <;> cases result' <;> simp_all
  exact hresult'

/-! ## Components that are not neutral -/

def firstEvent : List JsString := [js "UID:a", js "DTSTART:20260101", js "DTEND:20260201", js "SUMMARY:a"]

/-- Every value differs from that of the first event. -/
def secondEvent : List JsString :=
  [js "UID:b", js "RECURRENCE-ID:r", js "DTSTART:20260102", js "DTEND:20260202", js "SUMMARY:b"]

def cancelledEvent : List JsString := firstEvent ++ [js "STATUS:CANCELLED"]

theorem blockResult_firstEvent : blockResult firstEvent =
    .ok (some ⟨js "a", js "a", ⟨2026, 1, 1, by decide⟩, ⟨2026, 2, 1, by decide⟩, some (js "a")⟩) := by decide +kernel

theorem blockResult_secondEvent : blockResult secondEvent =
    .ok (some ⟨js "b::r", js "b", ⟨2026, 1, 2, by decide⟩, ⟨2026, 2, 2, by decide⟩, some (js "b")⟩) := by decide +kernel

theorem blockResult_cancelledEvent : blockResult cancelledEvent = .ok none := by decide +kernel

theorem not_recurring_of_event {block : List JsString} {event : ImportedEvent} (h : blockResult block = .ok (some event)) :
    (block.map contentLine).any isRecurrenceRule = false := by
  obtain ⟨pending, hpending, hfinish⟩ := Lib.bind_eq_ok.mp h
  obtain ⟨-, rfl⟩ := readBlock_eq_ok.mp hpending
  unfold finishEvent at hfinish
  split at hfinish
  · cases hfinish
  · obtain ⟨_, hrecurring, -⟩ := Lib.bind_eq_ok.mp hfinish
    simpa [blockPending, PendingEvent.empty] using Lib.require_eq_ok.mp hrecurring

/-- The value a component sets is the value of the block. -/
theorem lastValue_append_of_some {name value : JsString} {component : List JsString}
    (h : lastValue name component = some value) (block : List JsString) :
    lastValue name (block ++ component) = some value := by
  rw [lastValue_append, h, Option.some_or]

/-- A component does not set a value in which two blocks with it differ. -/
theorem lastValue_eq_none_of_ne {name : JsString} {component : List JsString} (block block' : List JsString)
    (h : lastValue name (block ++ component) ≠ lastValue name (block' ++ component)) : lastValue name component = none := by
  refine Option.eq_none_iff_forall_ne_some.mpr fun value hvalue => h ?_
  rw [lastValue_append_of_some hvalue, lastValue_append_of_some hvalue]

/-- The three blocks give with the component what they give alone. -/
theorem Unaffected.keeps {component : List JsString} (hunaffected : Unaffected component) (h : Component component)
    (hfits : writtenLength component ≤ 600000) {block : List JsString} {result : Option ImportedEvent}
    (hblock : block ∈ [firstEvent, secondEvent, cancelledEvent]) (hresult : blockResult block = .ok result) :
    blockResult (block ++ component) = .ok result := by
  have hwritten : ∀ block ∈ [firstEvent, secondEvent, cancelledEvent], ∀ line ∈ block, IsLogicalLine line := by
    unfold IsLogicalLine NoBreak
    decide +kernel
  have hmarker : ∀ block ∈ [firstEvent, secondEvent, cancelledEvent], ∀ line ∈ block,
      isBegin line = false ∧ isEnd line = false := by decide +kernel
  have hsize : ∀ block ∈ [firstEvent, secondEvent, cancelledEvent], writtenLength block ≤ 1000 := by decide +kernel
  exact hunaffected.sameResult h hfits (hwritten block hblock) (hmarker block hblock) (hsize block hblock) hresult

/-- A component that changes nothing has no line the parser reads: what it sets would be the same in
two events that differ in everything. -/
theorem Unaffected.neutral {component : List JsString} (hunaffected : Unaffected component) (h : Component component)
    (hfits : writtenLength component ≤ 600000) : Neutral component := by
  have hfirst := hunaffected.keeps h hfits (.head _) blockResult_firstEvent
  have hsecond := hunaffected.keeps h hfits (.tail _ (.head _)) blockResult_secondEvent
  have hcancelled := hunaffected.keeps h hfits (.tail _ (.tail _ (.head _))) blockResult_cancelledEvent
  have hrule := not_recurring_of_event hfirst
  obtain ⟨hlive, hof⟩ := live_of_blockResult hfirst
  obtain ⟨-, hof'⟩ := live_of_blockResult hsecond
  have hdead := not_live_of_blockResult hcancelled
  have huid : lastValue (js "UID") component = none := by
    refine lastValue_eq_none_of_ne firstEvent secondEvent fun hsame => ?_
    have hboth : blockUid (firstEvent ++ component) = blockUid (secondEvent ++ component) := by
      rw [blockUid, blockUid, hsame]
    rw [← hof.uid, ← hof'.uid] at hboth
    exact absurd hboth (by decide)
  have hrecurrence : lastValue (js "RECURRENCE-ID") component = none := by
    refine lastValue_eq_none_of_ne firstEvent secondEvent fun hsame => ?_
    have hkey := hof.key
    have hkey' := hof'.key
    unfold blockKey at hkey hkey'
    rw [← hof.uid, hsame] at hkey
    rw [← hof'.uid] at hkey'
    dsimp only at hkey hkey'
    split at hkey
    · rename_i hnil
      rw [if_pos hnil] at hkey'
      exact absurd hkey' (by decide)
    · -- the key of the first event is its uid
      have hlength := congrArg List.length hkey
      simp [js, ofChar] at hlength
  have hstart : lastValue (js "DTSTART") component = none := by
    refine lastValue_eq_none_of_ne firstEvent secondEvent fun hsame => ?_
    have hboth := hof.startsOn.symm.trans ((congrArg (·.bind readDate?) hsame).trans hof'.startsOn)
    exact absurd hboth (by decide)
  have hend : lastValue (js "DTEND") component = none := by
    refine lastValue_eq_none_of_ne firstEvent secondEvent fun hsame => ?_
    have hboth := hof.endsOn.symm.trans ((congrArg (·.bind readDate?) hsame).trans hof'.endsOn)
    exact absurd hboth (by decide)
  have hsummary : lastValue (js "SUMMARY") component = none := by
    refine lastValue_eq_none_of_ne firstEvent secondEvent fun hsame => ?_
    have hboth : blockSummary (firstEvent ++ component) = blockSummary (secondEvent ++ component) := by
      rw [blockSummary, blockSummary, hsame]
    have hread := hof.summary
    rw [hboth, ← hof'.summary] at hread
    exact absurd hread (by decide)
  have hstatus : lastValue (js "STATUS") component = none := by
    refine lastValue_eq_none_of_ne firstEvent cancelledEvent fun hsame => hdead ?_
    unfold IsLive at hlive ⊢
    rw [← hsame]
    exact hlive
  intro line hline hname
  simp only [propertyNames, List.mem_cons, List.not_mem_nil, or_false] at hname
  rw [lastValue_eq_none] at huid hrecurrence hstart hend hsummary hstatus
  rw [List.map_append, List.any_append, Bool.or_eq_false_iff, List.any_eq_false (l := component.map contentLine)] at hrule
  have hrule' := hrule.2 _ (List.mem_map_of_mem hline)
  simp only [isRecurrenceRule, decide_eq_true_eq, not_or] at hrule'
  rcases hname with hname | hname | hname | hname | hname | hname | hname | hname
  · exact huid line hline hname
  · exact hrecurrence line hline hname
  · exact hstart line hline hname
  · exact hend line hline hname
  · exact hsummary line hline hname
  · exact hstatus line hline hname
  · exact hrule'.1 hname
  · exact hrule'.2 hname

/-- A component changes nothing if its lines are neutral, and of those a file has room for no other. -/
theorem unaffected_iff {component : List JsString} (h : Component component) :
    (Neutral component → Unaffected component) ∧
    (writtenLength component ≤ 600000 → Unaffected component → Neutral component) :=
  ⟨fun hneutral => hneutral.unaffected h, fun hfits hunaffected => hunaffected.neutral h hfits⟩

def reminder : List JsString := [js "BEGIN:VALARM", js "TRIGGER:-PT1H", js "END:VALARM"]

theorem component_reminder : Component reminder := by
  refine ⟨⟨js "VALARM", js "BEGIN:VALARM", js "END:VALARM", [js "TRIGGER:-PT1H"], rfl, by decide, by decide, by decide,
    .property (by decide +kernel) (by decide +kernel) .nil⟩, ?_⟩
  unfold IsLogicalLine NoBreak
  decide

theorem reminder_unaffected : Unaffected reminder := (unaffected_iff component_reminder).1 (by decide +kernel)

def alarm : List JsString := [js "BEGIN:VALARM", js "UID:y", js "END:VALARM"]

/-- The UID of an alarm becomes that of its event. -/
theorem alarm_overwrites : Component alarm ∧ ¬ Unaffected alarm ∧
    blockResult (firstEvent ++ alarm) =
      .ok (some ⟨js "y", js "y", ⟨2026, 1, 1, by decide⟩, ⟨2026, 2, 1, by decide⟩, some (js "a")⟩) := by
  have hcomponent : Component alarm := by
    refine ⟨⟨js "VALARM", js "BEGIN:VALARM", js "END:VALARM", [js "UID:y"], rfl, by decide, by decide, by decide,
      .property (by decide +kernel) (by decide +kernel) .nil⟩, ?_⟩
    unfold IsLogicalLine NoBreak
    decide
  refine ⟨hcomponent, fun hunaffected => ?_, by decide +kernel⟩
  have hneutral := hunaffected.neutral hcomponent (by decide)
  revert hneutral
  decide +kernel

end HostPlatform
