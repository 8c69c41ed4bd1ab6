-- SUMMARY: What the blocks of a file say, and that the parser's loop reads exactly that.
import HostPlatform.Calendar.ICal

/-!
# Event blocks

A block is the lines from a `BEGIN:VEVENT` to the next `END:VEVENT`. The last line of a
property counts. What a block says is stated here without the parser's state, and the
loop is shown to compute it.
-/

namespace HostPlatform

open Lib (CivilDate JsString js)
open Lib.JsString

/-! ## Blocks -/

def isBegin (line : JsString) : Bool := marker line == js "BEGIN:VEVENT"

def isEnd (line : JsString) : Bool := marker line == js "END:VEVENT"

/-- For each `BEGIN:VEVENT`, the lines up to the next `END:VEVENT`. -/
def eventBlocks : List JsString → List (List JsString)
  | [] => []
  | line :: lines =>
    if isBegin line then lines.takeWhile (fun l => !isEnd l) :: eventBlocks lines else eventBlocks lines

/-- The name and the value of a line. -/
def contentLine (line : JsString) : JsString × JsString := splitContentLine (trimEnd line)

/-- The value of the last line of the property. -/
def lastValue (name : JsString) (block : List JsString) : Option JsString :=
  ((block.map contentLine).reverse.find? fun content => content.1 = name).map Prod.snd

/-- The date a value starts with. -/
def readDate? (value : JsString) : Option CivilDate :=
  let compactDate := (trim value).take 8
  if compactDate.length = 8 ∧ compactDate.all isDigit = true then CivilDate.ofCompact? compactDate else none

def isRecurrenceRule (content : JsString × JsString) : Bool :=
  decide (content.1 = js "RRULE" ∨ content.1 = js "RDATE")

/-- What the lines of a block say, over what was said before them. -/
def blockPending (before : PendingEvent) (block : List JsString) : PendingEvent :=
  { uid := (lastValue (js "UID") block).or before.uid
    recurrenceId := (lastValue (js "RECURRENCE-ID") block).or before.recurrenceId
    startsOn := ((lastValue (js "DTSTART") block).map readDate?).getD before.startsOn
    endsOn := ((lastValue (js "DTEND") block).map readDate?).getD before.endsOn
    summary := (lastValue (js "SUMMARY") block).or before.summary
    status := (lastValue (js "STATUS") block).or before.status
    recurring := before.recurring || (block.map contentLine).any isRecurrenceRule }

/-- The dates of the block are dates. -/
def DatesRead (block : List JsString) : Prop :=
  ∀ content ∈ block.map contentLine, content.1 = js "DTSTART" ∨ content.1 = js "DTEND" →
    (readDate? content.2).isSome = true

/-! ## One line -/

def propertyNames : List JsString :=
  [js "UID", js "RECURRENCE-ID", js "DTSTART", js "DTEND", js "SUMMARY", js "STATUS", js "RRULE", js "RDATE"]

theorem propertyNames_nodup : propertyNames.Nodup := by decide

@[simp] theorem lastValue_nil (name : JsString) : lastValue name [] = none := rfl

theorem lastValue_append (name : JsString) (block block' : List JsString) :
    lastValue name (block ++ block') = (lastValue name block').or (lastValue name block) := by
  simp only [lastValue, List.map_append, List.reverse_append, List.find?_append, Option.map_or]

theorem lastValue_singleton (name line : JsString) :
    lastValue name [line] = if (contentLine line).1 = name then some (contentLine line).2 else none := by
  unfold lastValue
  by_cases h : (contentLine line).1 = name <;> simp [h]

theorem lastValue_cons (name line : JsString) (block : List JsString) :
    lastValue name (line :: block) = (lastValue name block).or (lastValue name [line]) :=
  lastValue_append name [line] block

theorem parseCalendarDate_eq_ok {value fieldName : JsString} {date : CivilDate} :
    parseCalendarDate value fieldName = .ok date ↔ readDate? value = some date := by
  unfold parseCalendarDate readDate?
  dsimp only
  by_cases h : ((trim value).take 8).length = 8 ∧ ((trim value).take 8).all isDigit = true
  · rw [Lib.require_of h, if_pos h]
    cases CivilDate.ofCompact? ((trim value).take 8) <;> simp [bind, Except.bind]
  · rw [if_neg h, Lib.bind_eq_ok]
    simp only [Lib.require_eq_ok, h, false_and, exists_false, reduceCtorEq]

/-- A property line is read as the block of the one line. -/
theorem readProperty_eq_ok {pending pending' : PendingEvent} {line : JsString} :
    readProperty pending (trimEnd line) = .ok pending' ↔
      DatesRead [line] ∧ pending' = blockPending pending [line] := by
  have hsingle : DatesRead [line] ↔ ((contentLine line).1 = js "DTSTART" ∨ (contentLine line).1 = js "DTEND" →
      (readDate? (contentLine line).2).isSome = true) := by
    simp [DatesRead]
  rw [hsingle]
  simp only [blockPending, lastValue_singleton, List.map_cons, List.map_nil, List.any_cons, List.any_nil,
    Bool.or_false, isRecurrenceRule]
  unfold readProperty contentLine
  generalize splitContentLine (trimEnd line) = content
  obtain ⟨name, value⟩ := content
  have hnames := propertyNames_nodup
  have hreversed := (List.reverse_perm _).nodup_iff.mpr propertyNames_nodup
  simp only [propertyNames, List.reverse_cons, List.reverse_nil, List.nil_append, List.cons_append] at hnames hreversed
  dsimp only
  generalize js "UID" = uid at *
  generalize js "RECURRENCE-ID" = recurrenceId at *
  generalize js "SUMMARY" = summary at *
  generalize js "STATUS" = status at *
  generalize js "RRULE" = rrule at *
  generalize js "RDATE" = rdate at *
  generalize hstart : js "DTSTART" = dtstart at *
  generalize hend : js "DTEND" = dtend at *
  simp only [List.nodup_cons, List.mem_cons, not_or] at hnames hreversed
  split
  · rename_i hname
    subst hname
    simp [hnames]
    exact eq_comm
  split
  · rename_i hname
    subst hname
    simp [hnames]
    exact eq_comm
  split
  · rename_i hname
    subst hname
    rw [Lib.bind_eq_ok]
    simp only [parseCalendarDate_eq_ok]
    cases hdate : readDate? value with
    | none => simp [hdate]
    | some date =>
      simp [hnames, hdate, pure, Except.pure]
      exact eq_comm
  split
  · rename_i hname
    subst hname
    rw [Lib.bind_eq_ok]
    simp only [parseCalendarDate_eq_ok]
    cases hdate : readDate? value with
    | none => simp [hdate]
    | some date =>
      simp [hnames, hreversed, hdate, pure, Except.pure]
      exact eq_comm
  split
  · rename_i hname
    subst hname
    simp [hnames, hreversed]
    exact eq_comm
  split
  · rename_i hname
    subst hname
    simp [hnames, hreversed]
    exact eq_comm
  split
  · rename_i hname
    rcases hname with rfl | rfl
    all_goals
      simp [hnames, hreversed]
      exact eq_comm
  · simp_all
    exact eq_comm

/-! ## The lines of a block -/

/-- The rounds of the loop inside a block. -/
def readBlock (pending : PendingEvent) (block : List JsString) : Except CalendarParseError PendingEvent :=
  block.foldlM (fun pending line => readProperty pending (trimEnd line)) pending

@[simp] theorem blockPending_nil (pending : PendingEvent) : blockPending pending [] = pending := by
  simp [blockPending]

theorem blockPending_append (pending : PendingEvent) (block block' : List JsString) :
    blockPending pending (block ++ block') = blockPending (blockPending pending block) block' := by
  have hdate : ∀ (a b : Option JsString) (date : Option CivilDate),
      ((a.or b).map readDate?).getD date = (a.map readDate?).getD ((b.map readDate?).getD date) := by
    intro a b date
    cases a <;> rfl
  simp only [blockPending, lastValue_append, hdate, Option.or_assoc, List.map_append, List.any_append, Bool.or_assoc]

theorem datesRead_cons {line : JsString} {block : List JsString} :
    DatesRead (line :: block) ↔ DatesRead [line] ∧ DatesRead block := by
  simp only [DatesRead, List.map_cons, List.map_nil, List.forall_mem_cons, List.not_mem_nil, false_imp_iff,
    implies_true, and_true]

/-- A block is read exactly if its dates are dates, and says what its lines say. -/
theorem readBlock_eq_ok {pending pending' : PendingEvent} {block : List JsString} :
    readBlock pending block = .ok pending' ↔ DatesRead block ∧ pending' = blockPending pending block := by
  induction block generalizing pending with
  | nil =>
    have hdates : DatesRead [] := by simp [DatesRead]
    rw [blockPending_nil]
    exact ⟨fun h => ⟨hdates, (Except.ok.inj h).symm⟩, fun h => congrArg Except.ok h.2.symm⟩
  | cons line block ih =>
    have hcons : readBlock pending (line :: block) =
        readProperty pending (trimEnd line) >>= fun next => readBlock next block := by
      simp only [readBlock, List.foldlM_cons]
    have happend : blockPending pending (line :: block) = blockPending (blockPending pending [line]) block :=
      blockPending_append pending [line] block
    rw [hcons, Lib.bind_eq_ok, datesRead_cons, happend]
    simp only [readProperty_eq_ok, ih]
    constructor
    · rintro ⟨next, ⟨hline, rfl⟩, hblock, heq⟩
      exact ⟨⟨hline, hblock⟩, heq⟩
    · rintro ⟨⟨hline, hblock⟩, heq⟩
      exact ⟨_, ⟨hline, rfl⟩, hblock, heq⟩

/-! ## The loop -/

/-- What a block gives: an event, nothing, or an error. -/
def blockResult (block : List JsString) : Except CalendarParseError (Option ImportedEvent) := do
  let pending ← readBlock .empty block
  finishEvent pending

theorem isBegin_iff {line : JsString} : isBegin line = true ↔ marker line = js "BEGIN:VEVENT" := beq_iff_eq

theorem isEnd_iff {line : JsString} : isEnd line = true ↔ marker line = js "END:VEVENT" := beq_iff_eq

theorem not_isBegin_of_isEnd {line : JsString} (h : isEnd line = true) : isBegin line = false := by
  rw [isEnd_iff] at h
  rw [← Bool.not_eq_true, isBegin_iff, h]
  decide

section

variable {events : List ImportedEvent} {pending : PendingEvent} {line : JsString}

theorem readLine_begin (h : isBegin line = true) : readLine ⟨events, none⟩ line = .ok ⟨events, some .empty⟩ := by
  unfold readLine
  rw [if_pos (isBegin_iff.mp h)]

theorem readLine_begin_open (h : isBegin line = true) :
    readLine ⟨events, some pending⟩ line = .error ⟨js "Nested calendar events are invalid"⟩ := by
  unfold readLine
  rw [if_pos (isBegin_iff.mp h)]

theorem readLine_end (h : isEnd line = true) : readLine ⟨events, some pending⟩ line = endEvent events pending := by
  have hbegin := not_isBegin_of_isEnd h
  rw [← Bool.not_eq_true, isBegin_iff] at hbegin
  unfold readLine
  rw [if_neg hbegin, if_pos (isEnd_iff.mp h)]

theorem readLine_end_closed (h : isEnd line = true) :
    readLine ⟨events, none⟩ line = .error ⟨js "Calendar event ended without beginning"⟩ := by
  have hbegin := not_isBegin_of_isEnd h
  rw [← Bool.not_eq_true, isBegin_iff] at hbegin
  unfold readLine
  rw [if_neg hbegin, if_pos (isEnd_iff.mp h)]

theorem readLine_inside (hbegin : isBegin line = false) (hend : isEnd line = false) :
    readLine ⟨events, some pending⟩ line = (do
      let pending ← readProperty pending (trimEnd line)
        return ⟨events, some pending⟩) := by
  rw [← Bool.not_eq_true, isBegin_iff] at hbegin
  rw [← Bool.not_eq_true, isEnd_iff] at hend
  unfold readLine
  rw [if_neg hbegin, if_neg hend]

theorem readLine_outside (hbegin : isBegin line = false) (hend : isEnd line = false) :
    readLine ⟨events, none⟩ line = .ok ⟨events, none⟩ := by
  rw [← Bool.not_eq_true, isBegin_iff] at hbegin
  rw [← Bool.not_eq_true, isEnd_iff] at hend
  unfold readLine
  rw [if_neg hbegin, if_neg hend]

end

/-- From an open event the lines go on to its end. -/
theorem readLines_open {lines : List JsString} {events : List ImportedEvent} {pending : PendingEvent}
    {state : ParserState} (hok : readLines ⟨events, some pending⟩ lines = .ok state) (hclosed : state.pending = none) :
    ∃ last after, lines = lines.takeWhile (fun l => !isEnd l) ++ last :: after ∧ isEnd last = true ∧
      (∀ line ∈ lines.takeWhile (fun l => !isEnd l), isBegin line = false) ∧
      (readBlock pending (lines.takeWhile fun l => !isEnd l) >>= fun pending =>
        endEvent events pending >>= fun state => readLines state after) = .ok state := by
  induction lines generalizing pending with
  | nil =>
    cases hok
    cases hclosed
  | cons line lines ih =>
    obtain ⟨next, hnext, hrest⟩ := Lib.bind_eq_ok.mp (show readLine _ line >>= (readLines · lines) = _ from hok)
    cases hend : isEnd line with
    | true =>
      rw [readLine_end hend] at hnext
      refine ⟨line, lines, ?_⟩
      simp only [List.takeWhile_cons, hend, Bool.not_true, Bool.false_eq_true, if_false, List.nil_append,
        List.not_mem_nil, false_imp_iff, implies_true, true_and]
      have hread : readBlock pending [] = .ok pending := rfl
      rw [hread, Lib.ok_bind, hnext]
      exact hrest
    | false =>
      cases hbegin : isBegin line with
      | true =>
        rw [readLine_begin_open hbegin] at hnext
        cases hnext
      | false =>
        rw [readLine_inside hbegin hend] at hnext
        obtain ⟨pending', hproperty, hnext⟩ := Lib.bind_eq_ok.mp hnext
        cases hnext
        obtain ⟨last, after, hsplit, hlast, hbody, hread⟩ := ih hrest
        refine ⟨last, after, ?_, hlast, ?_, ?_⟩
        · simp only [List.takeWhile_cons, hend, Bool.not_false, if_true, List.cons_append]
          rw [← hsplit]
        · simpa only [List.takeWhile_cons, hend, Bool.not_false, if_true, List.forall_mem_cons] using ⟨hbegin, hbody⟩
        · simp only [List.takeWhile_cons, hend, Bool.not_false, if_true]
          have hcons : ∀ block, readBlock pending (line :: block) =
              readProperty pending (trimEnd line) >>= fun next => readBlock next block := by
            intro block
            simp only [readBlock, List.foldlM_cons]
          rw [hcons, hproperty, Lib.ok_bind]
          exact hread

/-- Lines that begin no event start no block. -/
theorem eventBlocks_append {before : List JsString} (h : ∀ line ∈ before, isBegin line = false)
    (lines : List JsString) : eventBlocks (before ++ lines) = eventBlocks lines := by
  induction before with
  | nil => rfl
  | cons line before ih =>
    obtain ⟨hline, hbefore⟩ := List.forall_mem_cons.mp h
    simp [eventBlocks, hline, ih hbefore]

/-- The events a list of results adds, one after another. -/
def addResults (events : List ImportedEvent) (results : List (Option ImportedEvent)) : List ImportedEvent :=
  (results.filterMap id).foldl setEvent events

/-- `END:VEVENT` adds the event, if there is one. -/
theorem endEvent_eq_ok {events : List ImportedEvent} {pending : PendingEvent} {state : ParserState}
    (h : endEvent events pending = .ok state) :
    ∃ result, finishEvent pending = .ok result ∧ state = ⟨addResults events [result], none⟩ ∧
      (events.length ≤ maxIcalEvents → state.events.length ≤ maxIcalEvents) := by
  obtain ⟨result, hresult, h⟩ := Lib.bind_eq_ok.mp h
  cases result with
  | none =>
    cases h
    exact ⟨none, hresult, rfl, id⟩
  | some event =>
    obtain ⟨_, hcount, h⟩ := Lib.bind_eq_ok.mp h
    cases h
    exact ⟨some event, hresult, rfl, fun _ => Lib.require_eq_ok.mp hcount⟩

/-- From a closed event to a closed event the loop adds what the blocks give. -/
theorem readLines_closed {lines : List JsString} {events : List ImportedEvent} {state : ParserState}
    (hok : readLines ⟨events, none⟩ lines = .ok state) (hclosed : state.pending = none) :
    ∃ results, (eventBlocks lines).mapM blockResult = .ok results ∧ state.events = addResults events results ∧
      (events.length ≤ maxIcalEvents → state.events.length ≤ maxIcalEvents) := by
  -- induction on the number of lines: a block is read at once
  induction hn : lines.length using Nat.strong_induction_on generalizing lines events with
  | _ n ih =>
    cases lines with
    | nil =>
      cases hok
      exact ⟨[], rfl, rfl, id⟩
    | cons line lines =>
      simp only [List.length_cons] at hn
      obtain ⟨next, hnext, hrest⟩ := Lib.bind_eq_ok.mp (show readLine _ line >>= (readLines · lines) = _ from hok)
      cases hbegin : isBegin line with
      | false =>
        cases hend : isEnd line with
        | true =>
          rw [readLine_end_closed hend] at hnext
          cases hnext
        | false =>
          rw [readLine_outside hbegin hend] at hnext
          cases hnext
          obtain ⟨results, hresults, heq⟩ := ih _ (by omega) hrest rfl
          exact ⟨results, by simpa [eventBlocks, hbegin] using hresults, heq⟩
      | true =>
        rw [readLine_begin hbegin] at hnext
        cases hnext
        obtain ⟨last, after, hsplit, hlast, hbody, hread⟩ := readLines_open hrest hclosed
        obtain ⟨pending, hpending, hread⟩ := Lib.bind_eq_ok.mp hread
        obtain ⟨ended, hended, hread⟩ := Lib.bind_eq_ok.mp hread
        obtain ⟨result, hresult, rfl, hcount⟩ := endEvent_eq_ok hended
        have hlength := congrArg List.length hsplit
        simp only [List.length_append, List.length_cons] at hlength
        obtain ⟨results, hresults, heq, hcount'⟩ := ih _ (by omega) hread rfl
        refine ⟨result :: results, ?_, ?_, hcount' ∘ hcount⟩
        · have hblocks : eventBlocks lines = eventBlocks after := by
            rw [hsplit, eventBlocks_append hbody, eventBlocks, not_isBegin_of_isEnd hlast]
            rfl
          have hblock : blockResult (lines.takeWhile fun l => !isEnd l) = .ok result := by
            rw [blockResult, hpending, Lib.ok_bind, hresult]
          simp only [eventBlocks, hbegin, if_true, List.mapM_cons, hblock, hblocks, hresults]
          rfl
        · rw [heq]
          cases result <;> rfl

end HostPlatform
