-- SUMMARY: The event the parser reads of each exported range.
import HostPlatform.Calendar.ICalLines

/-!
# Exported events

Nothing in the block of an exported event is white space or escaped, so each of its
lines is read as it was written, and the block as one event.
-/

namespace HostPlatform

open Lib (CivilDate JsString js)
open Lib.JsString

/-! ## Texts that are read as they are written -/

/-- Neither white space nor the start of an escape. -/
def solidUnit (u : Nat) : Bool := !isSpace u && u != backslash

def Solid (text : JsString) : Prop := ∀ u ∈ text, solidUnit u = true

instance (text : JsString) : Decidable (Solid text) := inferInstanceAs (Decidable (∀ u ∈ text, solidUnit u = true))

theorem Solid.isSpace {text : JsString} (h : Solid text) : ∀ u ∈ text, isSpace u = false := by
  intro u hu
  have hunit := h u hu
  unfold solidUnit at hunit
  rw [Bool.and_eq_true, Bool.not_eq_true'] at hunit
  exact hunit.1

theorem Solid.backslash {text : JsString} (h : Solid text) : backslash ∉ text :=
  fun hmem => absurd (h _ hmem) (by decide)

theorem Solid.append {a b : JsString} (ha : Solid a) (hb : Solid b) : Solid (a ++ b) := by
  intro u hu
  exact (List.mem_append.mp hu).elim (ha u) (hb u)

theorem Solid.subset {a b : JsString} (hb : Solid b) (h : a ⊆ b) : Solid a := fun u hu => hb u (h hu)

theorem Solid.noBreak {text : JsString} (h : Solid text) : NoBreak text :=
  ⟨fun hcr => absurd (h cr hcr) (by decide), fun hlf => absurd (h lf hlf) (by decide)⟩

theorem solidUnit_of_ascii {u : Nat} (hlow : 33 ≤ u) (hhigh : u ≤ 126) (hne : u ≠ backslash) :
    solidUnit u = true := by
  have hspace : Lib.JsString.isSpace u = false := by
    unfold Lib.JsString.isSpace
    simp only [Bool.or_eq_false_iff, Bool.and_eq_false_iff, decide_eq_false_iff_not, beq_eq_false_iff_ne]
    omega
  unfold solidUnit
  rw [hspace]
  exact bne_iff_ne.mpr hne

theorem solid_of_isDigit {text : JsString} (h : ∀ u ∈ text, isDigit u = true) : Solid text := by
  intro u hu
  have hdigit := h u hu
  unfold isDigit at hdigit
  simp only [Bool.and_eq_true, decide_eq_true_eq] at hdigit
  exact solidUnit_of_ascii (by omega) (by omega) (by unfold backslash; omega)

theorem solid_digit (n : Nat) : Solid [digit n] :=
  solid_of_isDigit fun u hu => by rw [List.mem_singleton.mp hu]; exact isDigit_digit n

theorem solid_twoDigits (n : Nat) : Solid (CivilDate.twoDigits n) :=
  (solid_digit (n / 10)).append (solid_digit n)

theorem solid_iso (date : CivilDate) : Solid date.iso := by
  have hyear : Solid (CivilDate.fourDigits date.year) :=
    (solid_digit (date.year / 1000)).append ((solid_digit (date.year / 100)).append
      ((solid_digit (date.year / 10)).append (solid_digit date.year)))
  have hhyphen : Solid [hyphen] := by decide
  exact (((hyear.append hhyphen).append (solid_twoDigits date.month)).append hhyphen).append
    (solid_twoDigits date.day)

theorem solid_generatedAt (now : Instant) : Solid (generatedAt now) := by
  have hiso : Solid now.toISOString := by
    have hms : Solid (threeDigits now.millisecond) :=
      (solid_digit (now.millisecond / 100)).append
        ((solid_digit (now.millisecond / 10)).append (solid_digit now.millisecond))
    have hdate := (solid_iso now.date).append (b := js "T") (by decide)
    have hhour := (hdate.append (solid_twoDigits now.hour)).append (b := js ":") (by decide)
    have hminute := (hhour.append (solid_twoDigits now.minute)).append (b := js ":") (by decide)
    have hsecond := (hminute.append (solid_twoDigits now.second)).append (b := js ".") (by decide)
    exact (hsecond.append hms).append (by decide)
  have hfilter : Solid (now.toISOString.filter fun u => u != hyphen && u != colon) :=
    hiso.subset (List.filter_subset_self _)
  unfold generatedAt dropMilliseconds
  dsimp only
  split
  · exact (hfilter.subset (List.take_subset _ _)).append (by decide)
  · exact hfilter

/-! ## Identifiers -/

/-- The text of a `uuid`. -/
def isUuid (text : JsString) : Bool :=
  text.length == 36 && text.zipIdx.all fun unit =>
    if [8, 13, 18, 23].contains unit.2 then unit.1 == hyphen else isHexDigit unit.1

section

variable {propertyId : JsString} (h : isUuid propertyId = true)

include h

theorem isUuid_length : propertyId.length = 36 := by
  unfold isUuid at h
  rw [Bool.and_eq_true, beq_iff_eq] at h
  exact h.1

theorem isUuid_unit {u : Nat} (hu : u ∈ propertyId) : u = hyphen ∨ isHexDigit u = true := by
  unfold isUuid at h
  rw [Bool.and_eq_true, List.all_eq_true] at h
  obtain ⟨i, hi, rfl⟩ := List.mem_iff_getElem.mp hu
  have hunit := h.2 (propertyId[i], i) (List.mk_mem_zipIdx_iff_getElem?.mpr (List.getElem?_eq_getElem hi))
  dsimp only at hunit
  split at hunit
  · exact .inl (beq_iff_eq.mp hunit)
  · exact .inr hunit

theorem solid_uuid : Solid propertyId := by
  intro u hu
  rcases isUuid_unit h hu with rfl | hhex
  · decide
  · unfold isHexDigit isDigit at hhex
    simp only [Bool.or_eq_true, Bool.and_eq_true, decide_eq_true_eq] at hhex
    exact solidUnit_of_ascii (by omega) (by omega) (by unfold backslash; omega)

end

/-! ## The lines of an event -/

section

variable {propertyId : JsString} (h : isUuid propertyId = true) (range : DateRange)

include h

theorem solid_eventUid : Solid (eventUid propertyId range) := by
  have hhost : Solid (js "host-") := by decide
  have hhyphen : Solid (js "-") := by decide
  have hdomain : Solid (js "@hostcityliving.com") := by decide
  exact ((((hhost.append (solid_uuid h)).append hhyphen).append (solid_iso range.startsOn)).append
    hhyphen).append (solid_iso range.endsOn) |>.append hdomain

theorem length_eventUid : (eventUid propertyId range).length = 82 := by
  unfold eventUid
  simp only [List.length_append, isUuid_length h, CivilDate.length_iso]
  rfl

/-- Every line of the block is read as it was written. -/
theorem solid_eventLines (now : Instant) : ∀ line ∈ eventLines now propertyId range, Solid line := by
  intro line hline
  unfold eventLines at hline
  simp only [List.mem_cons, List.not_mem_nil, or_false] at hline
  rcases hline with rfl | rfl | rfl | rfl | rfl | rfl | rfl | rfl | rfl
  · decide
  · exact Solid.append (by decide) (solid_eventUid h range)
  · exact Solid.append (by decide) (solid_generatedAt now)
  · exact Solid.append (by decide) (solid_of_isDigit range.startsOn.isDigit_compact)
  · exact Solid.append (by decide) (solid_of_isDigit range.endsOn.isDigit_compact)
  all_goals decide

end

/-! ## Reading them -/

/-- The event of an exported range. -/
def exportedEvent (propertyId : JsString) (range : DateRange) : ImportedEvent :=
  { eventKey := eventUid propertyId range
    externalUid := eventUid propertyId range
    startsOn := range.startsOn
    endsOn := range.endsOn
    summary := some (js "Unavailable") }

theorem readLines_cons {state state' : ParserState} {line : JsString} (lines : List JsString)
    (h : readLine state line = .ok state') : readLines state (line :: lines) = readLines state' lines := by
  unfold readLines
  rw [List.foldlM_cons, h]
  rfl

theorem readLines_append (state : ParserState) (lines lines' : List JsString) :
    readLines state (lines ++ lines') = (do
      let state ← readLines state lines
      readLines state lines') :=
  List.foldlM_append ..

/-- A line that starts with neither B nor E begins no event and ends none. -/
theorem marker_ne {line : JsString} (u : Nat)
    (hu : plainUnit u = true ∧ isSpace u = false ∧ u ≠ 66 ∧ u ≠ 69) (hhead : line.head? = some u) :
    marker line ≠ js "BEGIN:VEVENT" ∧ marker line ≠ js "END:VEVENT" := by
  obtain ⟨hplain, hspace, hB, hE⟩ := hu
  obtain ⟨rest, rfl⟩ := List.head?_eq_some_iff.mp hhead
  obtain ⟨trimmed, htrim⟩ := trimEnd_cons hspace rest
  obtain ⟨trimmed', htrim'⟩ := trimEnd_cons hspace trimmed
  unfold marker trim
  rw [htrim, trimStart_of_head hspace, htrim', toUpperCase_cons_of_plain hplain]
  exact ⟨fun heq => hB (List.cons.inj heq).1, fun heq => hE (List.cons.inj heq).1⟩

/-- Such a line is a property of the open event. -/
theorem readLine_property {events : List ImportedEvent} {pending pending' : PendingEvent} {line : JsString}
    (u : Nat) (hu : plainUnit u = true ∧ isSpace u = false ∧ u ≠ 66 ∧ u ≠ 69) (hhead : line.head? = some u)
    (hsolid : Solid line) (h : readProperty pending line = .ok pending') :
    readLine ⟨events, some pending⟩ line = .ok ⟨events, some pending'⟩ := by
  obtain ⟨hbegin, hend⟩ := marker_ne u hu hhead
  unfold readLine
  rw [if_neg hbegin, if_neg hend, trimEnd_of_all hsolid.isSpace]
  simp only [h]
  rfl

theorem parseCalendarDate_compact (date : CivilDate) (fieldName : JsString) :
    parseCalendarDate date.compact fieldName = .ok date := by
  have htrim : trim date.compact = date.compact := trim_of_all (solid_of_isDigit date.isDigit_compact).isSpace
  have htake : date.compact.take 8 = date.compact := List.take_of_length_le (date.length_compact).le
  have hdigits : date.compact.all isDigit = true := List.all_eq_true.mpr date.isDigit_compact
  unfold parseCalendarDate
  dsimp only
  rw [htrim, htake, Lib.require_of ⟨date.length_compact, hdigits⟩, CivilDate.ofCompact?_compact]
  rfl

theorem readProperty_uid (pending : PendingEvent) (value : JsString) :
    readProperty pending (js "UID:" ++ value) = .ok { pending with uid := some value } := by rfl

theorem readProperty_dtstamp (pending : PendingEvent) (value : JsString) :
    readProperty pending (js "DTSTAMP:" ++ value) = .ok pending := by rfl

theorem readProperty_dtstart (pending : PendingEvent) (date : CivilDate) :
    readProperty pending (js "DTSTART;VALUE=DATE:" ++ date.compact) =
      .ok { pending with startsOn := some date } := by
  have hread : readProperty pending (js "DTSTART;VALUE=DATE:" ++ date.compact) = (do
      let date ← parseCalendarDate date.compact (js "DTSTART")
      return { pending with startsOn := some date }) := by rfl
  rw [hread, parseCalendarDate_compact]
  rfl

theorem readProperty_dtend (pending : PendingEvent) (date : CivilDate) :
    readProperty pending (js "DTEND;VALUE=DATE:" ++ date.compact) =
      .ok { pending with endsOn := some date } := by
  have hread : readProperty pending (js "DTEND;VALUE=DATE:" ++ date.compact) = (do
      let date ← parseCalendarDate date.compact (js "DTEND")
      return { pending with endsOn := some date }) := by rfl
  rw [hread, parseCalendarDate_compact]
  rfl

/-- The open event when its block ends. -/
def exportedPending (propertyId : JsString) (range : DateRange) : PendingEvent :=
  { uid := some (eventUid propertyId range)
    recurrenceId := none
    startsOn := some range.startsOn
    endsOn := some range.endsOn
    summary := some (js "Unavailable")
    status := some (js "CONFIRMED")
    recurring := false }

section

variable {propertyId : JsString} (h : isUuid propertyId = true)

include h

theorem unescapeText_eventUid (range : DateRange) :
    unescapeText (eventUid propertyId range) = eventUid propertyId range := by
  have hsolid := solid_eventUid h range
  have hreplace : ∀ chars out, replacePairs (isEscaped chars) out (eventUid propertyId range) =
      eventUid propertyId range := by
    intro chars out
    refine replacePairs_of_not_mem (fun a b hmatch => ?_) hsolid.backslash
    unfold isEscaped at hmatch
    rw [Bool.and_eq_true, beq_iff_eq] at hmatch
    exact hmatch.1
  unfold unescapeText
  dsimp only
  rw [hreplace, hreplace, hreplace, hreplace, trim_of_all hsolid.isSpace]

theorem finishEvent_exported {range : DateRange} (hrange : range.startsOn < range.endsOn) :
    finishEvent (exportedPending propertyId range) = .ok (some (exportedEvent propertyId range)) := by
  have hstatus : ¬ (some (js "CONFIRMED")).map toUpperCase = some (js "CANCELLED") := by decide
  have huid : unescapeText ((some (eventUid propertyId range)).getD []) = eventUid propertyId range :=
    unescapeText_eventUid h range
  have hlength := length_eventUid h range
  have hne : eventUid propertyId range ≠ [] := fun hnil => by
    rw [hnil] at hlength
    cases hlength
  unfold finishEvent exportedPending
  simp only [if_neg hstatus, huid]
  rw [Lib.require_of trivial, Lib.require_of hne, Lib.require_of (by omega), Lib.require_of hrange]
  have hkey : unescapeText ((none : Option JsString).getD []) = [] := by decide
  simp only [hkey, if_true]
  rw [Lib.require_of (by omega)]
  rfl

theorem readLines_eventLines {range : DateRange} (hrange : range.startsOn < range.endsOn) (now : Instant)
    (events : List ImportedEvent) (lines : List JsString) :
    readLines ⟨events, none⟩ (eventLines now propertyId range ++ lines) = (do
      Lib.require ((setEvent events (exportedEvent propertyId range)).length ≤ maxIcalEvents)
        ⟨js "Calendar contains more than 5,000 events"⟩
      readLines ⟨setEvent events (exportedEvent propertyId range), none⟩ lines) := by
  have hsolid := solid_eventLines h range now
  have hbegin : readLine ⟨events, none⟩ (js "BEGIN:VEVENT") = .ok ⟨events, some .empty⟩ := by rfl
  have hend : ∀ pending, readLine ⟨events, some pending⟩ (js "END:VEVENT") = endEvent events pending := by
    intro pending
    rfl
  unfold eventLines at hsolid ⊢
  simp only [List.forall_mem_cons] at hsolid
  obtain ⟨-, huid, hdtstamp, hdtstart, hdtend, hstatus, htransp, hsummary, -⟩ := hsolid
  simp only [List.cons_append]
  rw [readLines_cons _ hbegin,
    readLines_cons _ (readLine_property 85 (by decide) rfl huid (readProperty_uid _ _)),
    readLines_cons _ (readLine_property 68 (by decide) rfl hdtstamp (readProperty_dtstamp _ _)),
    readLines_cons _ (readLine_property 68 (by decide) rfl hdtstart (readProperty_dtstart _ _)),
    readLines_cons _ (readLine_property 68 (by decide) rfl hdtend (readProperty_dtend _ _)),
    readLines_cons _ (readLine_property 83 (by decide) rfl hstatus rfl),
    readLines_cons _ (readLine_property 84 (by decide) rfl htransp rfl),
    readLines_cons _ (readLine_property 83 (by decide) rfl hsummary rfl)]
  show (readLine ⟨events, some (exportedPending propertyId range)⟩ (js "END:VEVENT") >>= fun state =>
    readLines state lines) = _
  rw [hend]
  unfold endEvent
  rw [finishEvent_exported h hrange]
  simp only [bind, Except.bind]
  cases Lib.require ((setEvent events (exportedEvent propertyId range)).length ≤ maxIcalEvents)
      (⟨js "Calendar contains more than 5,000 events"⟩ : CalendarParseError) with
  | error e => rfl
  | ok u => rfl

end

end HostPlatform
