-- SUMMARY: When escaping keeps a text, and when events with different UIDs keep different keys.
import HostPlatform.Calendar.EscapedTexts
import HostPlatform.Safety.ExactEvents

/-!
# Texts of UIDs

A backslash before an n is lost on the way back, and the key of an event joins its UID and
its recurrence id with `::`. Two events are merged exactly if the joined texts are one.
-/

namespace HostPlatform

open Lib (JsString js)
open Lib.JsString

/-- The block's UID is written as the escaped text. -/
structure UidText (block : List JsString) (text : JsString) : Prop where
  value : lastValue (js "UID") block = some (escapeIcalText text)
  noBreak : NoBreak text
  trimmed : Lib.JsString.trim text = text
  short : text.length ≤ 500

def recurrenceText (block : List JsString) : JsString :=
  unescapeText ((lastValue (js "RECURRENCE-ID") block).getD [])

/-- The text, with a space for each n after a backslash, and the recurrence id after it. -/
def keyText (text recurrenceId : JsString) : JsString :=
  if recurrenceId = [] then Lib.JsString.trim (spaced text) else Lib.JsString.trim (spaced text) ++ js "::" ++ recurrenceId

/-- One event stands for both blocks. -/
def Merged (events : List ImportedEvent) (block block' : List JsString) : Prop :=
  ∃ event ∈ events, event.eventKey = blockKey block ∧ event.eventKey = blockKey block'

theorem blockKey_of_uidText {block : List JsString} {text : JsString} (h : UidText block text) :
    blockKey block = keyText text (recurrenceText block) := by
  have huid : blockUid block = Lib.JsString.trim (spaced text) := by
    rw [blockUid, h.value, Option.getD_some, unescapeText_escapeIcalText h.noBreak]
  unfold blockKey
  rw [huid]
  rfl

/-- A text is read back exactly if no backslash stands before an n; two events are merged
exactly if their keys are written alike. -/
theorem texts_kept_iff (written : JsString) (collation : Collation) (source : JsString) :
    (NoBreak written → Lib.JsString.trim written = written →
      (unescapeText (escapeIcalText written) = written ↔ ¬ HasEscapedN written)) ∧
    ∀ events, parseICalendar collation source = .ok events →
      ∀ block ∈ liveBlocks source, ∀ block' ∈ liveBlocks source, ∀ text text',
        UidText block text → UidText block' text' → text ≠ text' →
        (¬ Merged events block block' ↔
          keyText text (recurrenceText block) ≠ keyText text' (recurrenceText block')) := by
  refine ⟨unescape_escape_iff, ?_⟩
  intro events hparse block hblock block' _ text text' htext htext' _
  rw [← blockKey_of_uidText htext, ← blockKey_of_uidText htext']
  constructor
  · intro hmerged heq
    obtain ⟨event, ⟨hevent, hkey⟩, -⟩ := (exactEvents_of_ok hparse).complete block hblock
    exact hmerged ⟨event, hevent, hkey, hkey.trans heq⟩
  · rintro hne ⟨event, -, hkey, hkey'⟩
    exact hne (hkey.symm.trans hkey')

/-- A backslash before an n is lost, and the text merges with another one. -/
theorem backslash_n_lost :
    Lib.JsString.trim (js "a\\nb") = js "a\\nb" ∧ unescapeText (escapeIcalText (js "a\\nb")) = js "a\\ b" ∧
    unescapeText (escapeIcalText (js "a\\ b")) = js "a\\ b" := by
  decide +kernel

/-! ## An example -/

def firstBlock : List JsString := [js "UID:a\\,b", js "DTSTART:20260101", js "DTEND:20260102"]

def secondBlock : List JsString := [js "UID:c", js "DTSTART:20260105", js "DTEND:20260106"]

def twoEventLines : List JsString :=
  [js "BEGIN:VCALENDAR", js "BEGIN:VEVENT"] ++ firstBlock ++ [js "END:VEVENT", js "BEGIN:VEVENT"] ++ secondBlock
    ++ [js "END:VEVENT"]

def twoEvents : JsString := [lf].intercalate twoEventLines

theorem unfoldLines_twoEvents : unfoldLines twoEvents = twoEventLines := by decide +kernel

theorem liveBlocks_twoEvents : liveBlocks twoEvents = [firstBlock, secondBlock] := by
  rw [liveBlocks, unfoldLines_twoEvents]
  decide +kernel

theorem parse_twoEvents : ∃ events, parseICalendar sampleCollation twoEvents = .ok events := by
  have hread : ∃ events, readLines .start twoEventLines = .ok ⟨events, none⟩ :=
    ⟨[⟨js "a,b", js "a,b", ⟨2026, 1, 1, by decide⟩, ⟨2026, 1, 2, by decide⟩, none⟩,
      ⟨js "c", js "c", ⟨2026, 1, 5, by decide⟩, ⟨2026, 1, 6, by decide⟩, none⟩], by decide +kernel⟩
  obtain ⟨events, hread⟩ := hread
  refine ⟨events.mergeSort (eventLe sampleCollation), ?_⟩
  unfold parseICalendar
  rw [Lib.require_of (by decide +kernel), unfoldLines_twoEvents]
  dsimp only [Lib.ok_bind]
  rw [Lib.require_of (by decide +kernel), Lib.ok_bind, hread]
  rfl

theorem uidText_firstBlock : UidText firstBlock (js "a,b") :=
  ⟨by decide +kernel, by unfold NoBreak; decide, by decide +kernel, by decide⟩

theorem uidText_secondBlock : UidText secondBlock (js "c") :=
  ⟨by decide +kernel, by unfold NoBreak; decide, by decide +kernel, by decide⟩

theorem twoEvents_kept : unescapeText (escapeIcalText (js "a,b;c\\d")) = js "a,b;c\\d" ∧
    ∃ events, parseICalendar sampleCollation twoEvents = .ok events ∧ ¬ Merged events firstBlock secondBlock := by
  have hkept := texts_kept_iff (js "a,b;c\\d") sampleCollation twoEvents
  refine ⟨(hkept.1 (by unfold NoBreak; decide) (by decide +kernel)).mpr (by decide +kernel), ?_⟩
  obtain ⟨events, hparse⟩ := parse_twoEvents
  have hfirst : firstBlock ∈ liveBlocks twoEvents := by rw [liveBlocks_twoEvents]; simp
  have hsecond : secondBlock ∈ liveBlocks twoEvents := by rw [liveBlocks_twoEvents]; simp
  refine ⟨events, hparse, ?_⟩
  refine (hkept.2 events hparse firstBlock hfirst secondBlock hsecond
    (js "a,b") (js "c") uidText_firstBlock uidText_secondBlock (by decide)).mpr ?_
  decide +kernel

end HostPlatform
