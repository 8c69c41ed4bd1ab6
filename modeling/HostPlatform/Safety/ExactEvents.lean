-- SUMMARY: The parser is exact: every live block of the file has its event, and there is no other.
import HostPlatform.Calendar.EventBlocks
import HostPlatform.Calendar.StoredTexts
import HostPlatform.Lib.DateOrder
import HostPlatform.Safety.ExportImport

/-!
# Live blocks and their events

A file is refused, or each of its blocks that is not cancelled has one event with its key.
Of blocks with one key the last is the event.
-/

namespace HostPlatform

open Lib (CivilDate JsString js)
open Lib.JsString

/-! ## What is claimed -/

/-- The status of the block is not `CANCELLED`. -/
def IsLive (block : List JsString) : Prop :=
  (lastValue (js "STATUS") block).map Lib.JsString.toUpperCase ≠ some (js "CANCELLED")

instance (block : List JsString) : Decidable (IsLive block) := inferInstanceAs (Decidable (_ ≠ _))

def liveBlocks (source : JsString) : List (List JsString) :=
  (eventBlocks (unfoldLines source)).filter fun block => decide (IsLive block)

def blockUid (block : List JsString) : JsString := unescapeText ((lastValue (js "UID") block).getD [])

/-- The UID, and the recurrence id if there is one. -/
def blockKey (block : List JsString) : JsString :=
  let recurrenceId := unescapeText ((lastValue (js "RECURRENCE-ID") block).getD [])
  if recurrenceId = [] then blockUid block else blockUid block ++ js "::" ++ recurrenceId

def blockSummary (block : List JsString) : JsString := unescapeText ((lastValue (js "SUMMARY") block).getD [])

/-- The event says what the block says. -/
structure EventOf (block : List JsString) (event : ImportedEvent) : Prop where
  key : event.eventKey = blockKey block
  uid : event.externalUid = blockUid block
  startsOn : (lastValue (js "DTSTART") block).bind readDate? = some event.startsOn
  endsOn : (lastValue (js "DTEND") block).bind readDate? = some event.endsOn
  summary : event.summary = if blockSummary block = [] then none else some ((blockSummary block).take 300)

structure ImportedEvent.WellFormed (event : ImportedEvent) : Prop where
  dates : event.startsOn < event.endsOn
  uid : event.externalUid ≠ [] ∧ event.externalUid.length ≤ 500
  key : event.eventKey ≠ [] ∧ event.eventKey.length ≤ 500
  summary : ∀ summary ∈ event.summary, summary ≠ [] ∧ summary.length ≤ 300

/-- The events of an accepted file. -/
structure ExactEvents (source : JsString) (events : List ImportedEvent) : Prop where
  complete : ∀ block ∈ liveBlocks source, ∃! event, event ∈ events ∧ event.eventKey = blockKey block
  last : ∀ event ∈ events, ∃ before block after, liveBlocks source = before ++ block :: after ∧
    EventOf block event ∧ ∀ later ∈ after, blockKey later ≠ event.eventKey
  wellFormed : ∀ event ∈ events, event.WellFormed
  ordered : events.Pairwise fun a b => a.startsOn ≤ b.startsOn
  count : events.length ≤ 5000
  unique : (events.map ImportedEvent.eventKey).Nodup
  /-- No check of the table refuses them, nor its unique key if the text was decoded from bytes. -/
  stored : ∀ db feedId, eventRows db feedId events ≠ .error checkViolation ∧
    (Lib.JsString.WellFormed source → eventRows db feedId events ≠ .error uniqueViolation)

/-! ## The event of a block -/

theorem finishEvent_eq_ok {pending : PendingEvent} {result : Option ImportedEvent}
    (h : finishEvent pending = .ok result) :
    if pending.status.map Lib.JsString.toUpperCase = some (js "CANCELLED") then result = none
    else ∃ event startsOn endsOn, result = some event ∧ pending.startsOn = some startsOn ∧
      pending.endsOn = some endsOn ∧ event.WellFormed ∧ event.startsOn = startsOn ∧ event.endsOn = endsOn ∧
      event.externalUid = unescapeText (pending.uid.getD []) ∧
      event.eventKey = (if unescapeText (pending.recurrenceId.getD []) = [] then unescapeText (pending.uid.getD [])
        else unescapeText (pending.uid.getD []) ++ js "::" ++ unescapeText (pending.recurrenceId.getD [])) ∧
      event.summary = if unescapeText (pending.summary.getD []) = [] then none
        else some ((unescapeText (pending.summary.getD [])).take 300) := by
  unfold finishEvent at h
  split
  · rename_i hcancelled
    rw [if_pos hcancelled] at h
    exact (Except.ok.inj h).symm
  · rename_i hcancelled
    rw [if_neg hcancelled] at h
    obtain ⟨_, -, h⟩ := Lib.bind_eq_ok.mp h
    obtain ⟨_, huid, h⟩ := Lib.bind_eq_ok.mp h
    obtain ⟨_, hlength, h⟩ := Lib.bind_eq_ok.mp h
    rw [Lib.require_eq_ok] at huid hlength
    split at h
    · rename_i startsOn endsOn hstart hend
      obtain ⟨_, hdates, h⟩ := Lib.bind_eq_ok.mp h
      obtain ⟨_, hkey, h⟩ := Lib.bind_eq_ok.mp h
      rw [Lib.require_eq_ok] at hdates hkey
      refine ⟨_, startsOn, endsOn, (Except.ok.inj h).symm, hstart, hend, ⟨hdates, ⟨huid, hlength⟩, ⟨?_, hkey⟩, ?_⟩,
        rfl, rfl, rfl, rfl, rfl⟩
      · dsimp only
        split
        · exact huid
        · exact List.append_ne_nil_of_left_ne_nil (List.append_ne_nil_of_left_ne_nil huid _) _
      · intro summary hsummary
        dsimp only at hsummary
        split at hsummary
        · cases hsummary
        · rename_i hne
          obtain rfl := Option.some.inj hsummary
          refine ⟨fun hnil => hne (List.take_eq_nil_iff.mp hnil |>.resolve_left (by decide)), ?_⟩
          rw [List.length_take]
          exact Nat.min_le_left _ _
    · cases h

/-- A block that is read is cancelled, or gives its event. -/
theorem blockResult_eq_ok {block : List JsString} {result : Option ImportedEvent} (h : blockResult block = .ok result) :
    if IsLive block then ∃ event, result = some event ∧ EventOf block event ∧ event.WellFormed else result = none := by
  obtain ⟨pending, hpending, hfinish⟩ := Lib.bind_eq_ok.mp h
  obtain ⟨hdates, rfl⟩ := readBlock_eq_ok.mp hpending
  have hresult := finishEvent_eq_ok hfinish
  have hstatus : (blockPending .empty block).status = lastValue (js "STATUS") block := Option.or_none
  rw [hstatus] at hresult
  split
  · rename_i hlive
    rw [if_neg hlive] at hresult
    obtain ⟨event, startsOn, endsOn, rfl, hstart, hend, hwell, hstart', hend', huid, hkey, hsummary⟩ := hresult
    have hor : ∀ name, (lastValue name block).or none = lastValue name block := fun name => Option.or_none
    simp only [blockPending, PendingEvent.empty, hor] at huid hkey hsummary hstart hend
    have hdate : ∀ name, ((lastValue name block).map readDate?).getD none = (lastValue name block).bind readDate? := by
      intro name
      cases lastValue name block <;> rfl
    rw [hdate] at hstart hend
    exact ⟨event, rfl, ⟨hkey, huid, hstart' ▸ hstart, hend' ▸ hend, hsummary⟩, hwell⟩
  · rename_i hlive
    rwa [if_pos (not_not.mp hlive)] at hresult

/-- A block that gives an event is live. -/
theorem live_of_blockResult {block : List JsString} {event : ImportedEvent} (h : blockResult block = .ok (some event)) :
    IsLive block ∧ EventOf block event := by
  have hblock := blockResult_eq_ok h
  split at hblock
  · rename_i hlive
    obtain ⟨_, heq, hof, -⟩ := hblock
    cases heq
    exact ⟨hlive, hof⟩
  · cases hblock

theorem not_live_of_blockResult {block : List JsString} (h : blockResult block = .ok none) : ¬ IsLive block := by
  intro hlive
  have hblock := blockResult_eq_ok h
  rw [if_pos hlive] at hblock
  obtain ⟨_, heq, -⟩ := hblock
  cases heq

/-- The events of the live blocks, in the order of the blocks. -/
theorem mapM_blockResult {blocks : List (List JsString)} {results : List (Option ImportedEvent)}
    (h : blocks.mapM blockResult = .ok results) :
    List.Forall₂ (fun block event => EventOf block event ∧ event.WellFormed)
      (blocks.filter fun block => decide (IsLive block)) (results.filterMap id) := by
  induction blocks generalizing results with
  | nil =>
    cases h
    exact .nil
  | cons block blocks ih =>
    rw [List.mapM_cons] at h
    obtain ⟨result, hresult, h⟩ := Lib.bind_eq_ok.mp h
    obtain ⟨rest, hrest, h⟩ := Lib.bind_eq_ok.mp h
    cases h
    have hblock := blockResult_eq_ok hresult
    by_cases hlive : IsLive block
    · rw [if_pos hlive] at hblock
      obtain ⟨event, rfl, hevent⟩ := hblock
      simpa [hlive] using ⟨hevent, ih hrest⟩
    · rw [if_neg hlive] at hblock
      simpa [hlive, hblock] using ih hrest

/-! ## The keyed map -/

/-- An event is in the map if it is the last that was set with its key. -/
theorem mem_foldl_setEvent {added events : List ImportedEvent} {event : ImportedEvent} :
    event ∈ added.foldl setEvent events ↔
      (∃ before after, added = before ++ event :: after ∧ ∀ later ∈ after, later.eventKey ≠ event.eventKey) ∨
      (event ∈ events ∧ ∀ later ∈ added, later.eventKey ≠ event.eventKey) := by
  induction added using List.reverseRecOn with
  | nil => simp
  | append_singleton added new ih =>
    rw [List.foldl_append, List.foldl_cons, List.foldl_nil, mem_setEvent, ih]
    constructor
    · rintro (rfl | ⟨⟨before, after, rfl, hafter⟩ | ⟨hmem, hall⟩, hne⟩)
      · exact .inl ⟨added, [], rfl, nofun⟩
      · refine .inl ⟨before, after ++ [new], by simp, ?_⟩
        simpa [or_imp, forall_and] using ⟨hafter, Ne.symm hne⟩
      · exact .inr ⟨hmem, by simpa [or_imp, forall_and] using ⟨hall, Ne.symm hne⟩⟩
    · rintro (⟨before, after, heq, hafter⟩ | ⟨hmem, hall⟩)
      · rcases List.eq_nil_or_concat after with rfl | ⟨after, last, rfl⟩
        · exact .inl (List.append_inj_right' heq rfl |> List.singleton_inj.mp).symm
        · rw [List.concat_eq_append, ← List.cons_append, ← List.append_assoc] at heq
          obtain ⟨rfl, hlast⟩ := List.append_inj' heq rfl
          obtain rfl := List.singleton_inj.mp hlast
          rw [List.concat_eq_append, List.forall_mem_append, List.forall_mem_singleton] at hafter
          exact .inr ⟨.inl ⟨before, after, rfl, hafter.1⟩, Ne.symm hafter.2⟩
      · rw [List.forall_mem_append, List.forall_mem_singleton] at hall
        exact .inr ⟨.inr ⟨hmem, hall.1⟩, Ne.symm hall.2⟩

theorem KeysNodup.foldl {added events : List ImportedEvent} (h : KeysNodup events) :
    KeysNodup (added.foldl HostPlatform.setEvent events) := by
  induction added generalizing events with
  | nil => exact h
  | cons event added ih => exact ih (h.setEvent event)

theorem exists_mem_foldl_setEvent {added : List ImportedEvent} (events : List ImportedEvent) {event : ImportedEvent}
    (h : event ∈ added) : ∃ e ∈ added.foldl setEvent events, e.eventKey = event.eventKey := by
  induction added using List.reverseRecOn with
  | nil => cases h
  | append_singleton added new ih =>
    rw [List.foldl_append, List.foldl_cons, List.foldl_nil]
    by_cases hkey : event.eventKey = new.eventKey
    · exact ⟨new, mem_setEvent.mpr (.inl rfl), hkey.symm⟩
    · rcases List.mem_append.mp h with h | h
      · obtain ⟨e, he, heq⟩ := ih h
        exact ⟨e, mem_setEvent.mpr (.inr ⟨he, fun h => hkey (heq ▸ h)⟩), heq⟩
      · rw [List.mem_singleton.mp h] at hkey
        exact absurd rfl hkey

/-! ## Rows -/

theorem textColumn_eq {s : JsString} {stored : JsString} (h : textColumn s = .ok stored) : stored = toWellFormed s := by
  obtain ⟨_, -, h⟩ := Lib.bind_eq_ok.mp h
  exact (Except.ok.inj h).symm

theorem textColumn_error {s : JsString} {error : BookingError} (h : textColumn s = .error error) :
    error = ⟨"22021", "invalid byte sequence for encoding UTF8: 0x00"⟩ := by
  unfold textColumn Lib.require at h
  split at h
  · cases h
  · exact (Except.error.inj h).symm

theorem dateColumn_error {d : CivilDate} {error : BookingError} (h : dateColumn d = .error error) :
    error = ⟨"22008", "date/time field value out of range"⟩ := by
  unfold dateColumn Lib.require at h
  split at h
  · cases h
  · exact (Except.error.inj h).symm

theorem dateColumn_eq {d : CivilDate} {stored : Int} (h : dateColumn d = .ok stored) : stored = d.toDays := by
  obtain ⟨_, -, h⟩ := Lib.bind_eq_ok.mp h
  exact (Except.ok.inj h).symm

theorem charLength_stored {s : JsString} (h : s ≠ [] ∧ s.length ≤ 500) :
    1 ≤ charLength (toWellFormed s) ∧ charLength (toWellFormed s) ≤ 500 := by
  have hlength := length_toWellFormed s
  refine ⟨charLength_pos fun hnil => h.1 (List.length_eq_zero_iff.mp ?_), ?_⟩
  · rw [← hlength, hnil]
    rfl
  · exact (charLength_le_length _).trans (hlength.le.trans h.2)

/-- What refuses a row of a parsed event is no check and no key. -/
theorem eventRow_error {feedId : Nat} {event : ImportedEvent} (hevent : event.WellFormed) {error : BookingError}
    (h : eventRow feedId event = .error error) : error ≠ checkViolation ∧ error ≠ uniqueViolation := by
  have htext : ∀ {s : JsString}, textColumn s = .error error → error ≠ checkViolation ∧ error ≠ uniqueViolation := by
    intro s hs
    rw [textColumn_error hs]
    decide
  have hdate : ∀ {d : CivilDate}, dateColumn d = .error error → error ≠ checkViolation ∧ error ≠ uniqueViolation := by
    intro d hd
    rw [dateColumn_error hd]
    decide
  unfold eventRow at h
  rcases Lib.bind_eq_error.mp h with h | ⟨eventKey, hkey, h⟩
  · exact htext h
  rcases Lib.bind_eq_error.mp h with h | ⟨externalUid, huid, h⟩
  · exact htext h
  rcases Lib.bind_eq_error.mp h with h | ⟨startsOn, hstart, h⟩
  · exact hdate h
  rcases Lib.bind_eq_error.mp h with h | ⟨endsOn, hend, h⟩
  · exact hdate h
  rcases Lib.bind_eq_error.mp h with h | ⟨summary, -, h⟩
  · cases hsummary : event.summary with
    | none =>
      rw [hsummary] at h
      cases h
    | some summary =>
      rw [hsummary, Option.mapM_some] at h
      rcases Lib.bind_eq_error.mp h with h | ⟨_, -, h⟩
      · exact htext h
      · cases h
  -- the three checks hold
  have hdates : startsOn < endsOn := by
    rw [dateColumn_eq hstart, dateColumn_eq hend]
    exact CivilDate.toDays_strictMono hevent.dates
  rw [Lib.require_of hdates, Lib.require_of (textColumn_eq hkey ▸ charLength_stored hevent.key),
    Lib.require_of (textColumn_eq huid ▸ charLength_stored hevent.uid)] at h
  cases h

theorem eventRow_key {feedId : Nat} {event : ImportedEvent} {row : CalendarEvent}
    (h : eventRow feedId event = .ok row) : row.eventKey = toWellFormed event.eventKey := by
  unfold eventRow at h
  obtain ⟨eventKey, hkey, h⟩ := Lib.bind_eq_ok.mp h
  obtain ⟨_, -, h⟩ := Lib.bind_eq_ok.mp h
  obtain ⟨_, -, h⟩ := Lib.bind_eq_ok.mp h
  obtain ⟨_, -, h⟩ := Lib.bind_eq_ok.mp h
  obtain ⟨_, -, h⟩ := Lib.bind_eq_ok.mp h
  obtain ⟨_, -, h⟩ := Lib.bind_eq_ok.mp h
  obtain ⟨_, -, h⟩ := Lib.bind_eq_ok.mp h
  obtain ⟨_, -, h⟩ := Lib.bind_eq_ok.mp h
  cases h
  exact textColumn_eq hkey

theorem mapM_eventRow_keys {feedId : Nat} {events : List ImportedEvent} {rows : List CalendarEvent}
    (h : events.mapM (eventRow feedId) = .ok rows)
    (hkeys : ∀ event ∈ events, Lib.JsString.WellFormed event.eventKey) :
    rows.map CalendarEvent.eventKey = events.map ImportedEvent.eventKey := by
  have hall := Lib.mapM_eq_ok h
  clear h
  induction hall with
  | nil => rfl
  | @cons event row events rows hread _ ih =>
    obtain ⟨hkey, hkeys⟩ := List.forall_mem_cons.mp hkeys
    have hkey' : toWellFormed event.eventKey = event.eventKey := hkey
    rw [List.map_cons, List.map_cons, eventRow_key hread, hkey', ih hkeys]

/-- Parsed events with keys that are stored as they are violate no constraint of the table. -/
theorem eventRows_stored {events : List ImportedEvent} (hwell : ∀ event ∈ events, event.WellFormed)
    (hunique : (events.map ImportedEvent.eventKey).Nodup) (db : Db) (feedId : Nat) :
    eventRows db feedId events ≠ .error checkViolation ∧
      ((∀ event ∈ events, Lib.JsString.WellFormed event.eventKey) → eventRows db feedId events ≠ .error uniqueViolation) := by
  -- what refuses the rows is a row of its own, the unique key or the foreign key
  have hcases : ∀ {error}, eventRows db feedId events = .error error →
      (error ≠ checkViolation ∧ error ≠ uniqueViolation) ∨
      error = foreignKeyViolation ∨
      (error = uniqueViolation ∧ ∃ rows, events.mapM (eventRow feedId) = .ok rows ∧
        ¬ (rows.map CalendarEvent.eventKey).Nodup) := by
    intro error h
    rcases Lib.bind_eq_error.mp h with h | ⟨rows, hrows, h⟩
    · obtain ⟨event, hevent, hfail⟩ := Lib.mapM_eq_error h
      exact .inl (eventRow_error (hwell event hevent) hfail)
    rcases Lib.bind_eq_error.mp h with h | ⟨_, -, h⟩
    · obtain ⟨rfl, hnodup⟩ := Lib.require_eq_error h
      exact .inr (.inr ⟨rfl, rows, hrows, hnodup⟩)
    rcases Lib.bind_eq_error.mp h with h | ⟨_, -, h⟩
    · exact .inr (.inl (Lib.require_eq_error h).1)
    · cases h
  refine ⟨fun h => ?_, fun hkeys h => ?_⟩
  · rcases hcases h with h | h | ⟨h, -⟩
    · exact h.1 rfl
    · exact absurd h (by decide)
    · exact absurd h (by decide)
  · rcases hcases h with h | h | ⟨-, rows, hrows, hnodup⟩
    · exact h.2 rfl
    · exact absurd h (by decide)
    · exact hnodup (mapM_eventRow_keys hrows hkeys ▸ hunique)

/-- The key of a block of a decoded file is stored as it is. -/
theorem wellFormed_blockKey {source : JsString} (h : Lib.JsString.WellFormed source) {block : List JsString}
    (hblock : block ∈ liveBlocks source) : Lib.JsString.WellFormed (blockKey block) := by
  have hlines : ∀ line ∈ block, Lib.JsString.WellFormed line := fun line hline =>
    wellFormed_unfoldLines h line (mem_eventBlocks (List.mem_filter.mp hblock).1 hline)
  have huid : Lib.JsString.WellFormed (blockUid block) := wellFormed_unescapeText (wellFormed_lastValue hlines)
  unfold blockKey
  dsimp only
  split
  · exact huid
  · exact (huid.append (by decide)).append (wellFormed_unescapeText (wellFormed_lastValue hlines))

/-- What corresponds to the parts of a list, part by part. -/
theorem forall₂_split {α β : Type} {R : α → β → Prop} {xs : List α} {before after : List β} {y : β}
    (h : List.Forall₂ R xs (before ++ y :: after)) :
    ∃ before' x after', xs = before' ++ x :: after' ∧ R x y ∧ List.Forall₂ R after' after := by
  induction before generalizing xs with
  | nil =>
    cases h with
    | cons hxy hrest => exact ⟨[], _, _, rfl, hxy, hrest⟩
  | cons z before ih =>
    cases h with
    | @cons x _ _ _ hxz hrest =>
      obtain ⟨before', x', after', rfl, hxy, hafter⟩ := ih hrest
      exact ⟨x :: before', x', after', rfl, hxy, hafter⟩

theorem forall₂_mem {α β : Type} {R : α → β → Prop} {xs : List α} {ys : List β} (h : List.Forall₂ R xs ys) {x : α}
    (hx : x ∈ xs) : ∃ y ∈ ys, R x y := by
  induction h with
  | nil => cases hx
  | cons hxy _ ih =>
    rcases List.mem_cons.mp hx with rfl | hx
    · exact ⟨_, List.mem_cons_self, hxy⟩
    · obtain ⟨y, hy, hrel⟩ := ih hx
      exact ⟨y, List.mem_cons_of_mem _ hy, hrel⟩

theorem exactEvents_of_ok {collation : Collation} {source : JsString} {events : List ImportedEvent}
    (h : parseICalendar collation source = .ok events) : ExactEvents source events := by
  obtain ⟨_, -, hok⟩ := Lib.bind_eq_ok.mp h
  obtain ⟨_, -, hok⟩ := Lib.bind_eq_ok.mp hok
  obtain ⟨state, hread, hok⟩ := Lib.bind_eq_ok.mp hok
  obtain ⟨_, hclosed, hok⟩ := Lib.bind_eq_ok.mp hok
  cases hok
  obtain ⟨results, hresults, hevents, hcount⟩ := readLines_closed hread (Lib.require_eq_ok.mp hclosed)
  have hblocks := mapM_blockResult hresults
  change List.Forall₂ _ (liveBlocks source) _ at hblocks
  unfold addResults at hevents
  generalize results.filterMap id = added at *
  have hmem : ∀ event, event ∈ state.events.mergeSort (eventLe collation) ↔ event ∈ added.foldl setEvent [] := by
    intro event
    rw [List.mem_mergeSort, hevents]
  have hkeys : KeysNodup (added.foldl setEvent []) := KeysNodup.foldl List.nodup_nil
  have hlast : ∀ event ∈ added.foldl setEvent [], ∃ before block after,
      liveBlocks source = before ++ block :: after ∧ EventOf block event ∧
      (∀ later ∈ after, blockKey later ≠ event.eventKey) ∧ event.WellFormed := by
    intro event hevent
    obtain ⟨before, after, rfl, hafter⟩ := (mem_foldl_setEvent.mp hevent).resolve_right fun h => nomatch h.1
    obtain ⟨before', block, after', hsplit, ⟨hof, hwell⟩, hrest⟩ := forall₂_split hblocks
    refine ⟨before', block, after', hsplit, hof, fun later hlater heq => ?_, hwell⟩
    obtain ⟨laterEvent, hmemLater, hlaterOf, -⟩ := forall₂_mem hrest hlater
    exact hafter laterEvent hmemLater (hlaterOf.key.trans heq)
  have hwell : ∀ event ∈ state.events.mergeSort (eventLe collation), event.WellFormed := by
    intro event hevent
    obtain ⟨_, _, _, -, -, -, hwell⟩ := hlast event ((hmem event).mp hevent)
    exact hwell
  have hunique : ((state.events.mergeSort (eventLe collation)).map ImportedEvent.eventKey).Nodup := by
    rw [hevents]
    exact (((List.mergeSort_perm _ (eventLe collation)).map _).nodup_iff).mpr hkeys
  have hstoredKeys : Lib.JsString.WellFormed source →
      ∀ event ∈ state.events.mergeSort (eventLe collation), Lib.JsString.WellFormed event.eventKey := by
    intro hsource event hevent
    obtain ⟨before, block, after, hsplit, hof, -, -⟩ := hlast event ((hmem event).mp hevent)
    rw [hof.key]
    exact wellFormed_blockKey hsource (hsplit ▸ List.mem_append_right _ List.mem_cons_self)
  refine ⟨fun block hblock => ?_, fun event hevent => ?_, hwell, ?_, ?_, hunique, fun db feedId => ?_⟩
  · obtain ⟨event, hevent, hof, -⟩ := forall₂_mem hblocks hblock
    obtain ⟨e, he, hkey⟩ := exists_mem_foldl_setEvent [] hevent
    refine ⟨e, ⟨(hmem e).mpr he, hkey.trans hof.key⟩, ?_⟩
    rintro e' ⟨he', hkey'⟩
    exact List.inj_on_of_nodup_map hkeys ((hmem e').mp he') he (hkey'.trans (hkey.trans hof.key).symm)
  · obtain ⟨before, block, after, hsplit, hof, hafter, -⟩ := hlast event ((hmem event).mp hevent)
    exact ⟨before, block, after, hsplit, hof, hafter⟩
  · refine (List.pairwise_mergeSort (eventLe_trans collation) (eventLe_total collation) state.events).imp fun hle => ?_
    exact (eventLe_iff.mp hle).elim le_of_lt fun h => h.1.le
  · rw [List.length_mergeSort]
    exact hcount (Nat.zero_le _)
  · have hrows := eventRows_stored hwell hunique db feedId
    exact ⟨hrows.1, fun hsource => hrows.2 (hstoredKeys hsource)⟩

/-- A file is refused, or its events are those of its live blocks. -/
theorem parseICalendar_exact (collation : Collation) (source : JsString) :
    (∃ error, parseICalendar collation source = .error error) ∨
    ∃ events, parseICalendar collation source = .ok events ∧ ExactEvents source events := by
  cases hparse : parseICalendar collation source with
  | error error => exact .inl ⟨error, rfl⟩
  | ok events => exact .inr ⟨events, rfl, exactEvents_of_ok hparse⟩

end HostPlatform
