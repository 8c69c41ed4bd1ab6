-- SUMMARY: A content line is split at its value exactly if no quoted parameter has a colon.
import HostPlatform.Calendar.JoinedLines
import HostPlatform.Safety.NestedComponents

/-!
# Quoted parameters

`splitContentLine` cuts at the first colon, also at one inside a quoted parameter value.
Semicolons and commas in quotes do no harm: only the name before the first semicolon is
looked at.
-/

namespace HostPlatform

open Lib (CivilDate JsString js)
open Lib.JsString

def doubleQuote : Nat := 34

/-! ## Content lines with parameters -/

inductive ParameterValue where
  | plain (text : JsString)
  | quoted (text : JsString)
  deriving DecidableEq

def ParameterValue.written : ParameterValue → JsString
  | .plain text => text
  | .quoted text => doubleQuote :: (text ++ [doubleQuote])

/-- Only a quoted value may have colons, semicolons and commas; none has a quote. -/
def ParameterValue.WellFormed : ParameterValue → Prop
  | .plain text => ∀ u ∈ text, u ≠ doubleQuote ∧ u ≠ colon ∧ u ≠ semicolon ∧ u ≠ comma
  | .quoted text => doubleQuote ∉ text

/-- A colon in quotes. -/
def ParameterValue.HasColon : ParameterValue → Prop
  | .plain _ => False
  | .quoted text => colon ∈ text

structure Parameter where
  name : JsString
  values : List ParameterValue
  deriving DecidableEq

def Parameter.written (parameter : Parameter) : JsString :=
  parameter.name ++ js "=" ++ [comma].intercalate (parameter.values.map ParameterValue.written)

def Parameter.WellFormed (parameter : Parameter) : Prop :=
  (∀ u ∈ parameter.name, u ≠ doubleQuote ∧ u ≠ colon ∧ u ≠ semicolon ∧ u ≠ comma) ∧
  ∀ value ∈ parameter.values, value.WellFormed

def Parameter.HasColon (parameter : Parameter) : Prop := ∃ value ∈ parameter.values, value.HasColon

/-- `name;parameter;..`. -/
def writtenProperty (name : JsString) (parameters : List Parameter) : JsString :=
  name ++ parameters.flatMap fun parameter => semicolon :: parameter.written

def assembleLine (name : JsString) (parameters : List Parameter) (value : JsString) : JsString :=
  writtenProperty name parameters ++ colon :: value

/-! ## Splitting them -/

theorem mem_intercalate {u : Nat} {sep : JsString} (h : u ∉ sep) (parts : List JsString) :
    u ∈ sep.intercalate parts ↔ ∃ part ∈ parts, u ∈ part := by
  induction parts with
  | nil => simp
  | cons part parts ih =>
    cases parts with
    | nil => simp
    | cons next parts =>
      rw [List.intercalate_cons_cons, List.mem_append, List.mem_append, ih]
      simp [h]

theorem infix_intercalate {part : JsString} {sep : JsString} {parts : List JsString} (h : part ∈ parts) :
    part <:+: sep.intercalate parts := by
  induction parts with
  | nil => cases h
  | cons first parts ih =>
    cases parts with
    | nil =>
      rw [List.mem_singleton.mp h]
      simp
    | cons next parts =>
      rw [List.intercalate_cons_cons]
      rcases List.mem_cons.mp h with rfl | h
      · exact ⟨[], sep ++ sep.intercalate (next :: parts), by simp⟩
      · exact (ih h).trans (List.suffix_append _ _).isInfix

theorem colon_mem_written {parameter : Parameter} (h : parameter.WellFormed) :
    colon ∈ parameter.written ↔ parameter.HasColon := by
  have hvalue : ∀ value ∈ parameter.values, colon ∈ value.written ↔ value.HasColon := by
    intro value hvalue
    cases value with
    | plain text =>
      simp only [ParameterValue.written, ParameterValue.HasColon, iff_false]
      exact fun hmem => ((h.2 _ hvalue) colon hmem).2.1 rfl
    | quoted text =>
      simp [ParameterValue.written, ParameterValue.HasColon, colon, doubleQuote]
  have hname : colon ∉ parameter.name := fun hmem => (h.1 colon hmem).2.1 rfl
  have hequals : colon ∉ js "=" := by decide
  have hcomma : colon ∉ [comma] := by decide
  simp only [Parameter.written, List.mem_append, hname, hequals, false_or, mem_intercalate hcomma,
    List.mem_map, exists_exists_and_eq_and, Parameter.HasColon]
  exact ⟨fun ⟨value, hmem, hcolon⟩ => ⟨value, hmem, (hvalue value hmem).mp hcolon⟩,
    fun ⟨value, hmem, hcolon⟩ => ⟨value, hmem, (hvalue value hmem).mpr hcolon⟩⟩

theorem colon_mem_property {name : JsString} {parameters : List Parameter} (hname : colon ∉ name)
    (h : ∀ parameter ∈ parameters, parameter.WellFormed) :
    colon ∈ writtenProperty name parameters ↔ ∃ parameter ∈ parameters, parameter.HasColon := by
  have hsemicolon : colon ≠ semicolon := by decide
  simp only [writtenProperty, List.mem_append, hname, false_or, List.mem_flatMap, List.mem_cons, hsemicolon]
  exact ⟨fun ⟨parameter, hmem, hcolon⟩ => ⟨parameter, hmem, (colon_mem_written (h parameter hmem)).mp hcolon⟩,
    fun ⟨parameter, hmem, hcolon⟩ => ⟨parameter, hmem, (colon_mem_written (h parameter hmem)).mpr hcolon⟩⟩

theorem idxOf?_append_cons {u : Nat} {a : JsString} (h : u ∉ a) (b : JsString) :
    (a ++ u :: b).idxOf? u = some a.length := by
  rw [List.idxOf?_eq_some_iff]
  refine ⟨by simp, by simp, fun j hj => ?_⟩
  rw [List.getElem_append_left hj]
  exact fun heq => h (heq ▸ List.getElem_mem hj)

/-- The text before the first semicolon. -/
def propertyName (property : JsString) : JsString :=
  match property.idxOf? semicolon with
  | none => property
  | some parameterSeparator => property.take parameterSeparator

theorem propertyName_written {name : JsString} (hname : semicolon ∉ name) (parameters : List Parameter) :
    propertyName (writtenProperty name parameters) = name := by
  unfold propertyName
  cases parameters with
  | nil =>
    have hnone : (writtenProperty name []).idxOf? semicolon = none := by
      simpa [writtenProperty, List.idxOf?_eq_none_iff] using hname
    rw [hnone]
    simp [writtenProperty]
  | cons parameter parameters =>
    have hsplit : writtenProperty name (parameter :: parameters) = name ++ semicolon ::
        (parameter.written ++ parameters.flatMap fun parameter => semicolon :: parameter.written) := by
      simp [writtenProperty]
    rw [hsplit, idxOf?_append_cons hname]
    exact List.take_left

/-- A line is cut at the first colon that is not its first unit. -/
theorem splitContentLine_append {property : JsString} (hne : property ≠ []) (hcolon : colon ∉ property)
    (value : JsString) :
    splitContentLine (property ++ colon :: value) = (Lib.JsString.toUpperCase (propertyName property), value) := by
  have hlength : 0 < property.length := List.length_pos_iff.mpr hne
  have hdrop : (property ++ colon :: value).drop (property.length + 1) = value := by
    rw [← List.drop_drop, List.drop_left]
    rfl
  unfold splitContentLine
  rw [idxOf?_append_cons hcolon]
  split
  · rename_i heq
    cases heq
  · rename_i heq
    rw [← Option.some.inj heq] at hlength
    omega
  · rename_i separator _ heq
    obtain rfl := Option.some.inj heq
    rw [List.take_left, hdrop]
    rfl

/-- A colon before the end of the property makes the value longer. -/
theorem splitContentLine_snd_ne {property : JsString} (hcolon : colon ∈ property) (hhead : property.head? ≠ some colon)
    (value : JsString) : (splitContentLine (property ++ colon :: value)).2 ≠ value := by
  obtain ⟨before, after, rfl, hbefore⟩ := List.eq_append_cons_of_mem hcolon
  have hne : before ≠ [] := by
    rintro rfl
    exact hhead rfl
  rw [List.append_assoc, List.cons_append, splitContentLine_append hne hbefore]
  intro heq
  have hlength := congrArg List.length heq
  simp only [List.length_append, List.length_cons] at hlength
  omega

/-- The name and the value of an assembled line are read exactly if no quoted value has a
colon, and a line with no name and no parameters has no value. -/
theorem splitContentLine_assembleLine_iff {name : JsString} (hcolon : colon ∉ name) (hsemicolon : semicolon ∉ name)
    {parameters : List Parameter} (h : ∀ parameter ∈ parameters, parameter.WellFormed) (value : JsString) :
    splitContentLine (assembleLine name parameters value) = (Lib.JsString.toUpperCase name, value) ↔
      (∀ parameter ∈ parameters, ¬ parameter.HasColon) ∧ (name ≠ [] ∨ parameters ≠ [] ∨ value = []) := by
  have hmem := colon_mem_property hcolon h
  by_cases hany : ∃ parameter ∈ parameters, parameter.HasColon
  · have hhead : (writtenProperty name parameters).head? ≠ some colon := by
      intro hhead
      cases name with
      | nil =>
        obtain ⟨parameter, hparameter, -⟩ := hany
        obtain ⟨first, rest, rfl⟩ := List.exists_cons_of_ne_nil (List.ne_nil_of_mem hparameter)
        simp [writtenProperty, colon, semicolon] at hhead
      | cons u name =>
        simp only [writtenProperty, List.cons_append, List.head?_cons, Option.some.injEq] at hhead
        exact hcolon (hhead ▸ List.mem_cons_self)
    have hne := splitContentLine_snd_ne (hmem.mpr hany) hhead value
    constructor
    · intro heq
      exact absurd (congrArg Prod.snd heq) hne
    · rintro ⟨hnone, -⟩
      obtain ⟨parameter, hparameter, hhas⟩ := hany
      exact absurd hhas (hnone parameter hparameter)
  · have hnone : ∀ parameter ∈ parameters, ¬ parameter.HasColon := by
      intro parameter hparameter hhas
      exact hany ⟨parameter, hparameter, hhas⟩
    have hnot : colon ∉ writtenProperty name parameters := fun hcolon => hany (hmem.mp hcolon)
    by_cases hempty : writtenProperty name parameters = []
    · have hparts : name = [] ∧ parameters = [] := by
        unfold writtenProperty at hempty
        rw [List.append_eq_nil_iff, List.flatMap_eq_nil_iff] at hempty
        refine ⟨hempty.1, List.eq_nil_iff_forall_not_mem.mpr fun parameter hparameter => ?_⟩
        exact absurd (hempty.2 parameter hparameter) (List.cons_ne_nil _ _)
      obtain ⟨rfl, rfl⟩ := hparts
      have hread : splitContentLine (assembleLine [] [] value) = ([], []) := rfl
      rw [hread]
      simp [Lib.JsString.toUpperCase, eq_comm]
    · have hread : splitContentLine (assembleLine name parameters value) = (Lib.JsString.toUpperCase name, value) := by
        rw [assembleLine, splitContentLine_append hempty hnot, propertyName_written hsemicolon]
      refine ⟨fun _ => ⟨hnone, ?_⟩, fun _ => hread⟩
      by_contra hnothing
      simp only [not_or, not_not] at hnothing
      obtain ⟨rfl, rfl, -⟩ := hnothing
      exact hempty rfl

/-! ## Lines with added parameters -/

def annotatedNames : List JsString :=
  [js "UID", js "SUMMARY", js "DTSTART", js "DTEND", js "STATUS", js "RECURRENCE-ID"]

/-- The line as it is, or with parameters, if it is one of an event. -/
inductive WithParameters (allowed : List Parameter → Prop) : JsString → JsString → Prop
  | same (line : JsString) : WithParameters allowed line line
  | added {name : JsString} {parameters : List Parameter} (value : JsString)
    (hname : Lib.JsString.toUpperCase name ∈ annotatedNames)
      (hcolon : colon ∉ name) (hsemicolon : semicolon ∉ name) (hallowed : allowed parameters) :
      WithParameters allowed (assembleLine name [] value) (assembleLine name parameters value)

/-- Adding such parameters to lines of the file changes no result. -/
def SameEvents (allowed : List Parameter → Prop) : Prop :=
  ∀ collation source source', List.Forall₂ (WithParameters allowed) (unfoldLines source) (unfoldLines source') →
    utf8Length source ≤ maxIcalBytes → utf8Length source' ≤ maxIcalBytes →
    parseICalendar collation source' = parseICalendar collation source

/-- Nothing before a unit that is no white space is trimmed from the end. -/
theorem trimEnd_append {u : Nat} (h : isSpace u = false) (a b : JsString) : trimEnd (a ++ u :: b) = a ++ u :: trimEnd b := by
  unfold Lib.JsString.trimEnd
  induction b using List.reverseRecOn with
  | nil => exact List.rdropWhile_concat_neg _ _ _ (by simp [h])
  | append_singleton b w ih =>
    rw [← List.cons_append, ← List.append_assoc, List.rdropWhile_concat, List.rdropWhile_concat]
    split
    · exact ih
    · simp

theorem upperUnit_ne_nil (u : Nat) : upperUnit u ≠ [] := by
  unfold upperUnit
  repeat' split
  all_goals first | decide | simp

/-- The upper-case text of a line starts as that of its name. -/
theorem annotatedName_cons {name : JsString} (hname : Lib.JsString.toUpperCase name ∈ annotatedNames) :
    ∃ c s, name = c :: s ∧ isSpace c = false ∧ ∀ t, Lib.JsString.toUpperCase (c :: t) ≠ js "BEGIN:VEVENT" ∧
      Lib.JsString.toUpperCase (c :: t) ≠ js "END:VEVENT" ∧ Lib.JsString.toUpperCase (c :: t) ≠ js "BEGIN:VCALENDAR" := by
  have hheads : ∀ text ∈ annotatedNames, text.head? ∈ [some 85, some 83, some 68, some 82] := by decide
  have hhead := hheads _ hname
  cases name with
  | nil => exact absurd hname (by decide)
  | cons c s =>
    obtain ⟨v, rest, hunit⟩ := List.exists_cons_of_ne_nil (upperUnit_ne_nil c)
    have hupper : ∀ t, (Lib.JsString.toUpperCase (c :: t)).head? = some v := by
      intro t
      simp [Lib.JsString.toUpperCase, hunit]
    rw [hupper] at hhead
    refine ⟨c, s, rfl, ?_, fun t => ⟨fun heq => ?_, fun heq => ?_, fun heq => ?_⟩⟩
    · cases hspace : isSpace c with
      | false => rfl
      | true =>
        -- white space has no other case
        have hv : upperUnit c = [c] := by
          unfold isSpace at hspace
          simp only [Bool.or_eq_true, Bool.and_eq_true, decide_eq_true_eq, beq_iff_eq] at hspace
          unfold upperUnit
          repeat rw [if_neg (by omega)]
        obtain ⟨rfl, -⟩ := List.cons.inj (hunit.symm.trans hv)
        simp only [List.mem_cons, Option.some.injEq, List.not_mem_nil, or_false] at hhead
        unfold isSpace at hspace
        simp only [Bool.or_eq_true, Bool.and_eq_true, decide_eq_true_eq, beq_iff_eq] at hspace
        omega
    all_goals
      have hv := hupper t
      rw [heq] at hv
      obtain rfl := Option.some.inj hv
      exact absurd hhead (by decide)

section

variable {name : JsString} (parameters : List Parameter) (hname : Lib.JsString.toUpperCase name ∈ annotatedNames)

include hname

/-- A line of a property begins no block, ends none, and is not the start of the file. -/
theorem markers_assembleLine (value : JsString) :
    isBegin (assembleLine name parameters value) = false ∧ isEnd (assembleLine name parameters value) = false ∧
    Lib.JsString.toUpperCase (Lib.JsString.trim (assembleLine name parameters value)) ≠ js "BEGIN:VCALENDAR" := by
  obtain ⟨c, s, rfl, hspace, hupper⟩ := annotatedName_cons hname
  have hline : ∃ rest, assembleLine (c :: s) parameters value = c :: rest := ⟨_, rfl⟩
  obtain ⟨rest, hline⟩ := hline
  obtain ⟨t, ht⟩ := trimEnd_cons hspace rest
  obtain ⟨t', ht'⟩ := trimEnd_cons hspace t
  have hmarker : marker (c :: rest) = Lib.JsString.toUpperCase (c :: t') := by
    rw [marker, Lib.JsString.trim, ht, trimStart_of_head hspace, ht']
  rw [hline, ← Bool.not_eq_true, ← Bool.not_eq_true, isBegin_iff, isEnd_iff, hmarker, Lib.JsString.trim,
    trimStart_of_head hspace, ht]
  exact ⟨(hupper t').1, (hupper t').2.1, (hupper t).2.2⟩

/-- The content of a line without colons in quotes. -/
theorem contentLine_assembleLine (hcolon : colon ∉ name) (hsemicolon : semicolon ∉ name)
    (h : ∀ parameter ∈ parameters, parameter.WellFormed ∧ ¬ parameter.HasColon) (value : JsString) :
    contentLine (assembleLine name parameters value) = (Lib.JsString.toUpperCase name, trimEnd value) := by
  obtain ⟨c, s, rfl, -, -⟩ := annotatedName_cons hname
  have htrim : trimEnd (assembleLine (c :: s) parameters value) = assembleLine (c :: s) parameters (trimEnd value) :=
    trimEnd_append (by decide) _ _
  rw [contentLine, htrim]
  exact (splitContentLine_assembleLine_iff hcolon hsemicolon (fun p hp => (h p hp).1) _).mpr
    ⟨fun p hp => (h p hp).2, .inl (List.cons_ne_nil _ _)⟩

end

theorem readProperty_of_contentLine {line line' : JsString} (h : contentLine line = contentLine line')
    (pending : PendingEvent) : readProperty pending (trimEnd line) = readProperty pending (trimEnd line') := by
  unfold contentLine at h
  unfold readProperty
  rw [h]

theorem readLine_of_contentLine {line line' : JsString} (hbegin : isBegin line = false) (hend : isEnd line = false)
    (hbegin' : isBegin line' = false) (hend' : isEnd line' = false) (h : contentLine line = contentLine line')
    (state : ParserState) : readLine state line = readLine state line' := by
  obtain ⟨events, pending⟩ := state
  cases pending with
  | none => rw [readLine_outside hbegin hend, readLine_outside hbegin' hend']
  | some pending => rw [readLine_inside hbegin hend, readLine_inside hbegin' hend', readProperty_of_contentLine h]

/-- Parameters without colons in quotes are not seen. -/
theorem sameEvents_of_no_colon {allowed : List Parameter → Prop}
    (h : ∀ parameters, allowed parameters → ∀ parameter ∈ parameters, parameter.WellFormed ∧ ¬ parameter.HasColon) :
    SameEvents allowed := by
  intro collation source source' hlines hsize hsize'
  have hline : ∀ {line line' : JsString}, WithParameters allowed line line' → ∀ state,
      readLine state line' = readLine state line ∧
      (Lib.JsString.toUpperCase (Lib.JsString.trim line') == js "BEGIN:VCALENDAR") =
        (Lib.JsString.toUpperCase (Lib.JsString.trim line) == js "BEGIN:VCALENDAR") := by
    intro line line' hwith state
    cases hwith with
    | same => exact ⟨rfl, rfl⟩
    | @added name parameters value hname hcolon hsemicolon hallowed =>
      obtain ⟨hbegin, hend, hcalendar⟩ := markers_assembleLine [] hname value
      obtain ⟨hbegin', hend', hcalendar'⟩ := markers_assembleLine parameters hname value
      have hcontent := contentLine_assembleLine [] hname hcolon hsemicolon nofun value
      have hcontent' := contentLine_assembleLine parameters hname hcolon hsemicolon (h parameters hallowed) value
      refine ⟨readLine_of_contentLine hbegin' hend' hbegin hend (hcontent'.trans hcontent.symm) state, ?_⟩
      rw [beq_eq_false_iff_ne.mpr hcalendar, beq_eq_false_iff_ne.mpr hcalendar']
  have hread : ∀ {lines lines' : List JsString}, List.Forall₂ (WithParameters allowed) lines lines' →
      ∀ state, readLines state lines' = readLines state lines := by
    intro lines lines' hlines
    induction hlines with
    | nil => exact fun _ => rfl
    | @cons line line' _ _ hwith _ ih =>
      intro state
      unfold readLines at ih ⊢
      rw [List.foldlM_cons, List.foldlM_cons, (hline hwith state).1]
      exact bind_congr ih
  have hany : ∀ {lines lines' : List JsString}, List.Forall₂ (WithParameters allowed) lines lines' →
      (lines'.any fun line => Lib.JsString.toUpperCase (Lib.JsString.trim line) == js "BEGIN:VCALENDAR") =
        lines.any fun line => Lib.JsString.toUpperCase (Lib.JsString.trim line) == js "BEGIN:VCALENDAR" := by
    intro lines lines' hlines
    induction hlines with
    | nil => rfl
    | cons hwith _ ih => rw [List.any_cons, List.any_cons, ih, (hline hwith .start).2]
  unfold parseICalendar
  dsimp only
  rw [Lib.require_of hsize, Lib.require_of hsize', hany hlines, hread hlines]

/-! ## A colon in quotes is seen -/

/-- After the first colon of a property with a colon in quotes there is a quote. -/
theorem quote_after_colon {name : JsString} {parameters : List Parameter} {before after : JsString}
    (h : ∃ parameter ∈ parameters, parameter.HasColon) (hsplit : writtenProperty name parameters = before ++ colon :: after)
    (hbefore : colon ∉ before) : doubleQuote ∈ after := by
  -- some colon has a quote after it, and the first colon is no later
  obtain ⟨first, last, heq, hquote⟩ : ∃ first last, writtenProperty name parameters = first ++ colon :: last ∧
      doubleQuote ∈ last := by
    obtain ⟨parameter, hparameter, value, hvalue, hhas⟩ := h
    cases value with
    | plain text => cases hhas
    | quoted text =>
      obtain ⟨t, t', htext⟩ := List.append_of_mem hhas
      obtain ⟨ps, ps', rfl⟩ := List.append_of_mem hparameter
      have hinfix : ParameterValue.written (.quoted text) <:+: writtenProperty name (ps ++ parameter :: ps') := by
        have hin : ParameterValue.written (.quoted text) <:+: parameter.written := by
          have hmem : ParameterValue.written (.quoted text) ∈ parameter.values.map ParameterValue.written :=
            List.mem_map_of_mem hvalue
          exact (infix_intercalate hmem).trans (List.suffix_append _ _).isInfix
        have hflat : parameter.written <:+: (ps ++ parameter :: ps').flatMap fun p => semicolon :: p.written := by
          simp only [List.flatMap_append, List.flatMap_cons]
          exact ⟨(ps.flatMap fun p => semicolon :: p.written) ++ [semicolon], ps'.flatMap fun p => semicolon :: p.written,
            by simp⟩
        exact hin.trans (hflat.trans (List.suffix_append _ _).isInfix)
      obtain ⟨x, y, hxy⟩ := hinfix
      refine ⟨x ++ doubleQuote :: t, t' ++ doubleQuote :: y, ?_, by simp⟩
      rw [← hxy, ParameterValue.written, htext]
      simp
  rw [hsplit] at heq
  rcases List.append_eq_append_iff.mp heq with ⟨mid, rfl, hrest⟩ | ⟨mid, rfl, hrest⟩
  · cases mid with
    | nil =>
      simp only [List.nil_append, List.cons.injEq, true_and] at hrest
      exact hrest ▸ hquote
    | cons u mid =>
      simp only [List.cons_append, List.cons.injEq] at hrest
      rw [hrest.2]
      exact List.mem_append_right _ (List.mem_cons_of_mem _ hquote)
  · cases mid with
    | nil =>
      simp only [List.nil_append, List.cons.injEq, true_and] at hrest
      exact hrest ▸ hquote
    | cons u mid =>
      simp only [List.cons_append, List.cons.injEq] at hrest
      exact absurd (List.mem_append_right _ (hrest.1 ▸ List.mem_cons_self)) hbefore

theorem mem_replacePairs {isMatch : Nat → Nat → Bool} {out : JsString} {u : Nat}
    (hfirst : ∀ v, isMatch u v = false) (hsecond : ∀ v, isMatch v u = false) {s : JsString} (h : u ∈ s) :
    u ∈ replacePairs isMatch out s := by
  induction s using replacePairs.induct isMatch with
  | case1 a b s hmatch ih =>
    have hne : u ≠ a ∧ u ≠ b := by
      refine ⟨?_, ?_⟩
      · rintro rfl
        rw [hfirst b] at hmatch
        cases hmatch
      · rintro rfl
        rw [hsecond a] at hmatch
        cases hmatch
    rw [replacePairs, if_pos hmatch]
    simp only [List.mem_cons, hne.1, hne.2, false_or] at h
    exact List.mem_append_right _ (ih h)
  | case2 a b s hmatch ih =>
    rw [replacePairs, if_neg hmatch]
    rcases List.mem_cons.mp h with rfl | h
    · exact List.mem_cons_self
    · exact List.mem_cons_of_mem _ (ih h)
  | case3 s hs =>
    have hsame : replacePairs isMatch out s = s := by
      cases s with
      | nil => rfl
      | cons a s =>
        cases s with
        | nil => rfl
        | cons b s => exact absurd rfl (hs a b s)
    rw [hsame]
    exact h

theorem mem_trim {u : Nat} {s : JsString} (hspace : isSpace u = false) (h : u ∈ s) : u ∈ Lib.JsString.trim s := by
  obtain ⟨before, after, hs, hbefore, hafter⟩ := trim_parts s
  rw [hs] at h
  simp only [List.mem_append] at h
  rcases h with (h | h) | h
  · rw [hbefore u h] at hspace
    cases hspace
  · exact h
  · rw [hafter u h] at hspace
    cases hspace

/-- A quote of the value is in what is read of it. -/
theorem quote_mem_unescapeText {value : JsString} (h : doubleQuote ∈ value) : doubleQuote ∈ unescapeText value := by
  have hfirst : ∀ chars v, isEscaped chars doubleQuote v = false := fun chars v => rfl
  have hsecond : ∀ chars : JsString, doubleQuote ∉ chars → ∀ v, isEscaped chars v doubleQuote = false := by
    intro chars hnot v
    rw [← Bool.not_eq_true, isEscaped, Bool.and_eq_true, List.contains_iff_mem]
    exact fun hboth => hnot hboth.2
  unfold unescapeText
  refine mem_trim (by decide) ?_
  refine mem_replacePairs (hfirst _) (hsecond _ (by decide)) ?_
  refine mem_replacePairs (hfirst _) (hsecond _ (by decide)) ?_
  refine mem_replacePairs (hfirst _) (hsecond _ (by decide)) ?_
  exact mem_replacePairs (hfirst _) (hsecond _ (by decide)) h

def datesOfEvent : List JsString := [js "DTSTART:20260101", js "DTEND:20260201"]

/-- With a colon in quotes, the value that is read has a quote. -/
theorem blockUid_ne_of_hasColon {parameters : List Parameter} (h : ∀ parameter ∈ parameters, parameter.WellFormed)
    (hany : ∃ parameter ∈ parameters, parameter.HasColon) :
    blockUid (assembleLine (js "UID") parameters (js "a") :: datesOfEvent) ≠ js "a" := by
  intro huid
  have hcolon : colon ∈ writtenProperty (js "UID") parameters := (colon_mem_property (by decide) h).mpr hany
  obtain ⟨before, after, hsplit, hbefore⟩ := List.eq_append_cons_of_mem hcolon
  have hquote := quote_after_colon hany hsplit hbefore
  have hne : before ≠ [] := by
    rintro rfl
    exact absurd (List.cons.inj hsplit).1 (by decide)
  have hcontent : (contentLine (assembleLine (js "UID") parameters (js "a"))).2 = after ++ colon :: js "a" := by
    have htrim : trimEnd (assembleLine (js "UID") parameters (js "a")) = assembleLine (js "UID") parameters (js "a") :=
      trimEnd_append (by decide) _ _
    rw [contentLine, htrim, assembleLine, hsplit, List.append_assoc, List.cons_append,
      splitContentLine_append hne hbefore]
  have hnone : lastValue (js "UID") datesOfEvent = none := by decide +kernel
  rw [blockUid, lastValue_cons, hnone, Option.none_or, lastValue_singleton] at huid
  split at huid
  · rw [Option.getD_some, hcontent] at huid
    have hmem := quote_mem_unescapeText (List.mem_append_left (colon :: js "a") hquote)
    rw [huid] at hmem
    exact absurd hmem (by decide)
  · exact absurd huid (by decide)

/-- Parameters that change no event leave the event of the block as it was without them. -/
theorem SameEvents.sameBlock {parameters : List Parameter} (hwritten : NoBreak (writtenProperty [] parameters))
    (hsize : (writtenProperty [] parameters).length ≤ 600000) (hsame : SameEvents (· = parameters)) :
    blockResult (assembleLine (js "UID") parameters (js "a") :: datesOfEvent) =
      .ok (some ⟨js "a", js "a", ⟨2026, 1, 1, by decide⟩, ⟨2026, 2, 1, by decide⟩, none⟩) := by
  have hline : assembleLine (js "UID") parameters (js "a") = js "UID" ++ writtenProperty [] parameters ++ js ":a" := rfl
  have hannotated : Lib.JsString.toUpperCase (js "UID") ∈ annotatedNames := by decide
  have hdates : ∀ line ∈ datesOfEvent, IsLogicalLine line := by
    unfold IsLogicalLine NoBreak
    decide
  have hdatesMarker : ∀ line ∈ datesOfEvent, isBegin line = false ∧ isEnd line = false := by decide
  have hlogical : ∀ line ∈ assembleLine (js "UID") parameters (js "a") :: datesOfEvent, IsLogicalLine line := by
    have huid : NoBreak (js "UID") := by unfold NoBreak; decide
    have hend : NoBreak (js ":a") := by unfold NoBreak; decide
    refine List.forall_mem_cons.mpr ⟨?_, hdates⟩
    rw [hline]
    exact ⟨(huid.append hwritten).append hend, rfl⟩
  have hlogical' : ∀ line ∈ js "UID:a" :: datesOfEvent, IsLogicalLine line := by
    refine List.forall_mem_cons.mpr ⟨?_, hdates⟩
    unfold IsLogicalLine NoBreak
    decide
  have hmarker : ∀ line ∈ assembleLine (js "UID") parameters (js "a") :: datesOfEvent,
      isBegin line = false ∧ isEnd line = false := by
    have hmarkers := markers_assembleLine parameters hannotated (js "a")
    exact List.forall_mem_cons.mpr ⟨⟨hmarkers.1, hmarkers.2.1⟩, hdatesMarker⟩
  have hlength : writtenLength (assembleLine (js "UID") parameters (js "a") :: datesOfEvent) ≤ 650000 := by
    rw [hline]
    simp only [writtenLength, List.map_cons, List.sum_cons, List.length_append]
    simp [js, ofChar, datesOfEvent]
    omega
  have hlength' : writtenLength (js "UID:a" :: datesOfEvent) ≤ 650000 := by decide
  -- the two files
  have hlines : List.Forall₂ (WithParameters (· = parameters))
      (unfoldLines (joinedLines (oneEventLines (js "UID:a" :: datesOfEvent))))
      (unfoldLines (joinedLines (oneEventLines (assembleLine (js "UID") parameters (js "a") :: datesOfEvent)))) := by
    have hrefl : ∀ lines : List JsString, List.Forall₂ (WithParameters (· = parameters)) lines lines :=
      fun lines => List.forall₂_same.mpr fun line _ => .same line
    rw [unfoldLines_oneEvent hlogical', unfoldLines_oneEvent hlogical]
    refine List.rel_append (hrefl _) (List.rel_append (.cons ?_ (hrefl _)) (hrefl _))
    exact WithParameters.added (js "a") hannotated (by decide) (by decide) rfl
  have hparse := (parse_oneEvent hlogical' (List.forall_mem_cons.mpr ⟨by decide, hdatesMarker⟩) hlength'
    sampleCollation _).mpr
    ⟨some ⟨js "a", js "a", ⟨2026, 1, 1, by decide⟩, ⟨2026, 2, 1, by decide⟩, none⟩, by decide +kernel, rfl⟩
  have hparse' := (hsame sampleCollation _ _ hlines (utf8Length_oneEvent hlength') (utf8Length_oneEvent hlength)).trans hparse
  obtain ⟨result, hresult, hevents⟩ := (parse_oneEvent hlogical hmarker hlength sampleCollation _).mp hparse'
  cases result with
  | none => cases hevents
  | some event =>
    obtain rfl := List.singleton_inj.mp hevents
    exact hresult

/-- Parameters with a colon in quotes on the UID line give another UID. -/
theorem not_sameEvents {parameters : List Parameter} (h : ∀ parameter ∈ parameters, parameter.WellFormed)
    (hwritten : NoBreak (writtenProperty [] parameters)) (hsize : (writtenProperty [] parameters).length ≤ 600000)
    (hany : ∃ parameter ∈ parameters, parameter.HasColon) : ¬ SameEvents (· = parameters) := by
  intro hsame
  obtain ⟨-, hof⟩ := live_of_blockResult (hsame.sameBlock hwritten hsize)
  exact blockUid_ne_of_hasColon h hany hof.uid.symm

/-- Reading a content line back, and adding parameters to lines of events: both go well exactly
if no quoted value has a colon. -/
theorem quotedParameters_iff {parameters : List Parameter} (h : ∀ parameter ∈ parameters, parameter.WellFormed)
    (allowed : List Parameter → Prop) :
    (∀ name value, colon ∉ name → semicolon ∉ name →
      (splitContentLine (assembleLine name parameters value) = (Lib.JsString.toUpperCase name, value) ↔
        (∀ parameter ∈ parameters, ¬ parameter.HasColon) ∧ (name ≠ [] ∨ parameters ≠ [] ∨ value = []))) ∧
    (NoBreak (writtenProperty [] parameters) → (writtenProperty [] parameters).length ≤ 600000 →
      (SameEvents (· = parameters) ↔ ∀ parameter ∈ parameters, ¬ parameter.HasColon)) ∧
    ((∀ ps, allowed ps → ∀ parameter ∈ ps, parameter.WellFormed ∧ ¬ parameter.HasColon) → SameEvents allowed) := by
  refine ⟨fun name value hcolon hsemicolon => splitContentLine_assembleLine_iff hcolon hsemicolon h value,
    fun hwritten hsize => ⟨fun hsame parameter hmem hhas => ?_, fun hnone => ?_⟩, fun hall => sameEvents_of_no_colon hall⟩
  · exact not_sameEvents h hwritten hsize ⟨parameter, hmem, hhas⟩ hsame
  · refine sameEvents_of_no_colon fun ps hps parameter hmem => ?_
    subst hps
    exact ⟨h parameter hmem, hnone parameter hmem⟩

/-- `ALTREP="cid:x"`. -/
def altrep : Parameter := ⟨js "ALTREP", [.quoted (js "cid:x")]⟩

/-- `X-A="b;c,d"`. -/
def quotedList : Parameter := ⟨js "X-A", [.quoted (js "b;c,d")]⟩

theorem wellFormed_quotedList : quotedList.WellFormed := by
  refine ⟨by decide, fun value hvalue => ?_⟩
  rw [List.mem_singleton.mp hvalue]
  exact fun hmem => absurd hmem (by decide)

theorem quotedList_read :
    splitContentLine (assembleLine (js "Status") [quotedList] (js "CANCELLED")) = (js "STATUS", js "CANCELLED") :=
  ((quotedParameters_iff (List.forall_mem_singleton.mpr wellFormed_quotedList) fun _ => False).1
    (js "Status") (js "CANCELLED") (by decide) (by decide)).mpr
    ⟨List.forall_mem_singleton.mpr fun ⟨value, hvalue, hhas⟩ => by
      rw [List.mem_singleton.mp hvalue] at hhas
      exact (by decide : colon ∉ js "b;c,d") hhas, .inl (by decide)⟩

/-- The value is cut inside the quotes. -/
theorem altrep_cut : altrep.WellFormed ∧ assembleLine (js "SUMMARY") [altrep] (js "Booked") = js "SUMMARY;ALTREP=\"cid:x\":Booked" ∧
    splitContentLine (assembleLine (js "SUMMARY") [altrep] (js "Booked")) = (js "SUMMARY", js "x\":Booked") := by
  refine ⟨⟨by decide, fun value hvalue => ?_⟩, by decide, by decide +kernel⟩
  rw [List.mem_singleton.mp hvalue]
  exact fun hmem => absurd hmem (by decide)

end HostPlatform
