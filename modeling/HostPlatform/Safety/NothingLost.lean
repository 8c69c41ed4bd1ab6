-- SUMMARY: The statements that are cut out of a text leave out white space and line comments only; where they leave out more.
import HostPlatform.Migrations.StatementPieces

/-!
# Splitting loses nothing

The text is the statements in order with white space and line comments between them. A
piece that the final filter drops is made of these alone, since the first unit of a piece
that is neither stays when the comments are stripped. `trim` takes white space from
inside a string only where the text ends there.
-/

namespace HostPlatform

open Lib (JsString js)
open Lib.JsString (lf hyphen semicolon isSpace)

/-! ## What the filter keeps -/

theorem hasCode_eq_true {s : JsString} :
    hasCode s = true ↔ ∃ u ∈ stripLineComments false s, isSpace u = false := by
  rw [hasCode, decide_eq_true_iff, List.length_pos_iff, ne_eq, Lib.JsString.trim_eq_nil]
  simp

theorem mem_stripLineComments {u : Nat} {s : JsString} {inComment : Bool}
    (hu : u ∈ stripLineComments inComment s) : u ∈ s := by
  induction s generalizing inComment with
  | nil => cases inComment <;> cases hu
  | cons v s ih =>
    cases inComment with
    | true =>
      simp only [stripLineComments] at hu
      split at hu
      · exact (List.mem_cons.mp hu).elim (fun h => h ▸ List.mem_cons_self) fun h => List.mem_cons_of_mem v (ih h)
      · exact List.mem_cons_of_mem v (ih hu)
    | false =>
      simp only [stripLineComments] at hu
      split at hu
      · exact List.mem_cons_of_mem v (ih hu)
      · exact (List.mem_cons.mp hu).elim (fun h => h ▸ List.mem_cons_self) fun h => List.mem_cons_of_mem v (ih h)

/-- White space before the code stays where it is. -/
theorem stripLineComments_space {w : JsString} (hw : ∀ u ∈ w, isSpace u = true) (s : JsString) :
    stripLineComments false (w ++ s) = w ++ stripLineComments false s := by
  induction w with
  | nil => rfl
  | cons u w ih =>
    have hu : u ≠ hyphen := by
      rintro rfl
      cases hw hyphen List.mem_cons_self
    simp [stripLineComments, hu, ih fun v hv => hw v (List.mem_cons_of_mem u hv)]

/-- White space after the code brings none. -/
theorem stripLineComments_append_space {w : JsString} (hw : ∀ u ∈ w, isSpace u = true) {s : JsString}
    {inComment : Bool} (h : ∃ u ∈ stripLineComments inComment (s ++ w), isSpace u = false) :
    ∃ u ∈ stripLineComments inComment s, isSpace u = false := by
  induction s generalizing inComment with
  | nil =>
    obtain ⟨u, hu, hcode⟩ := h
    rw [hw u (mem_stripLineComments hu)] at hcode
    cases hcode
  | cons v s ih =>
    have hhead : s.head? = some hyphen ↔ (s ++ w).head? = some hyphen := by
      cases s with
      | nil =>
        cases w with
        | nil => rfl
        | cons u w =>
          have hu : u ≠ hyphen := by
            rintro rfl
            cases hw hyphen List.mem_cons_self
          simp [hu]
      | cons => rfl
    cases inComment with
    | true =>
      simp only [List.cons_append, stripLineComments] at h ⊢
      split
      case isTrue hline =>
        simp only [hline, if_true, List.mem_cons, exists_eq_or_imp] at h ⊢
        exact h.imp_right ih
      case isFalse hline =>
        simp only [hline, Bool.false_eq_true, if_false] at h
        exact ih h
    | false =>
      simp only [List.cons_append, stripLineComments, ← hhead] at h ⊢
      split
      case isTrue hcomment =>
        rw [if_pos hcomment] at h
        exact ih h
      case isFalse hcomment =>
        simp only [hcomment, if_false, List.mem_cons, exists_eq_or_imp] at h ⊢
        exact h.imp_right ih

theorem hasCode_trim {s : JsString} (h : hasCode s = true) : hasCode (Lib.JsString.trim s) = true := by
  obtain ⟨before, after, hs, hbefore, hafter⟩ := Lib.JsString.trim_parts s
  rw [hasCode_eq_true] at h ⊢
  rw [hs, List.append_assoc, stripLineComments_space hbefore] at h
  obtain ⟨u, hu, hcode⟩ := h
  refine stripLineComments_append_space hafter ⟨u, ?_, hcode⟩
  refine (List.mem_append.mp hu).resolve_left fun hmem => ?_
  rw [hbefore u hmem] at hcode
  cases hcode

/-- The code on a line survives what is stripped of the line before it. -/
theorem stripLineComments_line {c s : JsString} (hc : lf ∉ c)
    (h : ∃ u ∈ stripLineComments false (lf :: s), isSpace u = false) (inComment : Bool) :
    ∃ u ∈ stripLineComments inComment (c ++ lf :: s), isSpace u = false := by
  induction c generalizing inComment with
  | nil =>
    cases inComment with
    | true =>
      have hlf : lf ≠ hyphen := by decide
      simpa [stripLineComments, isLineTerminator, hlf] using h
    | false => exact h
  | cons v c ih =>
    have hline := ih fun hmem => hc (List.mem_cons_of_mem v hmem)
    cases inComment with
    | true =>
      simp only [List.cons_append, stripLineComments]
      split
      · simp only [List.mem_cons, exists_eq_or_imp]
        exact .inr (hline false)
      · exact hline true
    | false =>
      simp only [List.cons_append, stripLineComments]
      split
      · exact hline true
      · simp only [List.mem_cons, exists_eq_or_imp]
        exact .inr (hline false)

/-! ## Pieces -/

theorem Droppable.append {following : JsString} {m t : Marked} (hm : Droppable (t.text ++ following) m)
    (ht : Droppable following t) : Droppable following (m ++ t) := by
  induction hm with
  | nil => exact ht
  | space hspace _ ih => exact .space hspace ih
  | lineComment line ends _ ih =>
    rw [List.append_assoc]
    exact .lineComment line (by simpa using ends) ih

/-- Of what follows, the first unit alone matters. -/
theorem Droppable.of_head {following following' : JsString} (hhead : following.head? = following'.head?)
    {m : Marked} (hm : Droppable following m) : Droppable following' m := by
  induction hm with
  | nil => exact .nil
  | space hspace _ ih => exact .space hspace ih
  | lineComment line ends _ ih =>
    refine .lineComment line ?_ ih
    rwa [List.head?_append, ← hhead, ← List.head?_append]

theorem Droppable.outside {following : JsString} {m : Marked} (h : Droppable following m) :
    ∀ p ∈ m, p.2 = false := by
  induction h with
  | nil => simp
  | space _ _ ih => simpa using ih
  | lineComment _ _ _ ih =>
    intro p hp
    refine (List.mem_append.mp hp).elim (fun hmem => ?_) (ih p)
    obtain ⟨u, -, rfl⟩ := List.mem_map.mp hmem
    rfl

/-- A piece with code in it: after white space and comments, a unit that is neither. -/
def CodePiece (following : JsString) (m : Marked) : Prop :=
  ∃ b u inside, ∃ r : Marked, m = b ++ (u, inside) :: r ∧ Droppable [u] b ∧ isSpace u = false ∧
    ¬ (u = hyphen ∧ (r.text ++ following).head? = some hyphen)

theorem CodePiece.read {t left : JsString} {m : Marked} (h : CodePiece (t ++ left) m) (inside : Bool) :
    CodePiece left (m ++ mark inside t) := by
  obtain ⟨b, u, i, r, rfl, hb, hspace, hcomment⟩ := h
  exact ⟨b, u, i, r ++ mark inside t, by simp, hb, hspace, by simpa using hcomment⟩

theorem CodePiece.cut {following : JsString} {m : Marked} (h : CodePiece following m) : CodePiece [] m := by
  obtain ⟨b, u, i, r, rfl, hb, hspace, hcomment⟩ := h
  refine ⟨b, u, i, r, rfl, hb, hspace, fun ⟨hu, hhead⟩ => hcomment ⟨hu, ?_⟩⟩
  rw [List.append_nil] at hhead
  rw [List.head?_append, hhead]
  rfl

theorem CodePiece.hasCode {m : Marked} (h : CodePiece [] m) : hasCode m.text = true := by
  obtain ⟨b, u, inside, r, rfl, hb, hspace, hcomment⟩ := h
  rw [List.append_nil] at hcomment
  rw [hasCode_eq_true, Marked.text_append, Marked.text_cons]
  induction hb with
  | nil => exact ⟨u, by simp [stripLineComments, hcomment], hspace⟩
  | @space v m hv _ ih =>
    obtain ⟨w, hw, hcode⟩ := ih
    refine ⟨w, ?_, hcode⟩
    rw [Marked.text_cons, List.cons_append, ← List.singleton_append,
      stripLineComments_space (by simpa using hv)]
    exact List.mem_cons_of_mem v hw
  | @lineComment c m line ends _ ih =>
    rw [Marked.text_append, text_mark, List.append_assoc]
    cases hrest : Marked.text m ++ u :: Marked.text r with
    | nil => simp at hrest
    | cons v rest =>
      have hlf : v = lf := ends v (by
        have hhead := congrArg List.head? hrest
        rw [List.head?_append] at hhead ⊢
        exact hhead)
      rw [hrest, hlf] at ih
      rw [hlf]
      exact stripLineComments_line (c := hyphen :: hyphen :: c) (by simp [line]; decide) ih false

/-- The unit is white space. -/
def markedSpace (p : Nat × Bool) : Bool := isSpace p.1

/-- The white space that a piece begins with is no part of a string. -/
def LeadsOutside (m : Marked) : Prop := ∀ p ∈ m.takeWhile markedSpace, p.2 = false

theorem Droppable.leadsOutside {following : JsString} {m : Marked} (h : Droppable following m) :
    LeadsOutside m :=
  fun p hp => h.outside p ((List.takeWhile_sublist _).mem hp)

theorem CodePiece.leadsOutside {following : JsString} {m : Marked} (h : CodePiece following m) :
    LeadsOutside m := by
  obtain ⟨b, u, inside, r, rfl, hb, hspace, -⟩ := h
  intro p hp
  refine hb.outside p ?_
  rw [List.takeWhile_append] at hp
  split at hp
  · simpa [hspace, markedSpace] using hp
  · exact (List.takeWhile_sublist _).mem hp

/-- What the scanner holds of the text since the last cut: no code yet, or a piece with code. -/
structure Held (st : SplitState) (sql : JsString) (m : Marked) : Prop where
  text : m.text = st.current
  piece : (st.inside = false ∧ Droppable sql m) ∨ CodePiece sql m

theorem Held.cut {st : SplitState} {sql : JsString} (hcode : st.inside = false) (hcut : st.current = []) :
    Held st sql [] := ⟨hcut.symm, .inl ⟨hcode, .nil⟩⟩

/-- The first unit of code after white space and comments. -/
theorem Droppable.codePiece {u : Nat} {s left : JsString} {m : Marked}
    (hm : Droppable (u :: s ++ left) m) (hspace : isSpace u = false)
    (hcomment : ¬ (u = hyphen ∧ (s ++ left).head? = some hyphen)) (inside : Bool) :
    CodePiece left (m ++ mark inside (u :: s)) :=
  ⟨m, u, inside, mark inside s, rfl, hm.of_head (by rfl), hspace, by simpa using hcomment⟩

/-- A semicolon ends a piece with code: itself, if nothing before it. -/
theorem Held.codePiece {st : SplitState} {left : JsString} {m : Marked}
    (hm : Held st (semicolon :: left) m) : CodePiece left (m ++ mark false [semicolon]) := by
  cases hm.piece with
  | inl hblank => exact hblank.2.codePiece rfl (fun h => absurd h.1 (by decide)) false
  | inr hcode => exact CodePiece.read (t := [semicolon]) hcode false

theorem Reads.piece {st after : SplitState} {t left : JsString} {inside : Bool} {m : Marked}
    (hreads : Reads st t left inside after) (hm : Held st (t ++ left) m) :
    (after.inside = false ∧ Droppable left (m ++ mark inside t)) ∨ CodePiece left (m ++ mark inside t) := by
  cases hm.piece with
  | inr hcode => exact .inr (hcode.read inside)
  | inl hblank =>
    obtain ⟨hcode, hblank⟩ := hblank
    cases hreads with
    | inside statements current opening closing =>
      obtain ⟨u, s, rfl, hspace, hu⟩ := opening hcode
      exact .inr (hblank.codePiece hspace (fun h => hu h.1) true)
    | @lineComment c _ outside line ends =>
      refine .inl ⟨outside, hblank.of_head ?_ |>.append ?_⟩
      · rw [text_mark]
      · have hcomment : Droppable left (mark false (hyphen :: hyphen :: c) ++ []) :=
          .lineComment line ends .nil
        rwa [List.append_nil] at hcomment
    | semicolon outside => exact .inr hm.codePiece
    | @unit u _ outside goesOn code =>
      cases hspace : isSpace u with
      | true => exact .inl ⟨outside, (text_mark false [u] ▸ hblank).append (.space hspace .nil)⟩
      | false => exact .inr (hblank.codePiece hspace code false)

/-- What the splitter makes of the text it holds and the text that is left: pieces that it
cuts off, and one at the end. -/
structure Pieces (st : SplitState) (sql : JsString) (m : Marked) (out : List Marked) (last : Marked) :
    Prop where
  statements : (splitRun st sql).statements = st.statements ++ out.map fun p => Lib.JsString.trim p.text
  current : (splitRun st sql).current = last.text
  text : m ++ marksRun st sql = out.flatten ++ last
  code : ∀ p ∈ out, CodePiece [] p ∧ p.getLast? = some (semicolon, false)
  ends : Droppable [] last ∨ CodePiece [] last

theorem splitRun_pieces {st : SplitState} (hst : st.TagRead) (sql : JsString) :
    ∀ m, Held st sql m → ∃ out last, Pieces st sql m out last := by
  refine splitRun_induction (P := fun st sql => ∀ m, Held st sql m → ∃ out last, Pieces st sql m out last)
    ?ends ?round hst sql
  case ends =>
    intro st m hm
    exact ⟨[], m, by simp, hm.text.symm, by simp, by simp, hm.piece.imp_left And.right⟩
  case round =>
    intro st t left inside after hreads hrun hmarks ih m hm
    have hpiece := hreads.piece hm
    -- a round that cuts nothing goes on with more of the same piece
    have hmore : after.statements = st.statements → after.current = st.current ++ t →
        ∃ out last, Pieces st (t ++ left) m out last := by
      intro hstatements hcurrent
      obtain ⟨out, last, hpieces⟩ := ih (m ++ mark inside t) ⟨by simp [hm.text, hcurrent], hpiece⟩
      refine ⟨out, last, ?_, ?_, ?_, hpieces.code, hpieces.ends⟩
      · rw [hrun, hpieces.statements, hstatements]
      · rw [hrun, hpieces.current]
      · rw [hmarks, ← List.append_assoc, hpieces.text]
    cases hreads with
    | inside statements current opening closing => exact hmore statements current
    | lineComment outside line ends => exact hmore rfl rfl
    | unit outside goesOn code => exact hmore rfl rfl
    | semicolon outside =>
      obtain ⟨out, last, hpieces⟩ := ih [] (.cut outside rfl)
      refine ⟨(m ++ mark false [semicolon]) :: out, last, ?_, ?_, ?_, ?_, hpieces.ends⟩
      · rw [hrun, hpieces.statements]
        simp [hm.text]
      · rw [hrun, hpieces.current]
      · rw [hmarks, List.flatten_cons, List.append_assoc (m ++ _), ← hpieces.text, List.nil_append,
          List.append_assoc]
      · simp only [List.mem_cons, forall_eq_or_imp]
        exact ⟨⟨hm.codePiece.cut, by simp⟩, hpieces.code⟩

/-! ## White space at the end of a string -/

/-- White space inside a string is followed by more of the string. -/
def GoesOn (p q : Nat × Bool) : Prop := isSpace p.1 = true → p.2 = true → q.2 = true

theorem isChain_mark (inside : Bool) (s : JsString) : (mark inside s).IsChain GoesOn := by
  induction s with
  | nil => exact .nil
  | cons u s ih =>
    cases s with
    | nil => exact .singleton _
    | cons v s => exact .cons_cons (fun _ h => h) ih

theorem marksRun_head {st : SplitState} (hinside : st.inside = true) {sql : JsString} {p : Nat × Bool}
    (hp : (marksRun st sql).head? = some p) : p.2 = true := by
  cases sql with
  | nil => cases hp
  | cons ch rest =>
    have hround := splitRound_length st ch rest
    rw [marksRun_cons] at hp
    cases htaken : roundTaken st ch rest with
    | nil =>
      have hlength := congrArg List.length htaken
      simp only [roundTaken, List.length_take, List.length_nil] at hlength
      omega
    | cons u t =>
      rw [htaken] at hp
      cases hp
      simp [roundInside, hinside]

theorem isChain_marksRun {st : SplitState} (hst : st.TagRead) (sql : JsString) :
    (marksRun st sql).IsChain GoesOn := by
  refine splitRun_induction (P := fun st sql => (marksRun st sql).IsChain GoesOn) (fun _ => .nil) ?_ hst sql
  intro st t left inside after hreads hrun hmarks ih
  rw [hmarks, List.isChain_append]
  refine ⟨isChain_mark inside t, ih, ?_⟩
  intro p hp q hq hspace hinside
  obtain ⟨u, hu, rfl⟩ : ∃ u, t.getLast? = some u ∧ (u, inside) = p := by
    rw [mark, List.getLast?_map] at hp
    exact Option.map_eq_some_iff.mp hp
  cases hreads with
  | inside statements current opening closing =>
    cases closing u hu hspace with
    | inl hafter => exact marksRun_head hafter hq
    | inr hleft =>
      rw [hleft] at hq
      cases hq
  | lineComment => cases hinside
  | semicolon => cases hinside
  | unit => cases hinside

/-- White space at the end of a text is first outside strings, then inside one. -/
theorem space_parts {m : Marked} (hspace : ∀ p ∈ m, isSpace p.1 = true) (hm : m.IsChain GoesOn) :
    ∃ d l, m = d ++ l ∧ (∀ p ∈ d, p.2 = false) ∧ ∀ p ∈ l, p.2 = true := by
  induction m with
  | nil => exact ⟨[], [], rfl, by simp, by simp⟩
  | cons p m ih =>
    obtain ⟨d, l, rfl, hd, hl⟩ := ih (fun q hq => hspace q (List.mem_cons_of_mem p hq)) hm.tail
    cases hp : p.2 with
    | false => exact ⟨p :: d, l, rfl, List.forall_mem_cons.mpr ⟨hp, hd⟩, hl⟩
    | true =>
      cases d with
      | nil => exact ⟨[], p :: l, rfl, by simp, List.forall_mem_cons.mpr ⟨hp, hl⟩⟩
      | cons q d =>
        have hq := (List.isChain_cons_cons.mp hm).1 (hspace p List.mem_cons_self) hp
        rw [hd q List.mem_cons_self] at hq
        cases hq

theorem droppable_of_space {m : Marked} (hspace : ∀ p ∈ m, isSpace p.1 = true)
    (houtside : ∀ p ∈ m, p.2 = false) (following : JsString) : Droppable following m := by
  induction m with
  | nil => exact .nil
  | cons p m ih =>
    obtain ⟨hp, hm⟩ := List.forall_mem_cons.mp hspace
    obtain ⟨hout, hrest⟩ := List.forall_mem_cons.mp houtside
    obtain ⟨u, inside⟩ := p
    obtain rfl : inside = false := hout
    exact .space hp (ih hm hrest)

/-! ## The factorisation -/

theorem text_dropWhile (m : Marked) : Marked.text (m.dropWhile markedSpace) = m.text.dropWhile isSpace :=
  List.dropWhile_map.symm

theorem text_rdropWhile (m : Marked) :
    Marked.text (m.rdropWhile markedSpace) = m.text.rdropWhile isSpace := by
  rw [List.rdropWhile, List.rdropWhile, Marked.text, Marked.text, ← List.map_reverse, List.dropWhile_map,
    List.map_reverse]
  rfl

/-- A piece is what `trim` leaves of it, between white space. -/
theorem trim_pieces (m : Marked) (hm : LeadsOutside m) : ∃ d s w : Marked, m = d ++ s ++ w ∧
    s.text = Lib.JsString.trim m.text ∧ (∀ following, Droppable following d) ∧
    (∀ p ∈ w, isSpace p.1 = true) ∧ (m.getLast? = some (semicolon, false) → w = []) := by
  refine ⟨m.takeWhile markedSpace, (m.dropWhile markedSpace).rdropWhile markedSpace,
    (m.dropWhile markedSpace).rtakeWhile markedSpace, ?_, ?_, ?_, ?_, ?_⟩
  · rw [List.append_assoc, List.rdropWhile_append_rtakeWhile, List.takeWhile_append_dropWhile]
  · rw [text_rdropWhile, text_dropWhile]
    rfl
  · exact droppable_of_space (fun p hp => List.mem_takeWhile_imp (p := markedSpace) hp) hm
  · exact fun p hp => List.mem_rtakeWhile_imp (p := markedSpace) hp
  · intro hlast
    rw [List.rtakeWhile_eq_nil_iff]
    intro hne
    rw [← List.takeWhile_append_dropWhile (p := markedSpace) (l := m), List.getLast?_append_of_ne_nil _ hne,
      List.getLast?_eq_some_getLast hne, Option.some.injEq] at hlast
    rw [hlast]
    decide

theorem factors_flatten {out : List Marked} (hout : ∀ p ∈ out, CodePiece [] p ∧ p.getLast? = some (semicolon, false))
    {m : Marked} {statements : List JsString} (hm : Factors m statements) :
    Factors (out.flatten ++ m) (out.map (fun p => Lib.JsString.trim p.text) ++ statements) := by
  induction out with
  | nil => exact hm
  | cons p out ih =>
    obtain ⟨hp, hout⟩ := List.forall_mem_cons.mp hout
    obtain ⟨d, s, w, htext, hs, hd, -, hw⟩ := trim_pieces p hp.1.leadsOutside
    rw [hw hp.2, List.append_nil] at htext
    rw [List.flatten_cons, List.map_cons, List.cons_append, ← hs, htext, List.append_assoc]
    exact .statement (hd _) (ih hout)

theorem marks_text (sql : JsString) : (marks sql).text = sql := by
  refine splitRun_induction (P := fun st sql => (marksRun st sql).text = sql) (fun _ => rfl) ?_ .start sql
  intro st t left inside after _ _ hmarks ih
  rw [hmarks, Marked.text_append, text_mark, ih]

/-- No unit of a string or a block comment is in a dropped piece. -/
theorem Factors.insideUnits {m : Marked} {statements : List JsString} (h : Factors m statements) :
    m.insideUnits.Sublist statements.flatten := by
  have hdropped : ∀ {following : JsString} {d : Marked}, Droppable following d → d.insideUnits = [] := by
    intro following d hd
    rw [Marked.insideUnits, List.filter_eq_nil_iff.mpr fun p hp => by simp [hd.outside p hp]]
    rfl
  have happend : ∀ m m' : Marked, (m ++ m').insideUnits = m.insideUnits ++ m'.insideUnits := by
    simp [Marked.insideUnits]
  induction h with
  | done hd => simp [hdropped hd]
  | @statement d s m out hd _ ih =>
    rw [happend, happend, hdropped hd, List.nil_append, List.flatten_cons]
    exact (List.filter_sublist.map Prod.fst).append ih

/-- The statements of a text are the text, in order and with nothing lost but white space
and line comments outside strings and block comments, and white space at the end of a text
that ends inside one. -/
theorem splitSqlStatements_factors (sql : JsString) : ∃ kept lost : Marked,
    marks sql = kept ++ lost ∧ (marks sql).text = sql ∧ Factors kept (splitSqlStatements sql) ∧
    kept.insideUnits.Sublist (splitSqlStatements sql).flatten ∧
    ∀ p ∈ lost, isSpace p.1 = true ∧ p.2 = true := by
  obtain ⟨out, last, hpieces⟩ := splitRun_pieces .start sql [] (.cut rfl rfl)
  have htext : marks sql = out.flatten ++ last := hpieces.text
  have hchain : (marks sql).IsChain GoesOn := isChain_marksRun .start sql
  rw [htext] at hchain
  have hlastchain := hchain.right_of_append
  have hout : (out.map fun p => Lib.JsString.trim p.text).filter hasCode =
      out.map fun p => Lib.JsString.trim p.text := by
    rw [List.filter_eq_self]
    intro s hs
    obtain ⟨p, hp, rfl⟩ := List.mem_map.mp hs
    exact hasCode_trim (hpieces.code p hp).1.hasCode
  have hstatements : (splitRun .start sql).statements = out.map fun p => Lib.JsString.trim p.text :=
    hpieces.statements
  rw [splitSqlStatements_eq, List.filter_append, hstatements, hout, hpieces.current]
  cases hcode : hasCode (Lib.JsString.trim last.text) with
  | false =>
    have hlast : Droppable [] last := hpieces.ends.resolve_right fun h => by
      rw [hasCode_trim h.hasCode] at hcode
      cases hcode
    have hfactors := factors_flatten hpieces.code (.done hlast)
    refine ⟨marks sql, [], by simp, marks_text sql, ?_, ?_, by simp⟩
    · rw [htext]
      simpa [hcode] using hfactors
    · rw [htext]
      simpa [hcode] using hfactors.insideUnits
  | true =>
    have hlead : LeadsOutside last := hpieces.ends.elim Droppable.leadsOutside CodePiece.leadsOutside
    obtain ⟨d, s, w, hlast, hs, hd, hw, -⟩ := trim_pieces last hlead
    obtain ⟨d', l, rfl, hd', hl⟩ := space_parts hw (hlast ▸ hlastchain).right_of_append
    have hspace := List.forall_mem_append.mp hw
    have hfactors := factors_flatten hpieces.code
      (.statement (hd _) (.done (droppable_of_space hspace.1 hd' [])) : Factors (d ++ s ++ d') [s.text])
    have hkept : [Lib.JsString.trim last.text].filter hasCode = [s.text] := by simp [hs, hcode]
    rw [hkept]
    refine ⟨out.flatten ++ (d ++ s ++ d'), l, ?_, marks_text sql, hfactors, hfactors.insideUnits,
      fun p hp => ⟨hspace.2 p hp, hl p hp⟩⟩
    rw [htext, hlast]
    simp

/-- A text that ends inside a string loses the white space at its end. -/
theorem openQuote_loses_space : ¬ Factors (marks (js "'a ")) (splitSqlStatements (js "'a ")) ∧
    ¬ (marks (js "'a ")).insideUnits.Sublist (splitSqlStatements (js "'a ")).flatten := by
  have hlost : ¬ (marks (js "'a ")).insideUnits.Sublist (splitSqlStatements (js "'a ")).flatten := by decide
  exact ⟨fun h => hlost h.insideUnits, hlost⟩

end HostPlatform
