-- SUMMARY: A text with the splitter's reading of each unit, what a round of the splitter takes, and the statements as pieces of the text.
import HostPlatform.Migrations.SplitSqlStatements
import Mathlib.Data.List.Chain

/-!
# The pieces of a text

Beside the statements, the rounds of the splitter say of every unit whether it stands
inside a quoted string, a dollar-quoted string or a block comment.
-/

namespace HostPlatform

open Lib (JsString js)
open Lib.JsString (lf hyphen semicolon isSpace)

/-! ## Marked text -/

/-- A text; each unit with whether it stands inside a string or a block comment, delimiters included. -/
abbrev Marked := List (Nat × Bool)

def Marked.text (m : Marked) : JsString := m.map Prod.fst

def mark (inside : Bool) (s : JsString) : Marked := s.map (·, inside)

@[simp] theorem Marked.text_nil : Marked.text [] = [] := rfl

@[simp] theorem Marked.text_cons (p : Nat × Bool) (m : Marked) : Marked.text (p :: m) = p.1 :: m.text := rfl

@[simp] theorem Marked.text_append (m m' : Marked) : Marked.text (m ++ m') = m.text ++ m'.text :=
  List.map_append

@[simp] theorem mark_nil (inside : Bool) : mark inside [] = [] := rfl

@[simp] theorem mark_cons (inside : Bool) (u : Nat) (s : JsString) :
    mark inside (u :: s) = (u, inside) :: mark inside s := rfl

@[simp] theorem text_mark (inside : Bool) (s : JsString) : (mark inside s).text = s := by
  induction s with
  | nil => rfl
  | cons u s ih => rw [mark_cons, Marked.text_cons, ih]

/-- The units that the round takes belong to a string or a block comment. -/
def roundInside (st : SplitState) (ch : Nat) (rest : JsString) : Bool :=
  st.inside || (splitRound st ch rest).1.inside || (ch == slash && rest.head? == some asterisk)

/-- What the round takes of the text. -/
def roundTaken (st : SplitState) (ch : Nat) (rest : JsString) : JsString :=
  (ch :: rest).take ((ch :: rest).length - (splitRound st ch rest).2.length)

/-- The same loop as the splitter's. -/
def marksLoop : Nat → SplitState → JsString → Marked
  | _, _, [] => []
  | 0, _, _ :: _ => []
  | n + 1, st, ch :: rest =>
    mark (roundInside st ch rest) (roundTaken st ch rest)
      ++ marksLoop n (splitRound st ch rest).1 (splitRound st ch rest).2

def marksRun (st : SplitState) (sql : JsString) : Marked := marksLoop sql.length st sql

/-- Every unit of the text with its mark. -/
def marks (sql : JsString) : Marked := marksRun .start sql

theorem marksLoop_fuel (n : Nat) (st : SplitState) (sql : JsString) (h : sql.length ≤ n) :
    marksLoop n st sql = marksLoop sql.length st sql := by
  induction n using Nat.strong_induction_on generalizing st sql with
  | _ n ih =>
    match n, sql, h with
    | n, [], _ => cases n <;> rfl
    | n + 1, ch :: rest, h =>
      have hround := splitRound_length st ch rest
      simp only [List.length_cons] at h hround
      simp only [marksLoop, List.length_cons]
      rw [ih n (by omega) _ _ (by omega), ih rest.length (by omega) _ _ (by omega)]

@[simp] theorem marksRun_nil (st : SplitState) : marksRun st [] = [] := rfl

theorem marksRun_cons (st : SplitState) (ch : Nat) (rest : JsString) :
    marksRun st (ch :: rest) = mark (roundInside st ch rest) (roundTaken st ch rest)
      ++ marksRun (splitRound st ch rest).1 (splitRound st ch rest).2 := by
  have hround := splitRound_length st ch rest
  simp only [List.length_cons] at hround
  simp only [marksRun, marksLoop, List.length_cons]
  rw [marksLoop_fuel _ _ _ (by omega)]

/-! ## What a round takes -/

/-- The tag that is open has the form of one. -/
def SplitState.TagRead (st : SplitState) : Prop :=
  ∀ tag, st.dollarTag = some tag → ∃ name, tag = dollar :: (name ++ [dollar])

theorem SplitState.TagRead.start : SplitState.TagRead .start := fun _ h => by cases h

/-- A round from `st` takes `t`, leaves `left`, and marks `t` as inside or not. -/
inductive Reads (st : SplitState) : JsString → JsString → Bool → SplitState → Prop where
  /-- Some of a string, or a block comment: from code it opens with a unit that is no
  white space, and where it ends with white space it has not been closed. -/
  | inside {t left : JsString} {after : SplitState} (statements : after.statements = st.statements)
      (current : after.current = st.current ++ t)
      (opening : st.inside = false → ∃ u s, t = u :: s ∧ isSpace u = false ∧ u ≠ hyphen)
      (closing : ∀ u, t.getLast? = some u → isSpace u = true → after.inside = true ∨ left = [])
      : Reads st t left true after
  | lineComment {c left : JsString} (outside : st.inside = false) (line : lf ∉ c)
      (ends : ∀ u, left.head? = some u → u = lf) :
      Reads st (hyphen :: hyphen :: c) left false { st with current := st.current ++ hyphen :: hyphen :: c }
  | semicolon {left : JsString} (outside : st.inside = false) :
      Reads st [semicolon] left false
        { st with
          statements := st.statements ++ [Lib.JsString.trim (st.current ++ [semicolon])]
          current := [] }
  | unit {u : Nat} {left : JsString} (outside : st.inside = false) (goesOn : u ≠ semicolon)
      (code : ¬ (u = hyphen ∧ left.head? = some hyphen)) :
      Reads st [u] left false { st with current := st.current ++ [u] }

/-- All of the text, or up to the end of a `*/`. -/
theorem blockLength_cases : ∀ s : JsString, blockLength s = s.length ∨
    ∃ body left, s = body ++ asterisk :: slash :: left ∧ blockLength s = body.length + 2
  | [] => .inl rfl
  | [_] => .inl rfl
  | a :: b :: s => by
    unfold blockLength
    split
    case isTrue hclose => exact .inr ⟨[], s, by simp [hclose], rfl⟩
    case isFalse =>
      cases blockLength_cases (b :: s) with
      | inl hall => exact .inl (by rw [hall, Nat.add_comm, List.length_cons (a := a)])
      | inr hclose =>
        obtain ⟨body, left, htext, hlength⟩ := hclose
        exact .inr ⟨a :: body, left, by rw [htext, List.cons_append],
          by rw [hlength, List.length_cons]; omega⟩

/-- A block comment that ends with white space has no end. -/
theorem take_blockLength {u : Nat} {s : JsString} (h : (s.take (blockLength s)).getLast? = some u)
    (hspace : isSpace u = true) : s.drop (blockLength s) = [] := by
  cases blockLength_cases s with
  | inl hall => rw [hall, List.drop_length]
  | inr hclose =>
    obtain ⟨body, left, rfl, hlength⟩ := hclose
    rw [hlength, List.take_length_add_append, List.take_succ_cons, List.take_succ_cons,
      List.take_zero, List.getLast?_append] at h
    cases h
    cases hspace

/-- A round of the scanner inside a string. -/
theorem splitRound_inside {st : SplitState} (hst : st.TagRead) (hinside : st.inside = true) (ch : Nat)
    (rest : JsString) :
    ∃ t left after, ch :: rest = t ++ left ∧ splitRound st ch rest = (after, left) ∧ after.TagRead ∧
      Reads st t left true after := by
  have hopening : ∀ t : JsString, st.inside = false →
      ∃ u s, t = u :: s ∧ isSpace u = false ∧ u ≠ hyphen := by simp [hinside]
  cases htag : st.dollarTag with
  | some tag =>
    obtain ⟨name, rfl⟩ := hst tag htag
    rw [splitRound_of_tag htag]
    split
    case isTrue hclose =>
      obtain ⟨left, hleft⟩ := List.isPrefixOf_iff_prefix.mp hclose
      rw [← hleft, SplitState.consume_append]
      refine ⟨_, left, _, rfl, rfl, ?_, .inside rfl rfl (hopening _) ?_⟩
      · intro _ h
        cases h
      · intro u hlast hspace
        rw [← List.cons_append, List.getLast?_concat] at hlast
        cases hlast
        cases hspace
    case isFalse =>
      exact ⟨[ch], rest, _, rfl, rfl, hst, .inside rfl rfl (hopening _) fun _ _ _ => .inl hinside⟩
  | none =>
    have hquote : st.inSingleQuote = true := by simpa [SplitState.inside, htag] using hinside
    rw [splitRound_of_quote htag hquote]
    split
    case isTrue hescaped =>
      obtain ⟨left, rfl⟩ : ∃ left, rest = singleQuote :: left := List.head?_eq_some_iff.mp hescaped.2
      exact ⟨[ch, singleQuote], left, _, rfl, rfl, hst,
        .inside rfl rfl (hopening _) fun _ _ _ => .inl hinside⟩
    split
    case isTrue hclose =>
      refine ⟨[ch], rest, _, rfl, rfl, hst, .inside rfl rfl (hopening _) ?_⟩
      intro u hlast hspace
      cases hlast
      rw [hclose] at hspace
      cases hspace
    case isFalse =>
      exact ⟨[ch], rest, _, rfl, rfl, hst, .inside rfl rfl (hopening _) fun _ _ _ => .inl hinside⟩

/-- A round of the scanner outside strings. -/
theorem splitRound_outside {st : SplitState} (hst : st.TagRead) (hcode : st.inside = false) (ch : Nat)
    (rest : JsString) :
    ∃ t left after, ch :: rest = t ++ left ∧ splitRound st ch rest = (after, left) ∧ after.TagRead ∧
      Reads st t left (after.inside || (ch == slash && rest.head? == some asterisk)) after := by
  rw [splitRound_of_code hcode]
  split
  case isTrue hcomment =>
    obtain ⟨rfl, hrest⟩ := hcomment
    obtain ⟨rest, rfl⟩ : ∃ s, rest = hyphen :: s := List.head?_eq_some_iff.mp hrest
    have hlength : lineLength (hyphen :: hyphen :: rest) =
        (hyphen :: hyphen :: rest.takeWhile (· ≠ lf)).length := rfl
    have htext : hyphen :: hyphen :: rest =
        hyphen :: hyphen :: rest.takeWhile (· ≠ lf) ++ rest.dropWhile (· ≠ lf) := by simp
    rw [hlength, htext, SplitState.consume_append]
    refine ⟨_, _, _, rfl, rfl, hst, ?_⟩
    have houtside : SplitState.inside
        { st with current := st.current ++ hyphen :: hyphen :: rest.takeWhile (· ≠ lf) } = false := hcode
    rw [houtside]
    refine .lineComment hcode ?_ ?_
    · intro hlf
      simpa using List.mem_takeWhile_imp hlf
    · intro u hu
      have hnot := List.head?_dropWhile_not (· ≠ lf) rest
      rw [hu] at hnot
      simpa using hnot
  case isFalse hnoline =>
  split
  case isTrue hcomment =>
    obtain ⟨rfl, hrest⟩ := hcomment
    obtain ⟨rest, rfl⟩ : ∃ s, rest = asterisk :: s := List.head?_eq_some_iff.mp hrest
    simp only [List.head?_cons, beq_self_eq_true, Bool.and_true, Bool.or_true, List.tail_cons]
    rw [Nat.add_comm]
    refine ⟨slash :: asterisk :: rest.take (blockLength rest), rest.drop (blockLength rest), _, ?_, rfl,
      hst, .inside rfl rfl ?_ ?_⟩
    · rw [List.cons_append, List.cons_append, List.take_append_drop]
    · exact fun _ => ⟨slash, _, rfl, rfl, by decide⟩
    · intro u hlast hspace
      cases hbody : rest.take (blockLength rest) with
      | nil =>
        rw [hbody] at hlast
        cases hlast
        cases hspace
      | cons v t =>
        rw [hbody, List.getLast?_cons_cons, List.getLast?_cons_cons, ← hbody] at hlast
        exact .inr (take_blockLength hlast hspace)
  case isFalse hnocomment =>
  have hcomment : (ch == slash && rest.head? == some asterisk) = false := by simpa using hnocomment
  rw [hcomment]
  split
  case isTrue hquote =>
    subst hquote
    exact ⟨[singleQuote], rest, _, rfl, rfl, hst, .inside rfl rfl
      (fun _ => ⟨singleQuote, [], rfl, rfl, by decide⟩) fun _ _ _ => .inl rfl⟩
  split
  case h_1 tag htag =>
    obtain ⟨name, rfl, -, left, hleft⟩ := openingDollarTag_eq_some htag
    rw [← hleft, SplitState.consume_append]
    have hinside : SplitState.inside { st with
        current := st.current ++ dollar :: (name ++ [dollar])
        dollarTag := some (dollar :: (name ++ [dollar])) } = true := by simp [SplitState.inside]
    refine ⟨_, left, _, rfl, rfl, ?_, ?_⟩
    · intro tag h
      cases h
      exact ⟨name, rfl⟩
    rw [hinside]
    exact .inside rfl rfl (fun _ => ⟨dollar, _, rfl, rfl, by decide⟩) fun _ _ _ => .inl hinside
  split
  case isTrue hsemicolon =>
    subst hsemicolon
    refine ⟨[semicolon], rest, _, rfl, rfl, hst, ?_⟩
    rw [Bool.or_false]
    have houtside : SplitState.inside
        { st with
          statements := st.statements ++ [Lib.JsString.trim (st.current ++ [semicolon])]
          current := [] } = false := hcode
    rw [houtside]
    exact .semicolon hcode
  case isFalse hunit =>
    refine ⟨[ch], rest, _, rfl, rfl, hst, ?_⟩
    rw [Bool.or_false]
    have houtside : SplitState.inside { st with current := st.current ++ [ch] } = false := hcode
    exact houtside.symm ▸ .unit hcode hunit hnoline

theorem splitRound_cases {st : SplitState} (hst : st.TagRead) (ch : Nat) (rest : JsString) :
    ∃ t left after, ch :: rest = t ++ left ∧ splitRound st ch rest = (after, left) ∧ after.TagRead ∧
      Reads st t left (roundInside st ch rest) after := by
  unfold roundInside
  cases hinside : st.inside with
  | true => simpa using splitRound_inside hst hinside ch rest
  | false =>
    obtain ⟨t, left, after, htext, hround, hafter, hreads⟩ := splitRound_outside hst hinside ch rest
    exact ⟨t, left, after, htext, hround, hafter, by rw [hround]; exact hreads⟩

/-- Induction along the rounds of the splitter. -/
theorem splitRun_induction {P : SplitState → JsString → Prop} (ends : ∀ st, P st [])
    (round : ∀ {st t left inside after}, Reads st t left inside after →
      splitRun st (t ++ left) = splitRun after left →
      marksRun st (t ++ left) = mark inside t ++ marksRun after left → P after left → P st (t ++ left))
    {st : SplitState} (hst : st.TagRead) (sql : JsString) : P st sql := by
  induction hlength : sql.length using Nat.strong_induction_on generalizing st sql with
  | _ n ih =>
    cases sql with
    | nil => exact ends st
    | cons ch rest =>
      obtain ⟨t, left, after, htext, hround, hafter, hreads⟩ := splitRound_cases hst ch rest
      have hshorter := splitRound_length st ch rest
      rw [hround, hlength] at hshorter
      have hrun := splitRun_cons st ch rest
      have hmarks := marksRun_cons st ch rest
      have htaken : roundTaken st ch rest = t := by simp [roundTaken, hround, htext]
      rw [htaken] at hmarks
      rw [hround] at hrun hmarks
      rw [htext] at hrun hmarks ⊢
      exact round hreads hrun hmarks (ih _ hshorter hafter left rfl)

/-! ## Statements cut out of a text -/

/-- White space and line comments, none of it inside a string or a block comment;
each comment runs to the end of its line, if need be in the text that follows. -/
inductive Droppable (following : JsString) : Marked → Prop where
  | nil : Droppable following []
  | space {u : Nat} {m : Marked} (hspace : isSpace u = true) (hm : Droppable following m) :
      Droppable following ((u, false) :: m)
  | lineComment {c : JsString} {m : Marked} (line : lf ∉ c)
      (ends : ∀ u, (m.text ++ following).head? = some u → u = lf) (hm : Droppable following m) :
      Droppable following (mark false (hyphen :: hyphen :: c) ++ m)

/-- The text is the statements in order, with dropped pieces before, between and after them. -/
inductive Factors : Marked → List JsString → Prop where
  | done {dropped : Marked} (hdropped : Droppable [] dropped) : Factors dropped []
  | statement {dropped s m : Marked} {out : List JsString} (hdropped : Droppable (s ++ m).text dropped)
      (hm : Factors m out) : Factors (dropped ++ s ++ m) (s.text :: out)

/-- The units inside strings and block comments. -/
def Marked.insideUnits (m : Marked) : JsString := Marked.text (m.filter Prod.snd)

end HostPlatform
