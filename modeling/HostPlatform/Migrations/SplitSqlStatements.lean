-- SUMMARY: Cutting the text of a migration into statements: the scanner round by round, and its final filter (`splitSqlStatements` of `migrate.ts`).
import HostPlatform.Lib.JsString
import Mathlib.Data.List.TakeWhile

/-!
# Splitting SQL

The scanner holds the statements it has cut, the text since the last cut, and whether
that text ends inside a quoted or a dollar-quoted string. Each round of its loop takes
some units of the text that is left.
-/

namespace HostPlatform

open Lib (JsString js)
open Lib.JsString (lf cr hyphen semicolon isSpace)

def singleQuote : Nat := 39
def dollar : Nat := 36
def slash : Nat := 47
def asterisk : Nat := 42

/-- `[A-Za-z_]`. -/
def isTagUnit (u : Nat) : Bool := (65 ≤ u && u ≤ 90) || (97 ≤ u && u ≤ 122) || u == 95

/-- `/^\$[A-Za-z_]*\$/.exec(..)`. -/
def openingDollarTag : JsString → Option JsString
  | [] => none
  | u :: s =>
    let name := s.takeWhile isTagUnit
    if u = dollar ∧ (s.dropWhile isTagUnit).head? = some dollar then some (dollar :: (name ++ [dollar]))
    else none

/-- The units before the first line feed. -/
def lineLength (s : JsString) : Nat := (s.takeWhile (· ≠ lf)).length

/-- The units up to the end of the first `*/`, or all of them. -/
def blockLength : JsString → Nat
  | a :: b :: s => if a = asterisk ∧ b = slash then 2 else 1 + blockLength (b :: s)
  | s => s.length

/-! ## The scanner -/

structure SplitState where
  statements : List JsString
  current : JsString
  inSingleQuote : Bool
  dollarTag : Option JsString
  deriving DecidableEq, Repr

def SplitState.start : SplitState := ⟨[], [], false, none⟩

/-- `current += sql.slice(i, i + n); i += n`. -/
def SplitState.consume (st : SplitState) (n : Nat) (sql : JsString) : SplitState × JsString :=
  ({ st with current := st.current ++ sql.take n }, sql.drop n)

/-- One round of the loop, at the unit `ch`. -/
def splitRound (st : SplitState) (ch : Nat) (rest : JsString) : SplitState × JsString :=
  let sql := ch :: rest
  match st.dollarTag with
  | some (d :: tag) =>
    if (d :: tag).isPrefixOf sql then
      SplitState.consume { st with dollarTag := none } (d :: tag).length sql
    else st.consume 1 sql
  | _ =>
    if st.inSingleQuote then
      -- a doubled quote is escaped
      if ch = singleQuote ∧ rest.head? = some singleQuote then st.consume 2 sql
      else if ch = singleQuote then SplitState.consume { st with inSingleQuote := false } 1 sql
      else st.consume 1 sql
    else if ch = hyphen ∧ rest.head? = some hyphen then st.consume (lineLength sql) sql
    else if ch = slash ∧ rest.head? = some asterisk then st.consume (2 + blockLength rest.tail) sql
    else if ch = singleQuote then SplitState.consume { st with inSingleQuote := true } 1 sql
    else
      match openingDollarTag sql with
      | some tag => SplitState.consume { st with dollarTag := some tag } tag.length sql
      | none =>
        if ch = semicolon then
          ({ st with
              statements := st.statements ++ [Lib.JsString.trim (st.current ++ [ch])]
              current := [] }, rest)
        else st.consume 1 sql

/-- The loop, with fuel for each unit. -/
def splitLoop : Nat → SplitState → JsString → SplitState
  | _, st, [] => st
  | 0, st, _ :: _ => st
  | n + 1, st, ch :: rest => splitLoop n (splitRound st ch rest).1 (splitRound st ch rest).2

/-- `.` and `$` of a regular expression stop at these. -/
def isLineTerminator (u : Nat) : Bool := u == lf || u == cr || u == 0x2028 || u == 0x2029

/-- `s.replace(.., "")` of every match of `--.*$`, inside a match or not. -/
def stripLineComments : Bool → JsString → JsString
  | _, [] => []
  | true, u :: s => if isLineTerminator u then u :: stripLineComments false s else stripLineComments true s
  | false, u :: s =>
    if u = hyphen ∧ s.head? = some hyphen then stripLineComments true s
    else u :: stripLineComments false s

/-- What the final filter keeps. -/
def hasCode (s : JsString) : Bool := decide (0 < (Lib.JsString.trim (stripLineComments false s)).length)

def splitSqlStatements (sql : JsString) : List JsString :=
  let st := splitLoop sql.length .start sql
  let last := Lib.JsString.trim st.current
  (if 0 < last.length then st.statements ++ [last] else st.statements).filter hasCode

/-! ## Every round takes something -/

theorem openingDollarTag_eq_some {sql tag : JsString} (h : openingDollarTag sql = some tag) :
    ∃ name, tag = dollar :: (name ++ [dollar]) ∧ (∀ u ∈ name, isTagUnit u) ∧ tag <+: sql := by
  cases sql with
  | nil => cases h
  | cons u s =>
    simp only [openingDollarTag] at h
    split at h
    case isFalse => cases h
    case isTrue hopen =>
      cases h
      refine ⟨s.takeWhile isTagUnit, rfl, fun u hu => List.mem_takeWhile_imp hu, ?_⟩
      obtain ⟨rfl, hclose⟩ := hopen
      refine List.cons_prefix_cons.mpr ⟨rfl, ?_⟩
      cases hrest : s.dropWhile isTagUnit with
      | nil => simp [hrest] at hclose
      | cons v r =>
        simp only [hrest, List.head?_cons, Option.some.injEq] at hclose
        refine ⟨r, ?_⟩
        rw [← hclose, List.append_assoc, List.singleton_append, ← hrest, List.takeWhile_append_dropWhile]

theorem lineLength_pos {ch : Nat} {rest : JsString} (h : ch ≠ lf) : 0 < lineLength (ch :: rest) := by
  simp [lineLength, h]

theorem SplitState.consume_length {st : SplitState} {n : Nat} {sql : JsString} (hn : 0 < n)
    (hsql : 0 < sql.length) : (st.consume n sql).2.length < sql.length := by
  simp only [consume, List.length_drop]
  omega

theorem SplitState.consume_append (st : SplitState) (t left : JsString) :
    st.consume t.length (t ++ left) = ({ st with current := st.current ++ t }, left) := by
  simp [consume]

theorem splitRound_length (st : SplitState) (ch : Nat) (rest : JsString) :
    (splitRound st ch rest).2.length < (ch :: rest).length := by
  have hsql : 0 < (ch :: rest).length := Nat.zero_lt_succ _
  have hone : ∀ {n : Nat} {st : SplitState}, 0 < n →
      (st.consume n (ch :: rest)).2.length < (ch :: rest).length :=
    fun hn => SplitState.consume_length hn hsql
  unfold splitRound
  dsimp only
  split
  · split
    · exact hone (Nat.zero_lt_succ _)
    · exact hone Nat.one_pos
  split
  · split
    · exact hone Nat.two_pos
    · split
      · exact hone Nat.one_pos
      · exact hone Nat.one_pos
  split
  case isTrue hcomment => exact hone (lineLength_pos (by rw [hcomment.1]; decide))
  split
  · exact hone (by omega)
  split
  · exact hone Nat.one_pos
  split
  case h_1 tag htag =>
    obtain ⟨name, rfl, -⟩ := openingDollarTag_eq_some htag
    exact hone (Nat.zero_lt_succ _)
  split
  · exact Nat.lt_succ_self _
  · exact hone Nat.one_pos

/-- Fuel beyond the length of the text is not used. -/
theorem splitLoop_fuel (n : Nat) (st : SplitState) (sql : JsString) (h : sql.length ≤ n) :
    splitLoop n st sql = splitLoop sql.length st sql := by
  induction n using Nat.strong_induction_on generalizing st sql with
  | _ n ih =>
    match n, sql, h with
    | n, [], _ => cases n <;> rfl
    | n + 1, ch :: rest, h =>
      have hround := splitRound_length st ch rest
      simp only [List.length_cons] at h hround
      simp only [splitLoop, List.length_cons]
      rw [ih n (by omega) _ _ (by omega), ih rest.length (by omega) _ _ (by omega)]

/-- The loop on all of a text. -/
def splitRun (st : SplitState) (sql : JsString) : SplitState := splitLoop sql.length st sql

@[simp] theorem splitRun_nil (st : SplitState) : splitRun st [] = st := rfl

/-- The loop ends on every text: a round, and the loop on what it leaves. -/
theorem splitRun_cons (st : SplitState) (ch : Nat) (rest : JsString) :
    splitRun st (ch :: rest) = splitRun (splitRound st ch rest).1 (splitRound st ch rest).2 := by
  have hround := splitRound_length st ch rest
  simp only [List.length_cons] at hround
  simp only [splitRun, splitLoop, List.length_cons]
  exact splitLoop_fuel _ _ _ (by omega)

/-- A last statement without code is dropped as an empty one is. -/
theorem splitSqlStatements_eq (sql : JsString) : splitSqlStatements sql =
    ((splitRun .start sql).statements ++ [Lib.JsString.trim (splitRun .start sql).current]).filter hasCode := by
  have hempty : hasCode [] = false := by decide
  unfold splitSqlStatements splitRun
  dsimp only
  split
  case isTrue => rfl
  case isFalse hlast =>
    rw [List.length_pos_iff, not_not] at hlast
    simp [hlast, hempty]

/-! ## A round in each mode -/

/-- The scanner is inside a quoted or a dollar-quoted string. -/
def SplitState.inside (st : SplitState) : Bool := st.inSingleQuote || st.dollarTag.isSome

section

variable {st : SplitState} {ch : Nat} {rest : JsString}

theorem splitRound_of_tag {d : Nat} {tag : JsString} (htag : st.dollarTag = some (d :: tag)) :
    splitRound st ch rest =
      if (d :: tag).isPrefixOf (ch :: rest) then
        SplitState.consume { st with dollarTag := none } (d :: tag).length (ch :: rest)
      else st.consume 1 (ch :: rest) := by
  simp only [splitRound, htag]

theorem splitRound_of_quote (htag : st.dollarTag = none) (hquote : st.inSingleQuote = true) :
    splitRound st ch rest =
      if ch = singleQuote ∧ rest.head? = some singleQuote then st.consume 2 (ch :: rest)
      else if ch = singleQuote then SplitState.consume { st with inSingleQuote := false } 1 (ch :: rest)
      else st.consume 1 (ch :: rest) := by
  simp only [splitRound, htag, hquote, if_true]

theorem splitRound_of_code (hcode : st.inside = false) :
    splitRound st ch rest =
      if ch = hyphen ∧ rest.head? = some hyphen then st.consume (lineLength (ch :: rest)) (ch :: rest)
      else if ch = slash ∧ rest.head? = some asterisk then
        st.consume (2 + blockLength rest.tail) (ch :: rest)
      else if ch = singleQuote then SplitState.consume { st with inSingleQuote := true } 1 (ch :: rest)
      else
        match openingDollarTag (ch :: rest) with
        | some tag => SplitState.consume { st with dollarTag := some tag } tag.length (ch :: rest)
        | none =>
          if ch = semicolon then
            ({ st with
                statements := st.statements ++ [Lib.JsString.trim (st.current ++ [ch])]
                current := [] }, rest)
          else st.consume 1 (ch :: rest) := by
  simp only [SplitState.inside, Bool.or_eq_false_iff, Option.isSome_eq_false_iff,
    Option.isNone_iff_eq_none] at hcode
  simp [splitRound, hcode]

end

end HostPlatform
