-- SUMMARY: How the splitter reads one token of PostgreSQL, kind by kind, and the condition under which it reads the token as the server does.
import HostPlatform.Migrations.PostgresLexer
import Mathlib.Data.List.Infix

/-!
# The splitter on a token

For each kind of token the rounds of the splitter on its text, with the text that follows
at hand. Strings without backslash escapes are read alike always; for the other kinds
there is a condition on the text.
-/

namespace HostPlatform

open Lib (JsString js)
open Lib.JsString (lf cr hyphen semicolon backslash)

/-! ## The modes of the scanner -/

def SplitState.outside (statements : List JsString) (current : JsString) : SplitState :=
  ⟨statements, current, false, none⟩

def SplitState.inQuote (statements : List JsString) (current : JsString) : SplitState :=
  ⟨statements, current, true, none⟩

def SplitState.inDollar (statements : List JsString) (current tag : JsString) : SplitState :=
  ⟨statements, current, false, some tag⟩

section

variable {statements : List JsString} {current : JsString}

/-! ## Text that opens nothing -/

/-- Outside strings the scanner takes this unit and no more. -/
def opensNothing (u : Nat) (following : JsString) : Bool :=
  !(u == hyphen && following.head? == some hyphen) && !(u == slash && following.head? == some asterisk)
    && u != singleQuote && u != semicolon && openingDollarTag (u :: following) == none

def plainText : JsString → JsString → Bool
  | [], _ => true
  | u :: s, following => opensNothing u (s ++ following) && plainText s following

theorem splitRun_unit {u : Nat} {following : JsString} (h : opensNothing u following = true) :
    splitRun (.outside statements current) (u :: following) =
      splitRun (.outside statements (current ++ [u])) following := by
  simp only [opensNothing, Bool.and_eq_true, Bool.not_eq_true', Bool.and_eq_false_imp, bne_iff_ne,
    beq_iff_eq, beq_eq_false_iff_ne] at h
  obtain ⟨⟨⟨⟨hline, hblock⟩, hquote⟩, hsemicolon⟩, htag⟩ := h
  rw [splitRun_cons, splitRound_of_code rfl, if_neg (not_and.mpr hline), if_neg (not_and.mpr hblock),
    if_neg hquote, htag]
  dsimp only
  rw [if_neg hsemicolon]
  rfl

theorem splitRun_plain {t following : JsString} (h : plainText t following = true) :
    splitRun (.outside statements current) (t ++ following) =
      splitRun (.outside statements (current ++ t)) following := by
  induction t generalizing current with
  | nil => rw [List.nil_append, List.append_nil]
  | cons u t ih =>
    simp only [plainText, Bool.and_eq_true] at h
    rw [List.cons_append, splitRun_unit h.1, ih h.2, List.append_assoc, List.singleton_append]

/-! ## Strings -/

theorem splitRun_quoteUnit {u : Nat} (hu : u ≠ singleQuote) (following : JsString) :
    splitRun (.inQuote statements current) (u :: following) =
      splitRun (.inQuote statements (current ++ [u])) following := by
  rw [splitRun_cons, splitRound_of_quote rfl rfl, if_neg fun h => hu h.1, if_neg hu]
  rfl

theorem splitRun_doubledQuote (following : JsString) :
    splitRun (.inQuote statements current) (singleQuote :: singleQuote :: following) =
      splitRun (.inQuote statements (current ++ [singleQuote, singleQuote])) following := by
  rw [splitRun_cons, splitRound_of_quote rfl rfl, if_pos ⟨rfl, rfl⟩]
  rfl

theorem splitRun_closingQuote {following : JsString} (h : following.head? ≠ some singleQuote) :
    splitRun (.inQuote statements current) (singleQuote :: following) =
      splitRun (.outside statements (current ++ [singleQuote])) following := by
  rw [splitRun_cons, splitRound_of_quote rfl rfl, if_neg fun hquote => h hquote.2, if_pos rfl]
  rfl

theorem splitRun_openingQuote (following : JsString) :
    splitRun (.outside statements current) (singleQuote :: following) =
      splitRun (.inQuote statements (current ++ [singleQuote])) following := by
  rw [splitRun_cons, splitRound_of_code rfl, if_neg fun h => absurd h.1 (by decide),
    if_neg fun h => absurd h.1 (by decide), if_pos rfl]
  rfl

theorem splitRun_quotedEnd {s b left : JsString} (h : Postgres.quotedEnd singleQuote s = some (b, left)) :
    splitRun (.inQuote statements current) s = splitRun (.outside statements (current ++ b)) left := by
  fun_induction Postgres.quotedEnd singleQuote s generalizing current b with
  | case1 => cases h
  | case2 =>
    cases h
    exact splitRun_closingQuote (by simp)
  | case3 => cases h
  | case4 s ih =>
    obtain ⟨⟨b, left⟩, hend, hb⟩ := Option.map_eq_some_iff.mp h
    cases hb
    rw [splitRun_doubledQuote, ih hend, List.append_assoc]
  | case5 v s hv =>
    cases h
    exact splitRun_closingQuote (by simpa using hv)
  | case6 u v s hu ih =>
    obtain ⟨⟨b, left⟩, hend, hb⟩ := Option.map_eq_some_iff.mp h
    cases hb
    rw [splitRun_quoteUnit hu, ih hend, List.append_assoc]

/-- A backslash escapes a quote. -/
def escapesQuote : JsString → Bool
  | u :: v :: s => if u = backslash then v == singleQuote || escapesQuote s else escapesQuote (v :: s)
  | _ => false

theorem escapesQuote_cons {u : Nat} (hu : u ≠ backslash) (s : JsString) :
    escapesQuote (u :: s) = escapesQuote s := by
  cases s <;> simp [escapesQuote, hu]

theorem splitRun_escapedEnd {s b left : JsString} (h : Postgres.escapedEnd s = some (b, left))
    (hescapes : escapesQuote b = false) :
    splitRun (.inQuote statements current) s = splitRun (.outside statements (current ++ b)) left := by
  fun_induction Postgres.escapedEnd s generalizing current b with
  | case1 => cases h
  | case2 =>
    cases h
    exact splitRun_closingQuote (by simp)
  | case3 => cases h
  | case4 v s ih =>
    obtain ⟨⟨b, left⟩, hend, hb⟩ := Option.map_eq_some_iff.mp h
    cases hb
    simp only [List.cons_append, List.nil_append, escapesQuote, if_true, Bool.or_eq_false_iff,
      beq_eq_false_iff_ne] at hescapes
    rw [splitRun_quoteUnit (by decide), splitRun_quoteUnit hescapes.1, ih hend hescapes.2]
    simp
  | case5 s hne ih =>
    obtain ⟨⟨b, left⟩, hend, hb⟩ := Option.map_eq_some_iff.mp h
    cases hb
    rw [List.cons_append, List.cons_append, escapesQuote_cons hne, escapesQuote_cons hne] at hescapes
    rw [splitRun_doubledQuote, ih hend hescapes, List.append_assoc]
  | case6 v s hv hne =>
    cases h
    exact splitRun_closingQuote (by simpa using hv)
  | case7 u v s hne hu ih =>
    obtain ⟨⟨b, left⟩, hend, hb⟩ := Option.map_eq_some_iff.mp h
    cases hb
    rw [List.cons_append, escapesQuote_cons hne] at hescapes
    rw [splitRun_quoteUnit hu, ih hend hescapes, List.append_assoc]

/-! ## Dollar-quoted strings -/

theorem splitRun_dollarEnd {d : Nat} {tag s b left : JsString}
    (h : Postgres.dollarEnd (d :: tag) s = some (b, left)) :
    splitRun (.inDollar statements current (d :: tag)) s =
      splitRun (.outside statements (current ++ b)) left := by
  fun_induction Postgres.dollarEnd (d :: tag) s generalizing current b with
  | case1 hclose => cases hclose
  | case2 => cases h
  | case3 u s hclose =>
    cases h
    have htag := List.prefix_iff_eq_take.mp (List.isPrefixOf_iff_prefix.mp hclose)
    rw [splitRun_cons, splitRound_of_tag rfl, if_pos hclose]
    change splitRun (.outside statements (current ++ (u :: s).take (d :: tag).length)) _ = _
    rw [← htag]
    rfl
  | case4 u s hopen ih =>
    obtain ⟨⟨b, left⟩, hend, hb⟩ := Option.map_eq_some_iff.mp h
    cases hb
    rw [splitRun_cons, splitRound_of_tag rfl, if_neg hopen]
    exact (ih hend).trans (by rw [List.append_assoc]; rfl)

/-! ## Comments -/

theorem opensNothing_space {u : Nat} (hu : Postgres.isSpace u = true) (following : JsString) :
    opensNothing u following = true := by
  have hplain : u ≠ hyphen ∧ u ≠ slash ∧ u ≠ singleQuote ∧ u ≠ semicolon ∧ u ≠ dollar := by
    refine ⟨?_, ?_, ?_, ?_, ?_⟩ <;> rintro rfl <;> cases hu
  obtain ⟨hhyphen, hslash, hquote, hsemicolon, hdollar⟩ := hplain
  simp [opensNothing, openingDollarTag, hhyphen, hslash, hquote, hsemicolon, hdollar]

theorem plainText_space {w : JsString} (hw : w.all Postgres.isSpace = true) (following : JsString) :
    plainText w following = true := by
  induction w with
  | nil => rfl
  | cons u w ih =>
    simp only [List.all_cons, Bool.and_eq_true] at hw
    rw [plainText, opensNothing_space hw.1, ih hw.2]
    rfl

/-- What stands between the end of the comment and the end of the line is white space. -/
theorem splitRun_lineComment {c : JsString} (hc : ∀ u ∈ c, Postgres.isNewline u = false) {left : JsString}
    (hleft : (left.takeWhile (· ≠ lf)).all Postgres.isSpace = true) :
    splitRun (.outside statements current) (hyphen :: hyphen :: c ++ left) =
      splitRun (.outside statements (current ++ hyphen :: hyphen :: c)) left := by
  have hline : ∀ u ∈ hyphen :: hyphen :: c, decide (u ≠ lf) = true := by
    simp only [List.mem_cons, forall_eq_or_imp, decide_eq_true_eq]
    refine ⟨by decide, by decide, fun u hu => ?_⟩
    rintro rfl
    cases hc lf hu
  have hlength : lineLength (hyphen :: hyphen :: c ++ left) =
      (hyphen :: hyphen :: c ++ left.takeWhile (· ≠ lf)).length := by
    rw [lineLength, List.takeWhile_append_of_pos hline]
  have htext : hyphen :: hyphen :: c ++ left =
      hyphen :: hyphen :: c ++ left.takeWhile (· ≠ lf) ++ left.dropWhile (· ≠ lf) := by simp
  have hplain : splitRun (.outside statements (current ++ hyphen :: hyphen :: c)) _ = _ :=
    splitRun_plain (plainText_space hleft (left.dropWhile (· ≠ lf)))
  rw [List.takeWhile_append_dropWhile] at hplain
  rw [hplain, List.cons_append, List.cons_append, splitRun_cons, splitRound_of_code rfl, if_pos ⟨rfl, rfl⟩,
    ← List.cons_append, ← List.cons_append, hlength, htext, SplitState.consume_append, List.append_assoc]
  rfl

theorem blockLength_commentEnd : ∀ {s b left : JsString}, Postgres.commentEnd 0 s = some (b, left) →
    ¬ [slash, asterisk] <:+: b → blockLength s = b.length
  | [], _, _, h, _ => by cases h
  | [_], _, _, h, _ => by cases h
  | u :: v :: s, b, left, h, hnested => by
    simp only [Postgres.commentEnd] at h
    unfold blockLength
    split at h
    case isTrue hclose =>
      cases h
      exact if_pos hclose
    case isFalse hinside =>
      rw [if_neg hinside]
      split at h
      case isTrue hopen =>
        obtain ⟨⟨b, left⟩, hend, hb⟩ := Option.map_eq_some_iff.mp h
        cases hb
        rw [hopen.1, hopen.2] at hnested
        exact absurd ⟨[], b, rfl⟩ hnested
      case isFalse =>
        obtain ⟨⟨b, left⟩, hend, hb⟩ := Option.map_eq_some_iff.mp h
        cases hb
        have ih := blockLength_commentEnd hend fun hinside => hnested (hinside.trans ⟨[u], [], by simp⟩)
        rw [ih, Nat.add_comm]
        rfl

end

/-! ## Tokens -/

/-- The splitter reads the token as the server does, with the text `following` behind it. -/
def Postgres.Token.readAlike (t : Postgres.Token) (following : JsString) : Bool :=
  match t.kind with
  | .word | .identifier => plainText t.text following
  | .escapeString => !escapesQuote t.text
  | .dollarString delimiter => delimiter.all fun u => u == dollar || isTagUnit u
  | .lineComment => (following.takeWhile (· ≠ lf)).all Postgres.isSpace
  | .blockComment => !decide ([slash, asterisk] <:+: t.text.drop 2)
  | .string | .semicolon | .other => true

theorem Postgres.quotedEnd_text {quote : Nat} {s b left : JsString}
    (h : Postgres.quotedEnd quote s = some (b, left)) : s = b ++ left := by
  fun_induction Postgres.quotedEnd quote s generalizing b with
  | case1 => cases h
  | case2 | case5 => cases h; rfl
  | case3 => cases h
  | case4 _ ih | case6 _ _ _ _ ih =>
    obtain ⟨⟨b, left⟩, hend, hb⟩ := Option.map_eq_some_iff.mp h
    cases hb
    simpa using ih hend

theorem Postgres.escapedEnd_text {s b left : JsString} (h : Postgres.escapedEnd s = some (b, left)) :
    s = b ++ left := by
  fun_induction Postgres.escapedEnd s generalizing b with
  | case1 => cases h
  | case2 | case6 => cases h; rfl
  | case3 => cases h
  | case4 _ _ ih | case5 _ _ ih | case7 _ _ _ _ _ ih =>
    obtain ⟨⟨b, left⟩, hend, hb⟩ := Option.map_eq_some_iff.mp h
    cases hb
    simpa using ih hend

theorem Postgres.commentEnd_text {depth : Nat} {s b left : JsString}
    (h : Postgres.commentEnd depth s = some (b, left)) : s = b ++ left := by
  fun_induction Postgres.commentEnd depth s generalizing b with
  | case1 _ _ _ hclose =>
    cases h
    rfl
  | case2 _ _ _ _ _ ih | case3 _ _ _ _ _ _ ih | case4 _ _ _ _ _ _ ih =>
    obtain ⟨⟨b, left⟩, hend, hb⟩ := Option.map_eq_some_iff.mp h
    cases hb
    simpa using ih hend
  | case5 => cases h

theorem Postgres.dollarEnd_text {delimiter s b left : JsString}
    (h : Postgres.dollarEnd delimiter s = some (b, left)) : s = b ++ left := by
  fun_induction Postgres.dollarEnd delimiter s generalizing b with
  | case1 => cases h; rfl
  | case2 => cases h
  | case3 u s hclose =>
    cases h
    have htag := List.prefix_iff_eq_take.mp (List.isPrefixOf_iff_prefix.mp hclose)
    calc u :: s = (u :: s).take delimiter.length ++ (u :: s).drop delimiter.length :=
          (List.take_append_drop delimiter.length (u :: s)).symm
      _ = delimiter ++ (u :: s).drop delimiter.length := by rw [← htag]
  | case4 _ _ _ ih =>
    obtain ⟨⟨b, left⟩, hend, hb⟩ := Option.map_eq_some_iff.mp h
    cases hb
    simpa using ih hend

/-- The token at the start of a text by its kind, and what follows it. -/
inductive Postgres.Lexes (e : Postgres.EscapeState) : JsString → Postgres.Token → JsString → Prop where
  | escapeString {rest b left : JsString} (ends : Postgres.escapedEnd rest = some (b, left)) :
      Lexes e (singleQuote :: rest) ⟨.escapeString, singleQuote :: b⟩ left
  | string {rest b left : JsString} (ends : Postgres.quotedEnd singleQuote rest = some (b, left)) :
      Lexes e (singleQuote :: rest) ⟨.string, singleQuote :: b⟩ left
  | identifier {rest b left : JsString}
      (ends : Postgres.quotedEnd Postgres.doubleQuote rest = some (b, left)) :
      Lexes e (Postgres.doubleQuote :: rest) ⟨.identifier, Postgres.doubleQuote :: b⟩ left
  | lineComment {c left : JsString} (line : ∀ u ∈ c, Postgres.isNewline u = false) :
      Lexes e (hyphen :: hyphen :: c ++ left) ⟨.lineComment, hyphen :: hyphen :: c⟩ left
  | blockComment {rest b left : JsString} (ends : Postgres.commentEnd 0 rest = some (b, left)) :
      Lexes e (slash :: asterisk :: rest) ⟨.blockComment, slash :: asterisk :: b⟩ left
  | semicolon {left : JsString} : Lexes e (semicolon :: left) ⟨.semicolon, [semicolon]⟩ left
  | word {t left : JsString} : Lexes e (t ++ left) ⟨.word, t⟩ left
  | dollarString {tag rest b left : JsString} (name : ∀ u ∈ tag, Postgres.isTagCont u = true)
      (ends : Postgres.dollarEnd (dollar :: (tag ++ [dollar])) rest = some (b, left)) :
      Lexes e (dollar :: (tag ++ [dollar]) ++ rest)
        ⟨.dollarString (dollar :: (tag ++ [dollar])), dollar :: (tag ++ [dollar]) ++ b⟩ left
  | other {u : Nat} {left : JsString} (quote : u ≠ singleQuote)
      (line : ¬ (u = hyphen ∧ left.head? = some hyphen)) (block : ¬ (u = slash ∧ left.head? = some asterisk))
      (ends : u ≠ Lib.JsString.semicolon) (tag : Postgres.dollarDelimiter (u :: left) = none) :
      Lexes e (u :: left) ⟨.other, [u]⟩ left

theorem Postgres.dollarDelimiter_eq_some {sql delimiter : JsString}
    (h : Postgres.dollarDelimiter sql = some delimiter) : ∃ tag rest,
      delimiter = dollar :: (tag ++ [dollar]) ∧ sql = dollar :: (tag ++ [dollar]) ++ rest ∧
      (∀ u ∈ tag, Postgres.isTagCont u = true) := by
  cases sql with
  | nil => cases h
  | cons u s =>
    simp only [Postgres.dollarDelimiter] at h
    split at h
    case isFalse => cases h
    case isTrue hopen =>
      cases h
      obtain ⟨rfl, -, hclose⟩ := hopen
      obtain ⟨rest, hrest⟩ := List.head?_eq_some_iff.mp hclose
      refine ⟨s.takeWhile Postgres.isTagCont, rest, rfl, ?_, fun u hu => List.mem_takeWhile_imp hu⟩
      rw [List.cons_append, List.append_assoc, List.singleton_append, ← hrest,
        List.takeWhile_append_dropWhile]

theorem Postgres.nextToken_lexes {e : Postgres.EscapeState} {ch : Nat} {rest left : JsString}
    {t : Postgres.Token} (h : Postgres.nextToken e ch rest = some (t, left)) :
    Postgres.Lexes e (ch :: rest) t left := by
  unfold Postgres.nextToken at h
  dsimp only at h
  split at h
  case isTrue hquote =>
    subst hquote
    split at h
    case isTrue =>
      obtain ⟨⟨b, left⟩, hend, ht⟩ := Option.map_eq_some_iff.mp h
      cases ht
      exact .escapeString hend
    case isFalse =>
      obtain ⟨⟨b, left⟩, hend, ht⟩ := Option.map_eq_some_iff.mp h
      cases ht
      exact .string hend
  case isFalse hquote =>
  split at h
  case isTrue hidentifier =>
    subst hidentifier
    obtain ⟨⟨b, left⟩, hend, ht⟩ := Option.map_eq_some_iff.mp h
    cases ht
    exact .identifier hend
  split at h
  case isTrue hcomment =>
    obtain ⟨rfl, hrest⟩ := hcomment
    obtain ⟨rest, rfl⟩ := List.head?_eq_some_iff.mp hrest
    cases h
    have hcomment := @Postgres.Lexes.lineComment e (rest.takeWhile fun u => !Postgres.isNewline u)
      (rest.dropWhile fun u => !Postgres.isNewline u) fun u hu => by
        simpa using List.mem_takeWhile_imp hu
    rwa [List.cons_append, List.cons_append, List.takeWhile_append_dropWhile] at hcomment
  case isFalse hline =>
  split at h
  case isTrue hcomment =>
    obtain ⟨rfl, hrest⟩ := hcomment
    obtain ⟨rest, rfl⟩ := List.head?_eq_some_iff.mp hrest
    obtain ⟨⟨b, left⟩, hend, ht⟩ := Option.map_eq_some_iff.mp h
    cases ht
    exact .blockComment hend
  case isFalse hblock =>
  split at h
  case isTrue hsemicolon =>
    cases h
    rw [hsemicolon]
    exact .semicolon
  case isFalse hsemicolon =>
  split at h
  case isTrue =>
    cases h
    have hword := @Postgres.Lexes.word e ((ch :: rest).takeWhile Postgres.isIdentCont)
      ((ch :: rest).dropWhile Postgres.isIdentCont)
    rwa [List.takeWhile_append_dropWhile] at hword
  split at h
  case h_1 delimiter hopen =>
    obtain ⟨⟨b, left⟩, hend, ht⟩ := Option.map_eq_some_iff.mp h
    cases ht
    obtain ⟨tag, rest', rfl, hsql, htag⟩ := Postgres.dollarDelimiter_eq_some hopen
    rw [hsql, List.drop_left] at hend
    rw [hsql]
    exact .dollarString htag hend
  case h_2 htag =>
    cases h
    exact .other hquote hline hblock hsemicolon htag

theorem Postgres.Lexes.text {e : Postgres.EscapeState} {sql left : JsString} {t : Postgres.Token}
    (h : Postgres.Lexes e sql t left) : sql = t.text ++ left := by
  cases h with
  | escapeString ends => rw [Postgres.escapedEnd_text ends, List.cons_append]
  | string ends => rw [Postgres.quotedEnd_text ends, List.cons_append]
  | identifier ends => rw [Postgres.quotedEnd_text ends, List.cons_append]
  | lineComment | semicolon | word | other => rfl
  | blockComment ends => rw [Postgres.commentEnd_text ends, List.cons_append, List.cons_append]
  | dollarString name ends => rw [Postgres.dollarEnd_text ends, List.append_assoc (dollar :: _)]

/-! ## The splitter on a token that it reads alike -/

theorem openingDollarTag_of_units {tag : JsString} (htag : ∀ u ∈ tag, isTagUnit u = true) (rest : JsString) :
    openingDollarTag (dollar :: (tag ++ [dollar]) ++ rest) = some (dollar :: (tag ++ [dollar])) := by
  have hdollar : ¬ isTagUnit dollar = true := by decide
  simp [openingDollarTag, List.takeWhile_append_of_pos htag, List.dropWhile_append_of_pos htag, hdollar]

/-- A tag for the splitter is one for the server. -/
theorem dollarDelimiter_of_opening {sql tag : JsString} (h : openingDollarTag sql = some tag) :
    Postgres.dollarDelimiter sql = some tag := by
  obtain ⟨name, rfl, hname, rest, rfl⟩ := openingDollarTag_eq_some h
  have hstart : ∀ u ∈ name, Postgres.isIdentStart u = true := by
    intro u hu
    have hunit := hname u hu
    simp only [isTagUnit, Postgres.isIdentStart, Bool.or_eq_true] at hunit ⊢
    exact .inl hunit
  have hcont : ∀ u ∈ name, Postgres.isTagCont u = true := fun u hu => by simp [Postgres.isTagCont, hstart u hu]
  have hdollar : ¬ Postgres.isTagCont dollar = true := by decide
  have hhead : name.head?.all Postgres.isIdentStart = true := by
    cases name with
    | nil => rfl
    | cons u name => exact hstart u List.mem_cons_self
  simp [Postgres.dollarDelimiter, List.takeWhile_append_of_pos hcont, List.dropWhile_append_of_pos hcont,
    hdollar, hhead]

theorem opensNothing_other {u : Nat} {following : JsString} (hquote : u ≠ singleQuote)
    (hline : ¬ (u = hyphen ∧ following.head? = some hyphen))
    (hblock : ¬ (u = slash ∧ following.head? = some asterisk)) (hsemicolon : u ≠ semicolon)
    (htag : Postgres.dollarDelimiter (u :: following) = none) : opensNothing u following = true := by
  have hopening : openingDollarTag (u :: following) = none := by
    cases hopen : openingDollarTag (u :: following) with
    | none => rfl
    | some tag =>
      rw [dollarDelimiter_of_opening hopen] at htag
      cases htag
  simpa [opensNothing, hquote, hsemicolon, hopening] using ⟨not_and_or.mp hline, not_and_or.mp hblock⟩

section

variable {statements : List JsString} {current : JsString}

theorem splitRun_openingDollar {tag : JsString} (htag : ∀ u ∈ tag, isTagUnit u = true) (rest : JsString) :
    splitRun (.outside statements current) (dollar :: (tag ++ [dollar]) ++ rest) =
      splitRun (.inDollar statements (current ++ dollar :: (tag ++ [dollar])) (dollar :: (tag ++ [dollar])))
        rest := by
  rw [List.cons_append, splitRun_cons, splitRound_of_code rfl, if_neg fun h => absurd h.1 (by decide),
    if_neg fun h => absurd h.1 (by decide), if_neg (by decide), ← List.cons_append,
    openingDollarTag_of_units htag]
  dsimp only
  rw [SplitState.consume_append]
  rfl

theorem splitRun_semicolon (left : JsString) :
    splitRun (.outside statements current) (semicolon :: left) =
      splitRun (.outside (statements ++ [Lib.JsString.trim (current ++ [semicolon])]) []) left := by
  have htag : openingDollarTag (semicolon :: left) = none := by
    rw [openingDollarTag]
    exact if_neg fun h => absurd h.1 (by decide)
  rw [splitRun_cons, splitRound_of_code rfl, if_neg fun h => absurd h.1 (by decide),
    if_neg fun h => absurd h.1 (by decide), if_neg (by decide), htag]
  rfl

end

/-- The token is taken whole: a semicolon ends the statement, any other goes on with it. -/
theorem Postgres.Lexes.splitRun {e : Postgres.EscapeState} {sql left : JsString} {t : Postgres.Token}
    (h : Postgres.Lexes e sql t left) (hread : t.readAlike left = true) (statements : List JsString)
    (current : JsString) :
    HostPlatform.splitRun (.outside statements current) sql =
      if t.kind = .semicolon then
        HostPlatform.splitRun (.outside (statements ++ [Lib.JsString.trim (current ++ t.text)]) []) left
      else HostPlatform.splitRun (.outside statements (current ++ t.text)) left := by
  cases h with
  | escapeString ends =>
    have hescapes := hread
    rw [Postgres.Token.readAlike, Bool.not_eq_true', escapesQuote_cons (by decide)] at hescapes
    rw [splitRun_openingQuote, splitRun_escapedEnd ends hescapes, List.append_assoc]
    rfl
  | string ends =>
    rw [splitRun_openingQuote, splitRun_quotedEnd ends, List.append_assoc]
    rfl
  | identifier ends =>
    rw [Postgres.quotedEnd_text ends, ← List.cons_append, splitRun_plain hread]
    rfl
  | lineComment line =>
    rw [splitRun_lineComment line hread]
    rfl
  | @blockComment rest b left ends =>
    have hnested : ¬ [slash, asterisk] <:+: b := by simpa [Postgres.Token.readAlike] using hread
    have hlength : 2 + blockLength rest = (slash :: asterisk :: b).length := by
      rw [blockLength_commentEnd ends hnested, Nat.add_comm]
      rfl
    have htext := Postgres.commentEnd_text ends
    rw [splitRun_cons, splitRound_of_code rfl, if_neg fun hline => absurd hline.1 (by decide),
      if_pos ⟨rfl, rfl⟩, List.tail_cons, hlength, htext, ← List.cons_append, ← List.cons_append,
      SplitState.consume_append]
    rfl
  | semicolon => exact splitRun_semicolon left
  | word =>
    rw [splitRun_plain hread]
    rfl
  | @dollarString tag rest b left name ends =>
    have hunits : ∀ u ∈ tag, isTagUnit u = true := by
      intro u hu
      have hunit := List.all_eq_true.mp hread u (by simp [hu])
      have hdollar : u ≠ dollar := by
        rintro rfl
        cases name dollar hu
      simpa [hdollar] using hunit
    rw [splitRun_openingDollar hunits, splitRun_dollarEnd ends, List.append_assoc]
    rfl
  | other quote line block ends tag =>
    rw [splitRun_unit (opensNothing_other quote line block ends tag)]
    rfl

end HostPlatform
