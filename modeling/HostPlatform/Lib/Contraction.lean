-- SUMMARY: Replacements that delete a part of each match, on texts with collapsed white space: they are runs of a deletion rule and leave no match.
import HostPlatform.Lib.Deletions
import HostPlatform.Lib.Replacement

/-!
# Contractions

A pattern of literal units and single blanks, with `\b` at its ends only, is a factor of
unit classes. A contraction replaces its matches by the match with a part left out, which
is a run of a deletion rule. Texts are framed by a mark, so that an end of the text is a
unit like any other; their case is folded.
-/

namespace Lib

namespace Pattern

open JsString

/-! ## Classes of units -/

inductive UnitClass where
  | unit (u : Nat)
  | notWord
  | notSpace
  | any
  deriving DecidableEq, Repr

def UnitClass.holds : UnitClass → Nat → Prop
  | .unit v, u => u = v
  | .notWord, u => isWord u = false
  | .notSpace, u => isSpace u = false
  | .any, _ => True

def UnitClass.meet : UnitClass → UnitClass → Bool
  | .unit u, .unit v => u == v
  | .unit u, .notWord => !isWord u
  | .notWord, .unit u => !isWord u
  | .unit u, .notSpace => !isSpace u
  | .notSpace, .unit u => !isSpace u
  | _, _ => true

theorem UnitClass.meet_of_holds {i j : UnitClass} {u : Nat} (hi : i.holds u) (hj : j.holds u) :
    i.meet j = true := by
  cases i <;> cases j <;> simp_all [UnitClass.holds, UnitClass.meet]

def UnitClass.within : UnitClass → UnitClass → Bool
  | .unit u, .unit v => u == v
  | .unit u, .notWord => !isWord u
  | .unit u, .notSpace => !isSpace u
  | i, j => decide (i = j) || decide (j = .any)

theorem UnitClass.holds_of_within {i j : UnitClass} {u : Nat} (h : i.within j = true) (hi : i.holds u) :
    j.holds u := by
  cases i <;> cases j <;> simp_all [UnitClass.holds, UnitClass.within]

def unitClasses : LetterClasses Nat UnitClass where
  holds := UnitClass.holds
  meet := UnitClass.meet
  within := UnitClass.within
  meet_of_holds := UnitClass.meet_of_holds
  holds_of_within := UnitClass.holds_of_within

/-- The classes of a word are its units. -/
abbrev units (w : JsString) : List UnitClass := w.map .unit

open LetterClasses

theorem fits_units {w m : JsString} : unitClasses.Fits (units w) m ↔ m = w := by
  rw [Fits, List.forall₂_map_left_iff]
  constructor
  · intro h
    have heq : List.Forall₂ (fun a b : Nat => a = b) w m := h.imp fun _ _ hab => Eq.symm hab
    rw [List.forall₂_eq_eq_eq] at heq
    exact heq.symm
  · rintro rfl
    exact List.forall₂_same.mpr fun _ _ => rfl

theorem startsWith_append {Q Q' : List UnitClass} {s : JsString} :
    unitClasses.StartsWith (Q ++ Q') s ↔
      ∃ x y, s = x ++ y ∧ unitClasses.Fits Q x ∧ unitClasses.StartsWith Q' y := by
  constructor
  · rintro ⟨m, ⟨b, rfl⟩, hfits⟩
    have htake := List.forall₂_take Q.length hfits
    have hdrop := List.forall₂_drop Q.length hfits
    rw [List.take_left] at htake
    rw [List.drop_left] at hdrop
    refine ⟨m.take Q.length, m.drop Q.length ++ b, ?_, htake, m.drop Q.length, List.prefix_append _ _, hdrop⟩
    rw [← List.append_assoc, List.take_append_drop]
  · rintro ⟨x, y, rfl, hx, m, ⟨b, rfl⟩, hm⟩
    exact ⟨x ++ m, ⟨b, by rw [List.append_assoc]⟩, List.rel_append hx hm⟩

theorem startsWith_units_append {w : JsString} {Q : List UnitClass} {s : JsString} :
    unitClasses.StartsWith (units w ++ Q) s ↔ ∃ y, s = w ++ y ∧ unitClasses.StartsWith Q y := by
  simp only [startsWith_append, fits_units]
  constructor
  · rintro ⟨x, y, rfl, rfl, hy⟩
    exact ⟨y, rfl, hy⟩
  · rintro ⟨y, rfl, hy⟩
    exact ⟨w, y, rfl, rfl, hy⟩

theorem startsWith_cons {i : UnitClass} {Q : List UnitClass} {u : Nat} {s : JsString} :
    unitClasses.StartsWith (i :: Q) (u :: s) ↔ i.holds u ∧ unitClasses.StartsWith Q s := by
  constructor
  · rintro ⟨m, hm, hfits⟩
    cases hfits with
    | @cons _ b _ m hi hfits =>
      rw [List.cons_prefix_cons] at hm
      exact ⟨hm.1 ▸ hi, m, hm.2, hfits⟩
  · rintro ⟨hi, m, hm, hfits⟩
    exact ⟨u :: m, List.cons_prefix_cons.mpr ⟨rfl, hm⟩, .cons hi hfits⟩

/-- Two blanks in a row. -/
def doubleSpace : List UnitClass := units [space, space]

theorem Collapsed.free {s : JsString} (h : Collapsed s) : unitClasses.Free [doubleSpace] s := by
  intro Q hQ
  rw [List.mem_singleton] at hQ
  subst hQ
  rintro ⟨m, hm, hfits⟩
  rw [doubleSpace, fits_units] at hfits
  exact h.single (hfits ▸ hm)

theorem collapsed_of_free {s : JsString} (hblank : ∀ u ∈ s, isSpace u = true → u = space)
    (h : unitClasses.Free [doubleSpace] s) : Collapsed s :=
  ⟨hblank, fun hdouble => h _ List.mem_cons_self ⟨_, hdouble, fits_units.mpr rfl⟩⟩

theorem step_collapsed {r : DeletionRule UnitClass} {s t : JsString}
    (hclosed : r.closed unitClasses [doubleSpace] = true) (hstep : r.Step unitClasses s t)
    (h : Collapsed s) : Collapsed t := by
  refine collapsed_of_free ?_ (hstep.free hclosed h.free)
  cases hstep with
  | mk p d q _ _ _ =>
    intro u hu
    refine h.blank u ?_
    rw [List.append_assoc]
    exact (List.mem_append.mp hu).elim (List.mem_append_left _)
      fun hq => List.mem_append_right _ (List.mem_append_right _ hq)

/-! ## Framed patterns -/

/-- The unit at both ends of a text. -/
def mark : Nat := 0

/-- A pattern with `\b` at its ends only. -/
structure Framed where
  before : Bool
  body : Pattern
  after : Bool

namespace Framed

def pattern (c : Framed) : Pattern :=
  (if c.before then [.boundary] else []) ++ (c.body ++ if c.after then [.boundary] else [])

/-- What the unit before a match is like: no blank stands before a blank. -/
def look (c : Framed) : UnitClass :=
  if c.before then .notWord else if c.body.word.head?.any isSpace then .notSpace else .any

def ahead (c : Framed) : List UnitClass :=
  if c.after then [.notWord] else if c.body.word.getLast?.any isSpace then [.notSpace] else []

/-- The pattern as a factor of a framed text. -/
def factor (c : Framed) : List UnitClass := c.look :: (units c.body.word ++ c.ahead)

structure Lawful (c : Framed) : Prop where
  noBoundary : .boundary ∉ c.body
  nonempty : c.body.word ≠ []
  noMark : mark ∉ c.body.word
  blanks : c.body.word.any isSpace = true → .spaces ∈ c.body
  starts : c.before = true → c.body.word.head?.any isWord = true
  ends : c.after = true → c.body.word.getLast?.any isWord = true

instance (c : Framed) : Decidable c.Lawful :=
  decidable_of_iff (.boundary ∉ c.body ∧ c.body.word ≠ [] ∧ mark ∉ c.body.word ∧
      (c.body.word.any isSpace = true → .spaces ∈ c.body) ∧
      (c.before = true → c.body.word.head?.any isWord = true) ∧
      (c.after = true → c.body.word.getLast?.any isWord = true))
    ⟨fun ⟨h₁, h₂, h₃, h₄, h₅, h₆⟩ => ⟨h₁, h₂, h₃, h₄, h₅, h₆⟩,
      fun ⟨h₁, h₂, h₃, h₄, h₅, h₆⟩ => ⟨h₁, h₂, h₃, h₄, h₅, h₆⟩⟩

end Framed

variable {p : Pattern} {prev q : Option Nat} {s t rest : JsString} {a : Nat}

theorem word_cons_unit (v : Nat) (p : Pattern) : word (.unit v :: p) = foldUnit v :: p.word := rfl

theorem word_cons_spaces (p : Pattern) : word (.spaces :: p) = space :: p.word := rfl

theorem getLast?_cons_or (u : Nat) (w : JsString) (prev : Option Nat) :
    (u :: w).getLast?.or prev = w.getLast?.or (some u) := by
  rw [List.getLast?_cons]
  cases w.getLast? <;> rfl

/-- What a match without boundaries takes. -/
theorem matchAt_word (hp : .boundary ∉ p) (hs : .spaces ∈ p → Collapsed s) (hfold : foldText s = s)
    (h : p.matchAt prev s = some (q, rest)) : s = p.word ++ rest ∧ q = p.word.getLast?.or prev := by
  induction p generalizing prev s with
  | nil =>
    simp only [matchAt, Option.some.injEq, Prod.mk.injEq] at h
    obtain ⟨rfl, rfl⟩ := h
    exact ⟨rfl, rfl⟩
  | cons i p ih =>
    have hp' : .boundary ∉ p := fun hmem => hp (List.mem_cons_of_mem i hmem)
    have htail : ∀ {u s}, (.spaces ∈ i :: p → Collapsed (u :: s)) → .spaces ∈ p → Collapsed s :=
      fun hs hmem => (hs (List.mem_cons_of_mem i hmem)).tail
    cases s with
    | nil =>
      cases i with
      | unit v => cases h
      | spaces => cases h
      | boundary => exact absurd List.mem_cons_self hp
    | cons u s =>
      obtain ⟨hu, hfold⟩ : foldUnit u = u ∧ foldText s = s := by simpa [foldText] using hfold
      cases i with
      | unit v =>
        simp only [matchAt, Option.ite_none_right_eq_some] at h
        obtain ⟨rfl, rfl⟩ := ih hp' (htail hs) hfold h.2
        rw [word_cons_unit, ← h.1, hu]
        exact ⟨rfl, (getLast?_cons_or u _ prev).symm⟩
      | spaces =>
        simp only [matchAt, Option.ite_none_right_eq_some] at h
        obtain ⟨hspace, h⟩ := h
        have hcollapsed := hs List.mem_cons_self
        rw [hcollapsed.dropWhile hspace] at h
        obtain ⟨rfl, rfl⟩ := ih hp' (htail hs) hfold h
        obtain rfl := hcollapsed.blank u List.mem_cons_self hspace
        exact ⟨rfl, (getLast?_cons_or space _ prev).symm⟩
      | boundary => exact absurd List.mem_cons_self hp

theorem matchAt_of_word (hp : .boundary ∉ p) (hs : .spaces ∈ p → Collapsed (p.word ++ rest)) (prev : Option Nat) :
    p.matchAt prev (p.word ++ rest) = some (p.word.getLast?.or prev, rest) := by
  induction p generalizing prev with
  | nil => rfl
  | cons i p ih =>
    have hp' : .boundary ∉ p := fun hmem => hp (List.mem_cons_of_mem i hmem)
    have htail : ∀ {u}, (.spaces ∈ i :: p → Collapsed (u :: (word p ++ rest))) →
        .spaces ∈ p → Collapsed (word p ++ rest) :=
      fun hs hmem => (hs (List.mem_cons_of_mem i hmem)).tail
    cases i with
    | unit v =>
      rw [word_cons_unit, List.cons_append] at hs ⊢
      rw [matchAt, if_pos (foldUnit_foldUnit v), ih hp' (htail hs), getLast?_cons_or]
    | spaces =>
      rw [word_cons_spaces, List.cons_append] at hs ⊢
      have hspace : isSpace space = true := rfl
      rw [matchAt, if_pos hspace, (hs List.mem_cons_self).dropWhile hspace, ih hp' (htail hs),
        getLast?_cons_or]
    | boundary => exact absurd List.mem_cons_self hp

/-! ## Matches of framed patterns -/

theorem matchAt_guard (b : Bool) (prev : Option Nat) (s : JsString) :
    matchAt (if b then [.boundary] else []) prev s
      = if (b && !atBoundary prev s) = true then none else some (prev, s) := by
  cases b with
  | false => rfl
  | true => cases hb : atBoundary prev s <;> simp [matchAt, hb]

namespace Framed

variable {c : Framed}

theorem pattern_matchAt (c : Framed) (prev : Option Nat) (s : JsString) :
    c.pattern.matchAt prev s = if (c.before && !atBoundary prev s) = true then none
      else (c.body.matchAt prev s).bind fun m =>
        if (c.after && !atBoundary m.1 m.2) = true then none else some m := by
  rw [pattern, matchAt_append, matchAt_guard]
  split
  next => rfl
  next => simp only [Option.bind_some, matchAt_append, matchAt_guard]

/-- A boundary before a word stands after no word. -/
theorem atBoundary_of_head {w : JsString} (hw : w.head?.any isWord = true) (prev : Option Nat) :
    atBoundary prev (w ++ rest) = !prev.any isWord := by
  cases w with
  | nil => cases hw
  | cons u w =>
    simp only [List.head?_cons, Option.any_some] at hw
    cases hprev : prev.any isWord <;> simp [atBoundary, hprev, hw]

theorem atBoundary_of_last (hq : q.any isWord = true) : atBoundary q rest = !rest.head?.any isWord := by
  cases hrest : rest.head?.any isWord <;> simp [atBoundary, hq, hrest]

theorem startsWith_mark {i : UnitClass} : unitClasses.StartsWith [i] (rest ++ [mark]) ↔
    i.holds (rest.head?.getD mark) := by
  have hnil : ∀ s : JsString, unitClasses.StartsWith [] s := fun s => ⟨[], List.nil_prefix, .nil⟩
  cases rest with
  | nil => rw [List.nil_append, startsWith_cons]; exact and_iff_left (hnil _)
  | cons u rest => rw [List.cons_append, startsWith_cons]; exact and_iff_left (hnil _)

/-- What stands after a blank is no blank. -/
theorem notSpace_of_collapsed {u v : Nat} (hs : Collapsed (u :: v :: s)) (hu : isSpace u = true) :
    isSpace v = false := by
  cases hv : isSpace v with
  | false => rfl
  | true => exact absurd (hs.dropWhile hu) (dropWhile_ne_self hv)

theorem any_of_head {w : JsString} {f : Nat → Bool} (h : w.head?.any f = true) : w.any f = true := by
  obtain ⟨u, hu, hf⟩ := Option.any_eq_true _ _ |>.mp h
  exact List.any_eq_true.mpr ⟨u, List.mem_of_head? hu, hf⟩

theorem any_of_last {w : JsString} {f : Nat → Bool} (h : w.getLast?.any f = true) : w.any f = true := by
  obtain ⟨u, hu, hf⟩ := Option.any_eq_true _ _ |>.mp h
  exact List.any_eq_true.mpr ⟨u, List.mem_of_getLast? hu, hf⟩

theorem look_of_matchAt (hc : c.Lawful) (hs : .spaces ∈ c.body → Collapsed (a :: (c.body.word ++ rest)))
    (hsame : SamePrev prev (some a))
    (hb : ¬ (c.before && !atBoundary prev (c.body.word ++ rest)) = true) : c.look.holds a := by
  unfold look
  split
  next hbefore =>
    have hstarts := hc.starts hbefore
    rw [atBoundary_of_head hstarts, hbefore, hsame] at hb
    simpa [UnitClass.holds] using hb
  next =>
    split
    next hhead =>
      cases hw : c.body.word with
      | nil => exact absurd hw hc.nonempty
      | cons v w =>
        have hs := hs (hc.blanks (any_of_head hhead))
        rw [hw] at hs hhead
        cases ha : isSpace a with
        | false => exact ha
        | true =>
          have hv := notSpace_of_collapsed hs ha
          rw [List.head?_cons, Option.any_some, hv] at hhead
          cases hhead
    next => trivial

theorem ahead_of_matchAt (hc : c.Lawful)
    (hs : .spaces ∈ c.body → Collapsed (c.body.word ++ (rest ++ [mark])))
    (hb : ¬ (c.after && !atBoundary c.body.word.getLast? rest) = true) :
    unitClasses.StartsWith c.ahead (rest ++ [mark]) := by
  unfold ahead
  split
  next hafter =>
    rw [atBoundary_of_last (hc.ends hafter), hafter] at hb
    rw [startsWith_mark]
    cases rest with
    | nil => rfl
    | cons u rest => simpa [UnitClass.holds] using hb
  next =>
    split
    next hlast =>
      rw [startsWith_mark]
      have hs := hs (hc.blanks (any_of_last hlast))
      obtain ⟨w, x, hw⟩ : ∃ w x, c.body.word = w ++ [x] :=
        ⟨_, _, (List.dropLast_append_getLast hc.nonempty).symm⟩
      rw [hw, List.getLast?_concat, Option.any_some] at hlast
      rw [hw, List.append_assoc] at hs
      have htail : Collapsed (x :: (rest ++ [mark])) := hs.part (List.suffix_append w _).isInfix
      cases rest with
      | nil => exact notSpace_of_collapsed htail hlast
      | cons u rest => exact notSpace_of_collapsed htail hlast
    next => exact ⟨[], List.nil_prefix, .nil⟩

/-- A match takes the word, between units as the factor wants them. -/
theorem factor_of_matchAt (hc : c.Lawful) (hs : .spaces ∈ c.body → Collapsed (a :: (s ++ [mark])))
    (hfold : foldText s = s) (hsame : SamePrev prev (some a))
    (h : c.pattern.matchAt prev s = some (q, rest)) :
    s = c.body.word ++ rest ∧ q = c.body.word.getLast? ∧ c.look.holds a ∧
      unitClasses.StartsWith c.ahead (rest ++ [mark]) := by
  rw [pattern_matchAt, Option.ite_none_left_eq_some, Option.bind_eq_some_iff] at h
  obtain ⟨hbefore, ⟨q', rest'⟩, hbody, h⟩ := h
  rw [Option.ite_none_left_eq_some] at h
  obtain ⟨hafter, h⟩ := h
  cases h
  have hscol : .spaces ∈ c.body → Collapsed s :=
    fun hmem => (hs hmem).tail.part (List.prefix_append s [mark]).isInfix
  obtain ⟨rfl, rfl⟩ := matchAt_word hc.noBoundary hscol hfold hbody
  have hlast : c.body.word.getLast?.or prev = c.body.word.getLast? := by
    rw [List.getLast?_eq_some_getLast hc.nonempty]
    rfl
  rw [hlast] at hafter
  refine ⟨rfl, hlast, look_of_matchAt hc (fun hmem => ?_) hsame hbefore,
    ahead_of_matchAt hc (fun hmem => ?_) hafter⟩
  · exact (hs hmem).part (List.prefix_append (a :: (c.body.word ++ rest)) [mark]).isInfix
  · rw [← List.append_assoc]
    exact (hs hmem).tail

/-- Conversely, the factor is matched. -/
theorem matchAt_of_factor (hc : c.Lawful) (hs : .spaces ∈ c.body → Collapsed (a :: (s ++ [mark])))
    (hsame : SamePrev prev (some a)) (h : unitClasses.StartsWith c.factor (a :: (s ++ [mark]))) :
    ∃ rest, s = c.body.word ++ rest ∧ c.pattern.matchAt prev s = some (c.body.word.getLast?, rest) := by
  rw [factor, startsWith_cons, startsWith_units_append] at h
  obtain ⟨hlook, y, hy, hahead⟩ := h
  obtain ⟨rest, rfl, rfl⟩ : ∃ rest, s = c.body.word ++ rest ∧ y = rest ++ [mark] := by
    obtain ⟨x, hx, hxy⟩ | ⟨rest, hs, hy⟩ := List.append_eq_append_iff.mp hy
    · cases x with
      | nil => exact ⟨[], by simpa using hx.symm, by simpa using hxy.symm⟩
      | cons b x =>
        rw [List.cons_append, List.cons.injEq] at hxy
        refine absurd ?_ hc.noMark
        rw [hx, hxy.1]
        exact List.mem_append_right _ List.mem_cons_self
    · exact ⟨rest, hs, hy⟩
  refine ⟨rest, rfl, ?_⟩
  have hbefore : (c.before && !atBoundary prev (c.body.word ++ rest)) = false := by
    cases hb : c.before with
    | false => rfl
    | true =>
      rw [look, if_pos hb] at hlook
      rw [atBoundary_of_head (hc.starts hb), hsame]
      simpa [UnitClass.holds] using hlook
  have hafter : (c.after && !atBoundary c.body.word.getLast? rest) = false := by
    cases hb : c.after with
    | false => rfl
    | true =>
      rw [ahead, if_pos hb, startsWith_mark] at hahead
      rw [atBoundary_of_last (hc.ends hb)]
      cases rest with
      | nil => rfl
      | cons u rest => simpa [UnitClass.holds] using hahead
  have hscol : .spaces ∈ c.body → Collapsed (c.body.word ++ rest) :=
    fun hmem => (hs hmem).tail.part (List.prefix_append _ [mark]).isInfix
  have hlast : c.body.word.getLast?.or prev = c.body.word.getLast? := by
    rw [List.getLast?_eq_some_getLast hc.nonempty]
    rfl
  simp only [pattern_matchAt, hbefore, matchAt_of_word hc.noBoundary hscol, hlast, Option.bind_some,
    hafter, Bool.false_eq_true, if_false]

theorem not_occurs_mark (hc : c.Lawful) : ¬ unitClasses.Occurs c.factor [mark] := by
  rw [occurs_cons, factor, startsWith_cons, startsWith_units_append]
  rintro (⟨_, y, hy, _⟩ | ⟨m, hm, hfits⟩)
  · exact hc.nonempty (List.append_eq_nil_iff.mp hy.symm).1
  · rw [List.infix_nil.mp hm] at hfits
    cases hfits

/-- The pattern is absent where its factor does not occur. -/
theorem absentFrom_iff (hc : c.Lawful) (hs : .spaces ∈ c.body → Collapsed (a :: (s ++ [mark]))) (hfold : foldText s = s)
    (hsame : SamePrev prev (some a)) :
    absentFrom c.pattern prev s = true ↔ ¬ unitClasses.Occurs c.factor (a :: (s ++ [mark])) := by
  induction s generalizing prev a with
  | nil =>
    refine iff_of_true rfl fun h => ?_
    obtain hstarts | hmark := occurs_cons.mp h
    · obtain ⟨rest, hrest, _⟩ := matchAt_of_factor hc hs hsame hstarts
      exact hc.nonempty (List.append_eq_nil_iff.mp hrest.symm).1
    · exact not_occurs_mark hc hmark
  | cons u s ih =>
    have hfold' : foldText s = s := (List.cons.inj hfold).2
    rw [absentFrom_cons, occurs_cons, not_or, List.cons_append, ih (fun hmem => (hs hmem).tail) hfold' rfl]
    refine and_congr_left fun _ => ⟨fun hnone hstarts => ?_, fun hstarts => ?_⟩
    · obtain ⟨rest, _, hsome⟩ := matchAt_of_factor hc hs hsame hstarts
      rw [hnone] at hsome
      cases hsome
    · cases hmatch : c.pattern.matchAt prev (u :: s) with
      | none => rfl
      | some m =>
        obtain ⟨hword, _, hlook, hahead⟩ := factor_of_matchAt hc hs hfold hsame hmatch
        refine absurd ?_ hstarts
        rw [factor, startsWith_cons, startsWith_units_append]
        exact ⟨hlook, m.2 ++ [mark], by rw [← List.cons_append, hword, List.append_assoc], hahead⟩

end Framed

/-! ## Contractions -/

/-- A framed pattern whose matches lose their middle part. -/
structure Contraction extends Framed where
  left : JsString
  deleted : JsString
  right : JsString

namespace Contraction

def out (c : Contraction) : JsString := c.left ++ c.right

/-- Every match is contracted. -/
def contract (c : Contraction) (s : JsString) : JsString := c.pattern.replaceAll c.out s

def rule (c : Contraction) : DeletionRule UnitClass :=
  ⟨c.look :: units c.left, units c.deleted, units c.right ++ c.ahead⟩

structure Lawful (c : Contraction) : Prop where
  framed : c.toFramed.Lawful
  word_eq : c.body.word = c.left ++ (c.deleted ++ c.right)
  folded : foldText c.out = c.out
  /-- The deletion brings no blanks together. -/
  closed : .spaces ∈ c.body → c.rule.closed unitClasses [doubleSpace] = true
  /-- What is left of a match ends as the match did, as far as `\b` sees. -/
  edge : c.out ≠ [] → SamePrev c.body.word.getLast? c.out.getLast?
  /-- Where nothing is left, the match stood and ended beside no word. -/
  bare : c.out = [] → c.before = true ∧ SamePrev c.body.word.getLast? none
  /-- No match begins in what is left of a match. -/
  spare : ∀ n < c.out.length,
    unitClasses.agree ((c.look :: (units c.out ++ c.ahead)).drop n) c.factor = false

instance (c : Contraction) : Decidable c.Lawful :=
  decidable_of_iff (c.toFramed.Lawful ∧ c.body.word = c.left ++ (c.deleted ++ c.right) ∧
      foldText c.out = c.out ∧
      (.spaces ∈ c.body → c.rule.closed unitClasses [doubleSpace] = true) ∧
      (c.out ≠ [] → SamePrev c.body.word.getLast? c.out.getLast?) ∧
      (c.out = [] → c.before = true ∧ SamePrev c.body.word.getLast? none) ∧
      ∀ n < c.out.length,
        unitClasses.agree ((c.look :: (units c.out ++ c.ahead)).drop n) c.factor = false)
    ⟨fun ⟨h₁, h₂, h₃, h₄, h₅, h₆, h₇⟩ => ⟨h₁, h₂, h₃, h₄, h₅, h₆, h₇⟩,
      fun ⟨h₁, h₂, h₃, h₄, h₅, h₆, h₇⟩ => ⟨h₁, h₂, h₃, h₄, h₅, h₆, h₇⟩⟩

variable {c : Contraction}

theorem Lawful.samePrev (hc : c.Lawful) (hlook : c.look.holds a) :
    SamePrev c.body.word.getLast? (a :: c.out).getLast? := by
  cases hout : c.out with
  | nil =>
    obtain ⟨hbefore, hlast⟩ := hc.bare hout
    rw [Framed.look, if_pos hbefore] at hlook
    exact Eq.trans hlast (Eq.symm hlook)
  | cons u out =>
    rw [List.getLast?_cons_cons, ← hout]
    exact hc.edge (by simp [hout])

/-- A match is contracted by one deletion. -/
theorem step_of_match (pre : JsString) (hc : c.Lawful) (hlook : c.look.holds a)
    (hahead : unitClasses.StartsWith c.ahead (rest ++ [mark])) :
    c.rule.Step unitClasses (pre ++ a :: (c.body.word ++ (rest ++ [mark])))
      (pre ++ a :: (c.out ++ (rest ++ [mark]))) := by
  have hleft : ∃ l, l <:+ pre ++ a :: c.left ∧ unitClasses.Fits c.rule.left l :=
    ⟨a :: c.left, List.suffix_append _ _, .cons hlook (fits_units.mpr rfl)⟩
  have hright : ∃ k, k <+: c.right ++ (rest ++ [mark]) ∧ unitClasses.Fits c.rule.right k :=
    startsWith_units_append.mpr ⟨rest ++ [mark], rfl, hahead⟩
  have hstep := DeletionRule.Step.mk _ c.deleted _ hleft (fits_units.mpr rfl) hright
  simpa only [hc.word_eq, out, List.append_assoc, List.cons_append] using hstep

theorem Lawful.collapsed (hc : c.Lawful) (hstep : c.rule.Step unitClasses s t)
    (hs : .spaces ∈ c.body → Collapsed s) (hmem : .spaces ∈ c.body) : Collapsed t :=
  step_collapsed (hc.closed hmem) hstep (hs hmem)

/-- The unit before what follows a contracted match. -/
theorem exists_last (a : Nat) (w : JsString) : ∃ x b, a :: w = x ++ [b] :=
  ⟨_, _, (List.dropLast_append_getLast (List.cons_ne_nil a w)).symm⟩

/-- Replacing the matches is a run of the rule. -/
theorem run_of_replaced (pre : JsString) (hc : c.Lawful) (h : Replaced c.pattern c.out prev s t)
    (hsame : SamePrev prev (some a)) (hfold : foldText s = s)
    (hs : .spaces ∈ c.body → Collapsed (pre ++ a :: (s ++ [mark]))) :
    c.rule.Run unitClasses (pre ++ a :: (s ++ [mark])) (pre ++ a :: (t ++ [mark])) := by
  induction h generalizing pre a with
  | nil prev => exact .refl
  | @copy prev u s t _ _ ih =>
    have htext : ∀ s : JsString, pre ++ a :: (u :: s ++ [mark]) = (pre ++ [a]) ++ u :: (s ++ [mark]) := by
      simp
    rw [htext] at hs ⊢
    rw [htext]
    exact ih _ rfl (List.cons.inj hfold).2 hs
  | @hit prev q u s rest t hsome _ ih =>
    have hmatched : .spaces ∈ c.body → Collapsed (a :: (u :: s ++ [mark])) :=
      fun hmem => (hs hmem).part (List.suffix_append _ _).isInfix
    obtain ⟨hword, rfl, hlook, hahead⟩ := c.factor_of_matchAt hc.framed hmatched hfold hsame hsome
    rw [hword, List.append_assoc] at hs ⊢
    have hstep := step_of_match pre hc hlook hahead
    have hcol := hc.collapsed hstep hs
    obtain ⟨x, b, hxb⟩ := exists_last a c.out
    have htext : ∀ y : JsString, pre ++ a :: (c.out ++ y) = (pre ++ x) ++ b :: y := by
      intro y
      rw [← List.cons_append, hxb]
      simp
    have hlast := hc.samePrev hlook
    rw [hxb, List.getLast?_concat] at hlast
    have hrest : foldText rest = rest := by
      rw [hword, foldText, List.map_append] at hfold
      exact (List.append_inj hfold (by simp)).2
    rw [htext] at hstep hcol
    have hrun := ih _ hlast hrest hcol
    rw [List.append_assoc, htext]
    exact hrun.head hstep

/-- An occurrence is behind the first part of a text, or starts in it. -/
theorem occurs_append {Q : List UnitClass} {x y : JsString} (h : unitClasses.Occurs Q (x ++ y)) :
    unitClasses.Occurs Q y ∨ ∃ x₁ x₂, x = x₁ ++ x₂ ∧ x₂ ≠ [] ∧ unitClasses.StartsWith Q (x₂ ++ y) := by
  induction x with
  | nil => exact .inl h
  | cons u x ih =>
    obtain hstarts | hlater := occurs_cons.mp h
    · exact .inr ⟨[], u :: x, rfl, List.cons_ne_nil u x, hstarts⟩
    · obtain hy | ⟨x₁, x₂, rfl, hne, hstarts⟩ := ih hlater
      · exact .inl hy
      · exact .inr ⟨u :: x₁, x₂, rfl, hne, hstarts⟩

/-- No match begins in what is left of a match. -/
theorem not_startsWith_out (hc : c.Lawful) (hlook : c.look.holds a)
    (hahead : unitClasses.StartsWith c.ahead (rest ++ [mark])) {x₁ x₂ : JsString} {b : Nat}
    (hx : a :: c.out = x₁ ++ x₂ ++ [b]) (hne : x₂ ≠ []) :
    ¬ unitClasses.StartsWith c.factor (x₂ ++ b :: (rest ++ [mark])) := by
  rintro ⟨m, hm, hfits⟩
  obtain ⟨k, hk, hkfits⟩ := hahead
  have hleft : unitClasses.Fits (c.look :: (units c.out ++ c.ahead)) (x₁ ++ (x₂ ++ b :: k)) := by
    have hout : unitClasses.Fits (c.look :: units c.out) (a :: c.out) := .cons hlook (fits_units.mpr rfl)
    have hall := List.rel_append hout hkfits
    rw [hx] at hall
    simpa [List.append_assoc] using hall
  have hdrop := (LetterClasses.Fits.cut hleft).2
  have hbegins : x₂ ++ b :: k <+: x₂ ++ b :: (rest ++ [mark]) := by
    rw [List.prefix_append_right_inj, List.cons_prefix_cons]
    exact ⟨rfl, hk⟩
  have hagree := agree_of_prefix hdrop hfits hbegins hm
  have hlength := congrArg List.length hx
  have hpos := List.length_pos_iff.mpr hne
  simp only [List.length_cons, List.length_append, List.length_nil] at hlength
  rw [hc.spare x₁.length (by omega)] at hagree
  cases hagree

/-- After the replacement no match is left. -/
theorem not_occurs_of_replaced {F : List (List UnitClass)} (hc : c.Lawful)
    (hclosed : c.rule.closed unitClasses F = true)
    (hsteady : c.rule.steady unitClasses F c.factor = true)
    (h : Replaced c.pattern c.out prev s t) (hsame : SamePrev prev (some a)) (hfold : foldText s = s)
    (hs : .spaces ∈ c.body → Collapsed (a :: (s ++ [mark])))
    (hfree : unitClasses.Free F (a :: (s ++ [mark]))) :
    ¬ unitClasses.Occurs c.factor (a :: (t ++ [mark])) := by
  have hruleLeft : c.rule.left ≠ [] := List.cons_ne_nil _ _
  induction h generalizing a with
  | nil prev =>
    have habsent : absentFrom c.pattern prev [] = true := rfl
    exact (c.absentFrom_iff hc.framed hs hfold hsame).mp habsent
  | @copy prev u s t hnone htail ih =>
    have hfold' := (List.cons.inj hfold).2
    have hlater := ih rfl hfold' (fun hmem => (hs hmem).tail)
      fun Q hQ hoccurs => hfree Q hQ (hoccurs.widen (List.suffix_cons _ _).isInfix)
    intro hoccurs
    obtain hstarts | hoccurs := occurs_cons.mp hoccurs
    · have hrun := run_of_replaced [] hc htail (a := u) rfl hfold' fun hmem => (hs hmem).tail
      have hbefore := DeletionRule.Run.startsWith hrun (List.cons_ne_nil a []) hruleLeft hclosed
        hsteady hfree hstarts
      obtain ⟨rest, _, hsome⟩ := c.matchAt_of_factor hc.framed hs hsame hbefore
      rw [hnone] at hsome
      cases hsome
    · exact hlater hoccurs
  | @hit prev q u s rest t hsome htail ih =>
    obtain ⟨hword, rfl, hlook, hahead⟩ := c.factor_of_matchAt hc.framed hs hfold hsame hsome
    rw [hword, List.append_assoc] at hs hfree
    have hstep := step_of_match [] hc hlook hahead
    have hcol := hc.collapsed hstep hs
    have hfree' := hstep.free hclosed hfree
    obtain ⟨x, b, hxb⟩ := exists_last a c.out
    have htext : ∀ y : JsString, a :: (c.out ++ y) = x ++ b :: y := by
      intro y
      rw [← List.cons_append, hxb, List.append_assoc]
      rfl
    have hlast := hc.samePrev hlook
    rw [hxb, List.getLast?_concat] at hlast
    have hrest : foldText rest = rest := by
      rw [hword, foldText, List.map_append] at hfold
      exact (List.append_inj hfold (by simp)).2
    rw [List.nil_append, htext] at hcol hfree'
    rw [List.append_assoc, htext]
    intro hoccurs
    obtain hlater | ⟨x₁, x₂, rfl, hne, hstarts⟩ := occurs_append hoccurs
    · refine ih hlast hrest (fun hmem => (hcol hmem).part (List.suffix_append _ _).isInfix) ?_ hlater
      exact fun Q hQ hoccurs => hfree' Q hQ (hoccurs.widen (List.suffix_append _ _).isInfix)
    · have hpart : x₂ ++ b :: (rest ++ [mark]) <:+: (x₁ ++ x₂) ++ b :: (rest ++ [mark]) := by
        rw [List.append_assoc]
        exact (List.suffix_append _ _).isInfix
      have hrun := run_of_replaced [] hc htail hlast hrest
        fun hmem => (hcol hmem).part (List.suffix_append _ _).isInfix
      have hbefore := DeletionRule.Run.startsWith hrun hne hruleLeft hclosed hsteady
        (fun Q hQ hoccurs => hfree' Q hQ (hoccurs.widen hpart)) hstarts
      exact not_startsWith_out hc hlook hahead hxb hne hbefore

end Contraction

/-! ## Stages -/

def frame (s : JsString) : JsString := mark :: (s ++ [mark])

theorem Collapsed.frame (h : Collapsed s) : Collapsed (frame s) := by
  have hend : Collapsed (s ++ [mark]) := by
    constructor
    · intro u hu hspace
      obtain hu | hu := List.mem_append.mp hu
      · exact h.blank u hu hspace
      · rw [List.mem_singleton.mp hu] at hspace
        cases hspace
    · intro hdouble
      obtain hsuffix | hpart := List.infix_concat_iff.mp hdouble
      · obtain ⟨x, hx⟩ := hsuffix
        have hlast := congrArg List.getLast? hx
        rw [List.getLast?_concat, List.getLast?_append] at hlast
        cases hlast
      · exact h.single hpart
  exact hend.cons fun hspace => by cases hspace

/-- A text with collapsed white space, up to case, in which no factor of the family occurs. -/
structure Stage (F : List (List UnitClass)) (s : JsString) : Prop where
  collapsed : Collapsed (foldText s)
  free : unitClasses.Free F (frame (foldText s))

theorem Framed.Lawful.consumes {c : Framed} (hc : c.Lawful) : c.pattern.Consumes := by
  cases hbody : c.body with
  | nil =>
    refine absurd ?_ hc.nonempty
    rw [hbody]
    rfl
  | cons i body =>
    refine ⟨i, ?_, ?_⟩
    · simp [Framed.pattern, hbody]
    · rintro rfl
      exact hc.noBoundary (hbody ▸ List.mem_cons_self)

theorem Framed.not_occurs_iff_absent {c : Framed} (hc : c.Lawful) (hs : Collapsed (foldText s)) :
    c.pattern.absent s = true ↔ ¬ unitClasses.Occurs c.factor (frame (foldText s)) := by
  have hfold : foldText (foldText s) = foldText s := by simp [foldText, Function.comp_def]
  rw [← absent_fold]
  exact c.absentFrom_iff hc (fun _ => hs.frame) hfold rfl

/-- A stage is entered where the patterns of its factors are absent. -/
theorem stage_of_absent {cs : List Framed} (hcs : ∀ c ∈ cs, c.Lawful) (hs : Collapsed (foldText s))
    (habsent : ∀ c ∈ cs, c.pattern.absent s = true) : Stage (cs.map Framed.factor) s := by
  refine ⟨hs, fun Q hQ => ?_⟩
  obtain ⟨c, hc, rfl⟩ := List.mem_map.mp hQ
  exact (Framed.not_occurs_iff_absent (hcs c hc) hs).mp (habsent c hc)

theorem Stage.absent {F : List (List UnitClass)} {c : Framed} (h : Stage F s) (hc : c.Lawful)
    (hmem : c.factor ∈ F) : c.pattern.absent s = true :=
  (Framed.not_occurs_iff_absent hc h.collapsed).mpr (h.free _ hmem)

namespace Contraction

variable {c : Contraction} {F : List (List UnitClass)}

theorem replaced_fold (hc : c.Lawful) (s : JsString) :
    Replaced c.pattern c.out (some mark) (foldText s) (foldText (c.contract s)) := by
  have hfold := (replaceAll_replaced hc.framed.consumes c.out s).fold
  rw [hc.folded] at hfold
  exact hfold.congr rfl

theorem collapsed_run {r : DeletionRule UnitClass}
    (hclosed : r.closed unitClasses [doubleSpace] = true) (hrun : r.Run unitClasses s t)
    (h : Collapsed s) : Collapsed t := by
  induction hrun with
  | refl => exact h
  | tail _ hstep ih => exact step_collapsed hclosed hstep ih

/-- A contraction with blanks in its pattern leads from stage to stage, and adds its own factor. -/
theorem stage (hc : c.Lawful) (hspaces : .spaces ∈ c.body)
    (hclosed : c.rule.closed unitClasses F = true)
    (hsteady : c.rule.steady unitClasses F c.factor = true) (h : Stage F s) :
    Stage (c.factor :: F) (c.contract s) := by
  have hfold : foldText (foldText s) = foldText s := by simp [foldText, Function.comp_def]
  have hreplaced := replaced_fold hc s
  have hrun := run_of_replaced [] hc hreplaced rfl hfold fun _ => h.collapsed.frame
  have hcollapsed := collapsed_run (hc.closed hspaces) hrun h.collapsed.frame
  refine ⟨hcollapsed.tail.part (List.prefix_append _ [mark]).isInfix, ?_⟩
  intro Q hQ
  obtain rfl | hQ := List.mem_cons.mp hQ
  · exact not_occurs_of_replaced hc hclosed hsteady hreplaced rfl hfold
      (fun _ => h.collapsed.frame) h.free
  · exact DeletionRule.Run.free hrun hclosed h.free Q hQ

/-- A contraction without blanks leaves no match behind, in any text. -/
theorem absent_contract (hc : c.Lawful) (hspaces : .spaces ∉ c.body)
    (hsteady : c.rule.steady unitClasses [] c.factor = true) (s : JsString) :
    c.pattern.absent (c.contract s) = true := by
  have hfold : ∀ s, foldText (foldText s) = foldText s := by simp [foldText, Function.comp_def]
  have hsame : SamePrev none (some mark) := rfl
  rw [← absent_fold]
  refine (c.absentFrom_iff hc.framed (absurd · hspaces) (hfold _) hsame).mpr ?_
  exact not_occurs_of_replaced hc rfl hsteady (replaced_fold hc s) rfl (hfold s)
    (absurd · hspaces) fun Q hQ => absurd hQ List.not_mem_nil

end Contraction

end Pattern

end Lib
