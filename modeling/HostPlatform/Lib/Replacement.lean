-- SUMMARY: What the replacement of every match of a pattern does to a text: its equations, and what it commutes with.
import HostPlatform.Lib.Pattern

/-!
# Replacement

`Replaced` is `replaceAll` without its fuel. Lemmas about replacements are inductions on it,
and equations between them follow, as it is a function.
-/

namespace Lib

namespace Pattern

open JsString

/-! ## Matches -/

/-- A pattern that takes at least one unit. -/
def Consumes (p : Pattern) : Prop := ∃ i ∈ p, i ≠ .boundary

instance (p : Pattern) : Decidable p.Consumes := inferInstanceAs (Decidable (∃ i ∈ p, i ≠ .boundary))

/-- The two last units look the same to `\b`. -/
def SamePrev (prev prev' : Option Nat) : Prop := prev.any isWord = prev'.any isWord

instance (prev prev' : Option Nat) : Decidable (SamePrev prev prev') :=
  inferInstanceAs (Decidable (_ = _))

variable {p : Pattern} {out : JsString} {prev prev' q : Option Nat} {u : Nat} {s t rest : JsString}

theorem matchAt_suffix (h : p.matchAt prev s = some (q, rest)) : rest <:+ s := by
  induction p generalizing prev s with
  | nil =>
    simp only [matchAt, Option.some.injEq, Prod.mk.injEq] at h
    exact h.2 ▸ List.suffix_rfl
  | cons i p ih =>
    cases i with
    | unit v =>
      cases s with
      | nil => cases h
      | cons u s =>
        simp only [matchAt, Option.ite_none_right_eq_some] at h
        exact (ih h.2).trans (List.suffix_cons u s)
    | spaces =>
      cases s with
      | nil => cases h
      | cons u s =>
        simp only [matchAt, Option.ite_none_right_eq_some] at h
        exact (ih h.2).trans ((List.dropWhile_suffix _).trans (List.suffix_cons u s))
    | boundary =>
      simp only [matchAt, Option.ite_none_right_eq_some] at h
      exact ih h.2

theorem length_lt_of_matchAt (hp : p.Consumes) (h : p.matchAt prev s = some (q, rest)) :
    rest.length < s.length := by
  induction p generalizing prev s with
  | nil =>
    obtain ⟨i, hi, _⟩ := hp
    cases hi
  | cons i p ih =>
    cases i with
    | unit v =>
      cases s with
      | nil => cases h
      | cons u s =>
        simp only [matchAt, Option.ite_none_right_eq_some] at h
        exact Nat.lt_succ_of_le (matchAt_suffix h.2).length_le
    | spaces =>
      cases s with
      | nil => cases h
      | cons u s =>
        simp only [matchAt, Option.ite_none_right_eq_some] at h
        exact Nat.lt_succ_of_le ((matchAt_suffix h.2).trans (List.dropWhile_suffix _)).length_le
    | boundary =>
      simp only [matchAt, Option.ite_none_right_eq_some] at h
      obtain ⟨i, hi, hne⟩ := hp
      refine ih ⟨i, ?_, hne⟩ h.2
      exact (List.mem_cons.mp hi).resolve_left hne

theorem matchAt_append (p p' : Pattern) (prev : Option Nat) (s : JsString) :
    (p ++ p').matchAt prev s = (p.matchAt prev s).bind fun m => p'.matchAt m.1 m.2 := by
  induction p generalizing prev s with
  | nil => rfl
  | cons i p ih =>
    cases i with
    | unit v =>
      cases s with
      | nil => rfl
      | cons u s =>
        simp only [List.cons_append, matchAt, ih]
        split <;> rfl
    | spaces =>
      cases s with
      | nil => rfl
      | cons u s =>
        simp only [List.cons_append, matchAt, ih]
        split <;> rfl
    | boundary =>
      simp only [List.cons_append, matchAt, ih]
      split <;> rfl

/-- Only what `\b` sees of the unit before matters. -/
theorem matchAt_congr (hsame : SamePrev prev prev') (h : p.matchAt prev s = some (q, rest)) :
    ∃ q', p.matchAt prev' s = some (q', rest) ∧ SamePrev q q' := by
  induction p generalizing prev prev' s with
  | nil =>
    simp only [matchAt, Option.some.injEq, Prod.mk.injEq] at h
    obtain ⟨rfl, rfl⟩ := h
    exact ⟨prev', rfl, hsame⟩
  | cons i p ih =>
    cases i with
    | unit v =>
      cases s with
      | nil => cases h
      | cons u s =>
        simp only [matchAt, Option.ite_none_right_eq_some] at h ⊢
        obtain ⟨q', hq', hqq'⟩ := ih rfl h.2
        exact ⟨q', ⟨h.1, hq'⟩, hqq'⟩
    | spaces =>
      cases s with
      | nil => cases h
      | cons u s =>
        simp only [matchAt, Option.ite_none_right_eq_some] at h ⊢
        obtain ⟨q', hq', hqq'⟩ := ih rfl h.2
        exact ⟨q', ⟨h.1, hq'⟩, hqq'⟩
    | boundary =>
      simp only [matchAt, Option.ite_none_right_eq_some] at h ⊢
      obtain ⟨q', hq', hqq'⟩ := ih hsame h.2
      refine ⟨q', ⟨?_, hq'⟩, hqq'⟩
      rw [← h.1]
      simp only [atBoundary]
      rw [hsame]

theorem matchAt_eq_none_congr (hsame : SamePrev prev prev') (h : p.matchAt prev s = none) :
    p.matchAt prev' s = none := by
  cases h' : p.matchAt prev' s with
  | none => rfl
  | some m =>
    obtain ⟨q', hq', _⟩ := matchAt_congr (Eq.symm hsame) h'
    rw [h] at hq'
    cases hq'

/-! ## Replacements -/

inductive Replaced (p : Pattern) (out : JsString) : Option Nat → JsString → JsString → Prop
  | nil (prev : Option Nat) : Replaced p out prev [] []
  | copy {prev : Option Nat} {u : Nat} {s t : JsString} (none : p.matchAt prev (u :: s) = none)
      (tail : Replaced p out (some u) s t) : Replaced p out prev (u :: s) (u :: t)
  | hit {prev q : Option Nat} {u : Nat} {s rest t : JsString}
      (some : p.matchAt prev (u :: s) = some (q, rest)) (tail : Replaced p out q rest t) :
      Replaced p out prev (u :: s) (out ++ t)

theorem replaceFrom_replaced (hp : p.Consumes) {n : Nat} (hn : s.length ≤ n) :
    Replaced p out prev s (replaceFrom p out n prev s) := by
  induction n generalizing prev s with
  | zero =>
    rw [List.length_eq_zero_iff.mp (Nat.le_zero.mp hn)]
    exact .nil prev
  | succ n ih =>
    cases s with
    | nil => exact .nil prev
    | cons u s =>
      simp only [replaceFrom]
      split
      next prev' rest hmatch =>
        have hlt := length_lt_of_matchAt hp hmatch
        exact .hit hmatch (ih (by omega))
      next hmatch => exact .copy hmatch (ih (Nat.le_of_succ_le_succ hn))

theorem Replaced.unique (h : Replaced p out prev s t) {t' : JsString} (h' : Replaced p out prev s t') :
    t = t' := by
  induction h generalizing t' with
  | nil prev =>
    cases h'
    rfl
  | copy hnone _ ih =>
    cases h' with
    | copy _ htail => rw [ih htail]
    | hit hsome _ =>
      rw [hnone] at hsome
      cases hsome
  | hit hsome _ ih =>
    cases h' with
    | copy hnone _ =>
      rw [hsome] at hnone
      cases hnone
    | hit hsome' htail =>
      rw [hsome] at hsome'
      cases hsome'
      rw [ih htail]

theorem replaceAll_replaced (hp : p.Consumes) (out s : JsString) :
    Replaced p out none s (p.replaceAll out s) := replaceFrom_replaced hp (Nat.le_refl _)

theorem Replaced.eq (hp : p.Consumes) (h : Replaced p out none s t) : p.replaceAll out s = t :=
  (replaceAll_replaced hp out s).unique h

theorem Replaced.congr (h : Replaced p out prev s t) (hsame : SamePrev prev prev') :
    Replaced p out prev' s t := by
  induction h generalizing prev' with
  | nil prev => exact .nil prev'
  | copy hnone htail _ => exact .copy (matchAt_eq_none_congr hsame hnone) htail
  | hit hsome _ ih =>
    obtain ⟨q', hq', hqq'⟩ := matchAt_congr hsame hsome
    exact .hit hq' (ih hqq')

/-! ## Texts without a match -/

/-- No match begins anywhere in the text. -/
def absentFrom (p : Pattern) : Option Nat → JsString → Bool
  | _, [] => true
  | prev, u :: s => (p.matchAt prev (u :: s)).isNone && absentFrom p (some u) s

def absent (p : Pattern) (s : JsString) : Bool := absentFrom p none s

theorem absentFrom_cons :
    absentFrom p prev (u :: s) = true ↔ p.matchAt prev (u :: s) = none ∧ absentFrom p (some u) s = true := by
  simp only [absentFrom, Bool.and_eq_true, Option.isNone_iff_eq_none]

theorem Replaced.of_absent (h : absentFrom p prev s = true) : Replaced p out prev s s := by
  induction s generalizing prev with
  | nil => exact .nil prev
  | cons u s ih =>
    rw [absentFrom_cons] at h
    exact .copy h.1 (ih h.2)

/-- Nothing to replace, nothing replaced. -/
theorem replaceAll_of_absent (hp : p.Consumes) (out : JsString) (h : p.absent s = true) :
    p.replaceAll out s = s := (Replaced.of_absent h).eq hp

theorem absentFrom_congr (hsame : SamePrev prev prev') (h : absentFrom p prev s = true) :
    absentFrom p prev' s = true := by
  cases s with
  | nil => rfl
  | cons u s =>
    rw [absentFrom_cons] at h ⊢
    exact ⟨matchAt_eq_none_congr hsame h.1, h.2⟩

/-! ## Case -/

@[simp]
theorem foldUnit_foldUnit (u : Nat) : foldUnit (foldUnit u) = foldUnit u := by
  unfold foldUnit
  grind

@[simp]
theorem isWord_foldUnit (u : Nat) : isWord (foldUnit u) = isWord u := by
  unfold foldUnit
  split
  next h =>
    have hleft : isWord (u - 32) = true := by
      simp only [isWord, Bool.or_eq_true, Bool.and_eq_true, decide_eq_true_eq]
      omega
    have hright : isWord u = true := by
      simp only [isWord, Bool.or_eq_true, Bool.and_eq_true, decide_eq_true_eq]
      omega
    rw [hleft, hright]
  next => rfl

@[simp]
theorem isSpace_foldUnit (u : Nat) : isSpace (foldUnit u) = isSpace u := by
  unfold foldUnit
  split
  next h =>
    have hplain : ∀ v, 65 ≤ v → v ≤ 122 → isSpace v = false := by
      intro v hlow hhigh
      simp only [isSpace, Bool.or_eq_false_iff, Bool.and_eq_false_iff, decide_eq_false_iff_not,
        beq_eq_false_iff_ne]
      omega
    rw [hplain _ (by omega) (by omega), hplain _ (by omega) (by omega)]
  next => rfl

/-- The text with the case folded. -/
def foldText (s : JsString) : JsString := s.map foldUnit

theorem dropWhile_foldText (s : JsString) :
    (foldText s).dropWhile isSpace = foldText (s.dropWhile isSpace) := by
  simp only [foldText, List.dropWhile_map, Function.comp_def, isSpace_foldUnit]

theorem atBoundary_fold (prev : Option Nat) (s : JsString) :
    atBoundary (prev.map foldUnit) (foldText s) = atBoundary prev s := by
  cases s <;> cases prev <;> simp [atBoundary, foldText]

/-- Matches do not see the case. -/
theorem matchAt_fold (p : Pattern) (prev : Option Nat) (s : JsString) :
    p.matchAt (prev.map foldUnit) (foldText s)
      = (p.matchAt prev s).map fun m => (m.1.map foldUnit, foldText m.2) := by
  induction p generalizing prev s with
  | nil => rfl
  | cons i p ih =>
    cases i with
    | unit v =>
      cases s with
      | nil => rfl
      | cons u s =>
        have htail := ih (some u) s
        simp only [Option.map_some, foldText] at htail
        simp only [foldText, List.map_cons, matchAt, foldUnit_foldUnit, htail]
        split <;> rfl
    | spaces =>
      cases s with
      | nil => rfl
      | cons u s =>
        have htail := ih (some u) (s.dropWhile isSpace)
        simp only [Option.map_some, ← dropWhile_foldText] at htail
        simp only [foldText, List.map_cons, matchAt, isSpace_foldUnit] at htail ⊢
        rw [htail]
        split <;> rfl
    | boundary =>
      simp only [matchAt, atBoundary_fold, ih]
      split <;> rfl

theorem Replaced.fold (h : Replaced p out prev s t) :
    Replaced p (foldText out) (prev.map foldUnit) (foldText s) (foldText t) := by
  induction h with
  | nil prev => exact .nil _
  | @copy prev u s t hnone _ ih =>
    refine .copy ?_ ih
    have hfold := matchAt_fold p prev (u :: s)
    rw [hnone] at hfold
    exact hfold
  | @hit prev q u s rest t hsome _ ih =>
    have hfold := matchAt_fold p prev (u :: s)
    rw [hsome] at hfold
    have hhit : Replaced p (foldText out) _ _ _ := .hit hfold ih
    simpa only [foldText, List.map_append, List.map_cons] using hhit

theorem absentFrom_fold (p : Pattern) (prev : Option Nat) (s : JsString) :
    absentFrom p (prev.map foldUnit) (foldText s) = absentFrom p prev s := by
  induction s generalizing prev with
  | nil => rfl
  | cons u s ih =>
    have hmatch := matchAt_fold p prev (u :: s)
    have htail := ih (some u)
    simp only [foldText, List.map_cons, Option.map_some] at hmatch htail
    simp only [foldText, List.map_cons, absentFrom, hmatch, htail, Option.isNone_map]

theorem absent_fold (p : Pattern) (s : JsString) : p.absent (foldText s) = p.absent s :=
  absentFrom_fold p none s

/-! ## Delimiters -/

/-- The item is a literal unit of this kind. -/
def unitSuch (f : Nat → Bool) : PatternItem → Bool
  | .unit v => f (foldUnit v)
  | _ => false

/-- A unit no match of the pattern contains, and that is like the end of a text to it. -/
structure Delimiter (p : Pattern) (d : Nat) : Prop where
  notWord : isWord d = false
  notSpace : isSpace d = false
  notUnit : p.any (unitSuch fun v => v == foldUnit d) = false

variable {d : Nat}

theorem Delimiter.tail {i : PatternItem} (hd : Delimiter (i :: p) d) : Delimiter p d :=
  ⟨hd.notWord, hd.notSpace, (Bool.or_eq_false_iff.mp hd.notUnit).2⟩

theorem Delimiter.ne {v : Nat} (hd : Delimiter (.unit v :: p) d) : foldUnit d ≠ foldUnit v := by
  have h : (foldUnit v == foldUnit d) = false := (Bool.or_eq_false_iff.mp hd.notUnit).1
  exact fun heq => (beq_eq_false_iff_ne.mp h) heq.symm

theorem matchAt_delimited (hd : Delimiter p d) (prev : Option Nat) (a b : JsString) :
    p.matchAt prev (a ++ d :: b) = (p.matchAt prev a).map fun m => (m.1, m.2 ++ d :: b) := by
  induction p generalizing prev a with
  | nil => rfl
  | cons i p ih =>
    cases i with
    | unit v =>
      cases a with
      | nil => simp only [List.nil_append, matchAt, if_neg hd.ne,
          Option.map_none]
      | cons u a =>
        simp only [List.cons_append, matchAt, ih hd.tail]
        split <;> rfl
    | spaces =>
      cases a with
      | nil => simp only [List.nil_append, matchAt, hd.notSpace, Bool.false_eq_true, if_false,
          Option.map_none]
      | cons u a =>
        have hdrop : (a ++ d :: b).dropWhile isSpace = a.dropWhile isSpace ++ d :: b := by
          rw [List.dropWhile_append]
          split
          next hempty =>
            rw [List.dropWhile_cons_of_neg (by simp [hd.notSpace]), List.isEmpty_iff.mp hempty]
            rfl
          next => rfl
        simp only [List.cons_append, matchAt, hdrop, ih hd.tail]
        split <;> rfl
    | boundary =>
      have hboundary : atBoundary prev (a ++ d :: b) = atBoundary prev a := by
        cases a <;> simp [atBoundary, hd.notWord]
      simp only [matchAt, hboundary, ih hd.tail]
      split <;> rfl

/-- The texts on the two sides of a delimiter are replaced apart. -/
theorem Replaced.delimited (hp : p.Consumes) (hd : Delimiter p d) {a b t' : JsString}
    (ha : Replaced p out prev a t) (hb : Replaced p out none b t') :
    Replaced p out prev (a ++ d :: b) (t ++ d :: t') := by
  induction ha with
  | nil prev =>
    have hnone : p.matchAt prev [] = none := by
      cases h : p.matchAt prev [] with
      | none => rfl
      | some m => exact absurd (length_lt_of_matchAt hp h) (Nat.not_lt_zero _)
    refine .copy ?_ (hb.congr ?_)
    · have hcut := matchAt_delimited hd prev [] b
      rw [hnone] at hcut
      exact hcut
    · simp only [SamePrev, Option.any_none, Option.any_some, hd.notWord]
  | @copy prev u s t hnone _ ih =>
    refine .copy ?_ ih
    have hcut := matchAt_delimited hd prev (u :: s) b
    rw [hnone] at hcut
    exact hcut
  | @hit prev q u s rest t hsome _ ih =>
    have hcut := matchAt_delimited hd prev (u :: s) b
    rw [hsome] at hcut
    rw [List.append_assoc]
    exact .hit hcut ih

theorem replaceAll_delimited (hp : p.Consumes) (hd : Delimiter p d) (out a b : JsString) :
    p.replaceAll out (a ++ d :: b) = p.replaceAll out a ++ d :: p.replaceAll out b :=
  ((replaceAll_replaced hp out a).delimited hp hd (replaceAll_replaced hp out b)).eq hp

/-! ## What is kept of a text -/

/-- The units a match takes: one blank for white space, and letters with their case folded. -/
def word (p : Pattern) : JsString :=
  p.flatMap fun
    | .unit v => [foldUnit v]
    | .spaces => [space]
    | .boundary => []

/-- Units that are no letters and no white space. -/
structure Plain (f : Nat → Bool) : Prop where
  fixed : ∀ u, f u = true → foldUnit u = u
  folded : ∀ u, f (foldUnit u) = f u
  notSpace : ∀ u, isSpace u = true → f u = false

variable {f : Nat → Bool}

/-- Units before the letters. -/
theorem Plain.of_lt (h : ∀ u, f u = true → u < 65 ∧ isSpace u = false) : Plain f where
  fixed u hu := by
    have hlt := (h u hu).1
    exact if_neg (by omega)
  folded u := by
    unfold foldUnit
    split
    next hletter =>
      have hnot : ∀ v, 65 ≤ v → f v = false := by
        intro v hv
        cases hf : f v with
        | false => rfl
        | true => exact absurd (h v hf).1 (Nat.not_lt_of_le hv)
      rw [hnot _ (by omega), hnot _ (by omega)]
    next => rfl
  notSpace u hspace := by
    cases hf : f u with
    | false => rfl
    | true =>
      rw [(h u hf).2] at hspace
      cases hspace

theorem Plain.dropWhile (hf : Plain f) (s : JsString) : (s.dropWhile isSpace).filter f = s.filter f := by
  induction s with
  | nil => rfl
  | cons u s ih =>
    by_cases hu : isSpace u = true
    · rw [List.dropWhile_cons_of_pos hu, ih, List.filter_cons_of_neg (by simp [hf.notSpace u hu])]
    · rw [List.dropWhile_cons_of_neg hu]

theorem filter_of_matchAt (hf : Plain f) (h : p.matchAt prev s = some (q, rest)) :
    s.filter f = p.word.filter f ++ rest.filter f := by
  induction p generalizing prev s with
  | nil =>
    simp only [matchAt, Option.some.injEq, Prod.mk.injEq] at h
    rw [h.2]
    rfl
  | cons i p ih =>
    cases i with
    | unit v =>
      cases s with
      | nil => cases h
      | cons u s =>
        simp only [matchAt, Option.ite_none_right_eq_some] at h
        have hsame : [u].filter f = [foldUnit v].filter f := by
          rw [← h.1]
          cases hu : f u with
          | true => rw [hf.fixed u hu]
          | false => simp [hu, hf.folded]
        calc (u :: s).filter f = [u].filter f ++ s.filter f := by rw [← List.filter_append]; rfl
          _ = [foldUnit v].filter f ++ (word p).filter f ++ rest.filter f := by
            rw [hsame, ih h.2, List.append_assoc]
          _ = (word (.unit v :: p)).filter f ++ rest.filter f := by
            rw [← List.filter_append]
            rfl
    | spaces =>
      cases s with
      | nil => cases h
      | cons u s =>
        simp only [matchAt, Option.ite_none_right_eq_some] at h
        rw [List.filter_cons_of_neg (by simp [hf.notSpace u h.1]), ← hf.dropWhile, ih h.2]
        have hspace : f space = false := hf.notSpace space rfl
        simp [word, hspace]
    | boundary =>
      simp only [matchAt, Option.ite_none_right_eq_some] at h
      exact ih h.2

/-- A replacement keeps the units its pattern and its output have alike. -/
theorem Replaced.filter (hf : Plain f) (hout : p.word.filter f = out.filter f)
    (h : Replaced p out prev s t) : t.filter f = s.filter f := by
  induction h with
  | nil prev => rfl
  | copy _ _ ih => simp only [List.filter_cons, ih]
  | hit hsome _ ih => rw [List.filter_append, ih, ← hout, ← filter_of_matchAt hf hsome]

/-! ## White space collapsed -/

/-- White space is single blanks. -/
structure Collapsed (s : JsString) : Prop where
  blank : ∀ u ∈ s, isSpace u = true → u = space
  single : ¬ [space, space] <:+: s

theorem dropWhile_ne_self (hu : isSpace u = true) : (u :: s).dropWhile isSpace ≠ u :: s := by
  intro h
  rw [List.dropWhile_cons_of_pos hu] at h
  have hlength := (List.dropWhile_suffix (l := s) isSpace).length_le
  rw [h, List.length_cons] at hlength
  omega

theorem Collapsed.part (h : Collapsed t) (hst : s <:+: t) : Collapsed s :=
  ⟨fun u hu => h.blank u (hst.subset hu), fun hdouble => h.single (hdouble.trans hst)⟩

theorem Collapsed.tail (h : Collapsed (u :: s)) : Collapsed s := h.part (List.suffix_cons u s).isInfix

/-- No white space follows white space. -/
theorem Collapsed.dropWhile (h : Collapsed (u :: s)) (hu : isSpace u = true) :
    s.dropWhile isSpace = s := by
  cases s with
  | nil => rfl
  | cons v s =>
    refine List.dropWhile_cons_of_neg fun hv => h.single ?_
    rw [h.blank u List.mem_cons_self hu,
      h.blank v (List.mem_cons_of_mem u List.mem_cons_self) hv]
    exact (List.prefix_append [space, space] s).isInfix

theorem Collapsed.cons (h : Collapsed s) (hu : isSpace u = true → u = space ∧ s.dropWhile isSpace = s) :
    Collapsed (u :: s) := by
  constructor
  · intro v hv hspace
    obtain rfl | hv := List.mem_cons.mp hv
    · exact (hu hspace).1
    · exact h.blank v hv hspace
  · intro hdouble
    obtain hstart | hlater := List.infix_cons_iff.mp hdouble
    · rw [List.cons_prefix_cons] at hstart
      obtain ⟨rfl, rest, rfl⟩ := hstart
      have hdrop := (hu rfl).2
      exact dropWhile_ne_self rfl hdrop
    · exact h.single hlater

theorem spaces_matchAt_nonspace (hu : isSpace u = false) :
    matchAt [.spaces] prev (u :: s) = none := by simp [matchAt, hu]

theorem spaces_matchAt_space (hu : isSpace u = true) :
    matchAt [.spaces] prev (u :: s) = some (some u, s.dropWhile isSpace) := by simp [matchAt, hu]

/-- One by one: a unit that is no white space, or a run of it. -/
theorem Replaced.spaces_cases (h : Replaced [.spaces] [space] prev s t) :
    (s = [] ∧ t = []) ∨
    (∃ u s' t', s = u :: s' ∧ t = u :: t' ∧ isSpace u = false ∧
      Replaced [.spaces] [space] (some u) s' t') ∨
    ∃ u s' t', s = u :: s' ∧ t = space :: t' ∧ isSpace u = true ∧
      Replaced [.spaces] [space] (some u) (s'.dropWhile isSpace) t' := by
  cases h with
  | nil prev => exact .inl ⟨rfl, rfl⟩
  | @copy prev u s t hnone htail =>
    refine .inr (.inl ⟨u, s, t, rfl, rfl, ?_, htail⟩)
    cases hu : isSpace u with
    | false => rfl
    | true =>
      rw [spaces_matchAt_space hu] at hnone
      cases hnone
  | @hit prev q u s rest t hsome htail =>
    cases hu : isSpace u with
    | false =>
      rw [spaces_matchAt_nonspace hu] at hsome
      cases hsome
    | true =>
      rw [spaces_matchAt_space hu] at hsome
      cases hsome
      exact .inr (.inr ⟨u, s, t, rfl, rfl, hu, htail⟩)

/-- A text starts with white space where its collapsed form does. -/
theorem Replaced.spaces_dropWhile (h : Replaced [.spaces] [space] prev s t)
    (hs : s.dropWhile isSpace = s) : t.dropWhile isSpace = t := by
  obtain ⟨rfl, rfl⟩ | ⟨u, s', t', rfl, rfl, hu, _⟩ | ⟨u, s', t', rfl, rfl, hu, _⟩ := h.spaces_cases
  · rfl
  · exact List.dropWhile_cons_of_neg (by simp [hu])
  · exact absurd hs (dropWhile_ne_self hu)

theorem dropWhile_dropWhile (s : JsString) :
    (s.dropWhile isSpace).dropWhile isSpace = s.dropWhile isSpace := by
  induction s with
  | nil => rfl
  | cons u s ih =>
    by_cases hu : isSpace u = true
    · rw [List.dropWhile_cons_of_pos hu, ih]
    · rw [List.dropWhile_cons_of_neg hu, List.dropWhile_cons_of_neg hu]

theorem Replaced.collapsed (h : Replaced [.spaces] [space] prev s t) : Collapsed t := by
  induction h with
  | nil prev => exact ⟨by simp, by simp⟩
  | @copy prev u s t hnone _ ih =>
    refine ih.cons fun hu => ?_
    rw [spaces_matchAt_space hu] at hnone
    cases hnone
  | @hit prev q u s rest t hsome htail ih =>
    refine ih.cons fun _ => ⟨rfl, ?_⟩
    have hu : isSpace u = true := by
      cases hu : isSpace u with
      | true => rfl
      | false =>
        rw [spaces_matchAt_nonspace hu] at hsome
        cases hsome
    rw [spaces_matchAt_space hu] at hsome
    cases hsome
    exact htail.spaces_dropWhile (dropWhile_dropWhile s)

theorem isWord_of_isSpace (hu : isSpace u = true) : isWord u = false := by
  simp only [isSpace, Bool.or_eq_true, Bool.and_eq_true, decide_eq_true_eq, beq_iff_eq] at hu
  simp only [isWord, isDigit, Bool.or_eq_false_iff, Bool.and_eq_false_iff, decide_eq_false_iff_not,
    beq_eq_false_iff_ne]
  omega

/-- A pattern whose literal units are no white space. -/
def Tame (p : Pattern) : Prop := p.any (unitSuch isSpace) = false

instance (p : Pattern) : Decidable p.Tame := inferInstanceAs (Decidable (_ = _))

/-- Collapsing white space creates no match of a tame pattern. -/
theorem matchAt_of_spaces (hp : p.Tame) (h : Replaced [.spaces] [space] q s t)
    (hsame : SamePrev prev prev') (hsome : (p.matchAt prev t).isSome) : (p.matchAt prev' s).isSome := by
  induction p generalizing prev prev' q s t with
  | nil => rfl
  | cons i p ih =>
    obtain ⟨hi, htame⟩ := Bool.or_eq_false_iff.mp hp
    cases i with
    | unit v =>
      obtain ⟨rfl, rfl⟩ | ⟨u, s', t', rfl, rfl, _, htail⟩ | ⟨u, s', t', rfl, rfl, _, _⟩ := h.spaces_cases
      · exact absurd hsome (by simp [matchAt])
      · simp only [matchAt] at hsome ⊢
        split at hsome
        next hv =>
          rw [if_pos hv]
          exact ih htame htail rfl hsome
        next => cases hsome
      · have hv : isSpace (foldUnit v) = false := hi
        simp only [matchAt] at hsome
        split at hsome
        next heq =>
          rw [← heq] at hv
          cases hv
        next => cases hsome
    | spaces =>
      obtain ⟨rfl, rfl⟩ | ⟨u, s', t', rfl, rfl, hu, _⟩ | ⟨u, s', t', rfl, rfl, hu, htail⟩ := h.spaces_cases
      · exact absurd hsome (by simp [matchAt])
      · simp [matchAt, hu] at hsome
      · have hspace : isSpace space = true := rfl
        have hdrop := htail.spaces_dropWhile (dropWhile_dropWhile s')
        simp only [matchAt, hspace, hu, if_true, hdrop] at hsome ⊢
        have hnotWord : SamePrev (some space) (some u) := by
          have hword : isWord u = false := isWord_of_isSpace hu
          simp only [SamePrev, Option.any_some, hword]
          rfl
        exact ih htame htail hnotWord hsome
    | boundary =>
      have hboundary : atBoundary prev t = atBoundary prev' s := by
        have hhead : t.head?.any isWord = s.head?.any isWord := by
          obtain ⟨rfl, rfl⟩ | ⟨u, s', t', rfl, rfl, _, _⟩ | ⟨u, s', t', rfl, rfl, hu, _⟩ := h.spaces_cases
          · rfl
          · rfl
          · simp only [List.head?_cons, Option.any_some, isWord_of_isSpace hu]
            rfl
        simp only [atBoundary, hhead]
        rw [hsame]
      simp only [matchAt, hboundary] at hsome ⊢
      split at hsome
      next hb =>
        rw [if_pos hb]
        exact ih htame h hsame hsome
      next => cases hsome

theorem absentFrom_dropWhile (hprev : prev.any isWord = false) (h : absentFrom p prev s = true) :
    absentFrom p prev (s.dropWhile isSpace) = true := by
  induction s generalizing prev with
  | nil => rfl
  | cons u s ih =>
    by_cases hu : isSpace u = true
    · rw [List.dropWhile_cons_of_pos hu]
      have hword : (some u).any isWord = false := isWord_of_isSpace hu
      exact absentFrom_congr (hword.trans hprev.symm) (ih hword (absentFrom_cons.mp h).2)
    · rw [List.dropWhile_cons_of_neg hu]
      exact h

/-- A tame pattern that is absent stays so when white space is collapsed. -/
theorem Replaced.absent_of_spaces (hp : p.Tame) (h : Replaced [.spaces] [space] prev s t)
    (habsent : absentFrom p prev s = true) : absentFrom p prev t = true := by
  induction h with
  | nil prev => rfl
  | @copy prev u s t hnone htail ih =>
    rw [absentFrom_cons] at habsent ⊢
    refine ⟨Option.not_isSome_iff_eq_none.mp fun hsome => ?_, ih habsent.2⟩
    have hbefore := matchAt_of_spaces hp (.copy hnone htail) rfl hsome
    rw [habsent.1] at hbefore
    cases hbefore
  | @hit prev q u s rest t hmatch htail ih =>
    have hu : isSpace u = true := by
      cases hu : isSpace u with
      | true => rfl
      | false =>
        rw [spaces_matchAt_nonspace hu] at hmatch
        cases hmatch
    rw [absentFrom_cons] at habsent
    rw [List.singleton_append, absentFrom_cons]
    constructor
    · refine Option.not_isSome_iff_eq_none.mp fun hsome => ?_
      have hbefore := matchAt_of_spaces hp (.hit hmatch htail) rfl hsome
      rw [habsent.1] at hbefore
      cases hbefore
    · rw [spaces_matchAt_space hu] at hmatch
      cases hmatch
      have hword : (some u).any isWord = false := isWord_of_isSpace hu
      have hrest := ih (absentFrom_dropWhile hword habsent.2)
      exact absentFrom_congr (by simp only [SamePrev, hword]; rfl) hrest

/-- Collapsed text is left as it is. -/
theorem Collapsed.replaced (h : Collapsed s) (prev : Option Nat) : Replaced [.spaces] [space] prev s s := by
  induction s generalizing prev with
  | nil => exact .nil prev
  | cons u s ih =>
    by_cases hu : isSpace u = true
    · have hrest : Replaced [.spaces] [space] (some u) (s.dropWhile isSpace) s := by
        rw [h.dropWhile hu]
        exact ih h.tail (some u)
      obtain rfl := h.blank u List.mem_cons_self hu
      exact .hit (spaces_matchAt_space hu) hrest
    · exact .copy (spaces_matchAt_nonspace (by simpa using hu)) (ih h.tail (some u))

theorem isSpace_ne_fold (hu : isSpace u = true) : foldUnit u = u := by
  unfold foldUnit
  split
  next h =>
    simp only [isSpace, Bool.or_eq_true, Bool.and_eq_true, decide_eq_true_eq, beq_iff_eq] at hu
    omega
  next => rfl

theorem collapsed_of_fold (h : Collapsed (foldText s)) : Collapsed s := by
  constructor
  · intro u hu hspace
    have hmem : foldUnit u ∈ foldText s := List.mem_map_of_mem hu
    rw [isSpace_ne_fold hspace] at hmem
    exact h.blank u hmem hspace
  · rintro ⟨x, y, hxy⟩
    refine h.single ⟨foldText x, foldText y, ?_⟩
    rw [← hxy]
    simp only [foldText, List.map_append]
    rfl

/-! ## Trimming -/

theorem absentFrom_append_left {x : JsString} (h : absentFrom p prev (x ++ s) = true) :
    absentFrom p (x.getLast?.or prev) s = true := by
  induction x generalizing prev with
  | nil => exact h
  | cons u x ih =>
    have hrest := ih (absentFrom_cons.mp h).2
    cases hlast : x.getLast? <;> simpa [List.getLast?_cons, hlast] using hrest

/-- White space behind a text takes no match away. -/
theorem matchAt_append_spaces {x : JsString} (hx : ∀ u ∈ x, isSpace u = true)
    (hsome : (p.matchAt prev s).isSome) : (p.matchAt prev (s ++ x)).isSome := by
  induction p generalizing prev s with
  | nil => rfl
  | cons i p ih =>
    cases i with
    | unit v =>
      cases s with
      | nil => cases hsome
      | cons u s =>
        simp only [List.cons_append, matchAt] at hsome ⊢
        split at hsome
        next hv =>
          rw [if_pos hv]
          exact ih hsome
        next => cases hsome
    | spaces =>
      cases s with
      | nil => cases hsome
      | cons u s =>
        simp only [List.cons_append, matchAt] at hsome ⊢
        split at hsome
        next hu =>
          rw [if_pos hu, List.dropWhile_append]
          split
          next hempty =>
            rw [List.isEmpty_iff.mp hempty] at hsome
            rw [List.dropWhile_eq_nil_iff.mpr hx]
            exact hsome
          next => exact ih hsome
        next => cases hsome
    | boundary =>
      have hboundary : atBoundary prev (s ++ x) = atBoundary prev s := by
        cases s with
        | cons u s => rfl
        | nil =>
          cases x with
          | nil => rfl
          | cons v x => simp [atBoundary, isWord_of_isSpace (hx v List.mem_cons_self)]
      simp only [matchAt, hboundary] at hsome ⊢
      split at hsome
      next hb =>
        rw [if_pos hb]
        exact ih hsome
      next => cases hsome

theorem absentFrom_of_append_spaces {x : JsString} (hx : ∀ u ∈ x, isSpace u = true)
    (h : absentFrom p prev (s ++ x) = true) : absentFrom p prev s = true := by
  induction s generalizing prev with
  | nil => rfl
  | cons u s ih =>
    rw [List.cons_append, absentFrom_cons] at h
    rw [absentFrom_cons]
    refine ⟨Option.not_isSome_iff_eq_none.mp fun hsome => ?_, ih h.2⟩
    have hlonger := matchAt_append_spaces hx hsome
    rw [List.cons_append, h.1] at hlonger
    cases hlonger

theorem absent_trim (h : p.absent s = true) : p.absent (trim s) = true := by
  obtain ⟨x, y, hs, hx, hy⟩ := trim_parts s
  rw [hs, List.append_assoc] at h
  have hrest : absentFrom p none (trim s ++ y) = true := by
    refine absentFrom_congr ?_ (absentFrom_append_left h)
    cases hlast : x.getLast? with
    | none => rfl
    | some u =>
      have hword : isWord u = false := isWord_of_isSpace (hx u (List.mem_of_getLast? hlast))
      simp [SamePrev, hword]
  exact absentFrom_of_append_spaces hy hrest

end Pattern

namespace JsString

theorem trim_trim (s : JsString) : trim (trim s) = trim s := by
  have hend : trimEnd (trim s) = trim s := List.rdropWhile_idempotent isSpace (trimStart s)
  have hstart : trimStart (trim s) = trim s := by
    cases htrim : trim s with
    | nil => rfl
    | cons u t =>
      refine trimStart_of_head ?_
      have hbegins : trim s <+: trimStart s := List.rdropWhile_prefix isSpace _
      rw [htrim] at hbegins
      obtain ⟨rest, hrest⟩ := hbegins
      cases hu : isSpace u with
      | false => rfl
      | true =>
        have hidem : (trimStart s).dropWhile isSpace = trimStart s := Pattern.dropWhile_dropWhile s
        rw [← hrest] at hidem
        exact absurd hidem (Pattern.dropWhile_ne_self hu)
  rw [trim, hstart, hend]

end JsString

end Lib
