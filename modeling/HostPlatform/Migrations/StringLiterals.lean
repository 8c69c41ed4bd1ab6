-- SUMMARY: The string literals and the parentheses of a definition, and what the rewritings of `normalizeDefinition` do to them.
import HostPlatform.Migrations.NormalForm

/-!
# String literals and parentheses

A definition is cut at its quotes: the pieces are outside and inside of literals in turn. A
quote is no part of any match, so that every rewriting goes piece by piece.
-/

namespace HostPlatform

open Lib (JsString Pattern js)
open Lib.Pattern (lit Framed Contraction Stage Delimiter Plain)
open Lib.JsString (trim isSpace)

/-! ## Pieces -/

def quote : Nat := 39

def pieces (def_ : JsString) : List JsString := def_.splitOn quote

theorem pieces_piece {a : JsString} (h : quote ∉ a) : pieces a = [a] := List.splitOn_eq_singleton h

theorem pieces_cut {a : JsString} (h : quote ∉ a) (b : JsString) :
    pieces (a ++ quote :: b) = a :: pieces b := List.splitOn_append_cons_self_of_not_mem h b

/-- Induction over the pieces. -/
theorem quote_induction {P : JsString → Prop} (piece : ∀ a, quote ∉ a → P a)
    (cut : ∀ a b, quote ∉ a → P b → P (a ++ quote :: b)) (s : JsString) : P s := by
  induction hn : s.length using Nat.strong_induction_on generalizing s with
  | _ n ih =>
    by_cases hmem : quote ∈ s
    · obtain ⟨a, b, rfl, hnot⟩ := List.eq_append_cons_of_mem hmem
      simp only [List.length_append, List.length_cons] at hn
      exact cut a b hnot (ih _ (by omega) b rfl)
    · exact piece s hmem

theorem pieces_append_left {x : JsString} (hx : quote ∉ x) (s : JsString) :
    ∃ p ps, pieces s = p :: ps ∧ pieces (x ++ s) = (x ++ p) :: ps := by
  have hnot : ∀ {a}, quote ∉ a → quote ∉ x ++ a := fun ha => by simp [hx, ha]
  induction s using quote_induction with
  | piece a ha => exact ⟨a, [], pieces_piece ha, pieces_piece (hnot ha)⟩
  | cut a b ha _ =>
    refine ⟨a, pieces b, pieces_cut ha b, ?_⟩
    rw [← List.append_assoc]
    exact pieces_cut (hnot ha) b

theorem pieces_append_right {y : JsString} (hy : quote ∉ y) (s : JsString) :
    ∃ ps p, pieces s = ps ++ [p] ∧ pieces (s ++ y) = ps ++ [p ++ y] := by
  induction s using quote_induction with
  | piece a ha => exact ⟨[], a, pieces_piece ha, pieces_piece (by simp [ha, hy])⟩
  | cut a b ha ih =>
    obtain ⟨ps, p, hb, hby⟩ := ih
    refine ⟨a :: ps, p, ?_, ?_⟩
    · rw [pieces_cut ha, hb, List.cons_append]
    · rw [List.append_assoc, List.cons_append, pieces_cut ha, hby, List.cons_append]

/-! ## String literals -/

/-- A literal that goes on behind a doubled quote, if it is closed. -/
def joinQuoted (l : JsString) : List JsString → List JsString
  | [] => []
  | m :: ms => (l ++ quote :: m) :: ms

/-- The literals of pieces that begin inside one. A doubled quote is a quote of the text, and a
literal that is not closed is none. -/
def quoted : List JsString → List JsString
  | l :: o :: rest => if o = [] ∧ rest ≠ [] then joinQuoted l (quoted rest) else l :: quoted rest
  | _ => []

def stringLiterals (def_ : JsString) : List JsString := quoted (pieces def_).tail

/-- What stands in the last piece is in no closed literal. -/
theorem quoted_concat (ps : List JsString) (p p' : JsString) : quoted (ps ++ [p]) = quoted (ps ++ [p']) := by
  match ps with
  | [] => rfl
  | [l] => simp [quoted]
  | l :: o :: ps =>
    simp only [List.cons_append, quoted, quoted_concat ps p p', ne_eq, List.append_eq_nil_iff,
      List.cons_ne_self, and_false, not_false_eq_true]

/-- What stands in the first piece is outside. -/
theorem stringLiterals_append_left {x : JsString} (hx : quote ∉ x) (s : JsString) :
    stringLiterals (x ++ s) = stringLiterals s := by
  obtain ⟨p, ps, hs, hxs⟩ := pieces_append_left hx s
  rw [stringLiterals, stringLiterals, hs, hxs, List.tail_cons, List.tail_cons]

theorem stringLiterals_append_right {y : JsString} (hy : quote ∉ y) (s : JsString) :
    stringLiterals (s ++ y) = stringLiterals s := by
  obtain ⟨ps, p, hs, hsy⟩ := pieces_append_right hy s
  rw [stringLiterals, stringLiterals, hs, hsy]
  cases ps with
  | nil => rfl
  | cons o ps => exact quoted_concat ps (p ++ y) p

theorem quote_not_mem_of_spaces {x : JsString} (hx : ∀ u ∈ x, isSpace u = true) : quote ∉ x := by
  intro hmem
  have hspace := hx quote hmem
  cases hspace

theorem stringLiterals_trim (s : JsString) : stringLiterals (trim s) = stringLiterals s := by
  obtain ⟨x, y, hs, hx, hy⟩ := Lib.JsString.trim_parts s
  conv => rhs; rw [hs]
  rw [stringLiterals_append_right (quote_not_mem_of_spaces hy),
    stringLiterals_append_left (quote_not_mem_of_spaces hx)]

/-! ## Parentheses -/

def isParen (u : Nat) : Bool := u == 40 || u == 41

/-- The parentheses of pieces that begin outside of literals. -/
def parensOf : List JsString → JsString
  | o :: _ :: rest => o.filter isParen ++ parensOf rest
  | [o] => o.filter isParen
  | [] => []

/-- The parentheses outside of literals, in their order. -/
def parentheses (def_ : JsString) : JsString := parensOf (pieces def_)

theorem filter_isParen_spaces {x : JsString} (hx : ∀ u ∈ x, isSpace u = true) : x.filter isParen = [] := by
  rw [List.filter_eq_nil_iff]
  intro u hu hparen
  have hspace := hx u hu
  simp only [isParen, Bool.or_eq_true, beq_iff_eq] at hparen
  obtain rfl | rfl := hparen <;> cases hspace

theorem parensOf_concat {y : JsString} (hy : y.filter isParen = []) (ps : List JsString) (p : JsString) :
    parensOf (ps ++ [p ++ y]) = parensOf (ps ++ [p]) := by
  match ps with
  | [] => simp [parensOf, hy]
  | [o] => rfl
  | o :: l :: ps => simp only [List.cons_append, parensOf, parensOf_concat hy ps p]

theorem parensOf_cons {x : JsString} (hx : x.filter isParen = []) (p : JsString) (ps : List JsString) :
    parensOf ((x ++ p) :: ps) = parensOf (p :: ps) := by
  cases ps <;> simp [parensOf, hx]

theorem parentheses_trim (s : JsString) : parentheses (trim s) = parentheses s := by
  obtain ⟨x, y, hs, hx, hy⟩ := Lib.JsString.trim_parts s
  obtain ⟨p, ps, htrim, hleft⟩ := pieces_append_left (quote_not_mem_of_spaces hx) (trim s)
  obtain ⟨ps', p', hpieces, hright⟩ := pieces_append_right (quote_not_mem_of_spaces hy) (x ++ trim s)
  conv => rhs; rw [hs]
  rw [parentheses, parentheses, hright, parensOf_concat (filter_isParen_spaces hy), ← hpieces, hleft,
    parensOf_cons (filter_isParen_spaces hx), htrim]

/-! ## The rewritings piece by piece -/

theorem contract_cut {c : Contraction} (hc : c.Lawful) (hd : Delimiter c.pattern quote) (a b : JsString) :
    c.contract (a ++ quote :: b) = c.contract a ++ quote :: c.contract b :=
  Pattern.replaceAll_delimited hc.framed.consumes hd c.out a b

theorem rewritten_cut (a b : JsString) :
    rewritten (a ++ quote :: b) = rewritten a ++ quote :: rewritten b := by
  have hspaces : ∀ a b, spacePattern.replaceAll (js " ") (a ++ quote :: b)
      = spacePattern.replaceAll (js " ") a ++ quote :: spacePattern.replaceAll (js " ") b :=
    Pattern.replaceAll_delimited spaces_consumes ⟨by decide, by decide, by decide⟩ (js " ")
  simp only [rewritten, respaced, unqualified, hspaces,
    contract_cut publicQualifier_lawful ⟨by decide, by decide, by decide⟩,
    contract_cut rowBlank_lawful ⟨by decide, by decide, by decide⟩,
    contract_cut distinctBlank_lawful ⟨by decide, by decide, by decide⟩,
    contract_cut thenBlank_lawful ⟨by decide, by decide, by decide⟩,
    contract_cut andWrapper_lawful ⟨by decide, by decide, by decide⟩,
    contract_cut thenWrapper_lawful ⟨by decide, by decide, by decide⟩]

theorem contract_filter {c : Contraction} (hc : c.Lawful) {f : Nat → Bool} (hf : Plain f)
    (hout : c.pattern.word.filter f = c.out.filter f) (s : JsString) :
    (c.contract s).filter f = s.filter f :=
  (Pattern.replaceAll_replaced hc.framed.consumes c.out s).filter hf hout

theorem plain_isParen : Plain isParen := by
  refine Plain.of_lt fun u hu => ?_
  simp only [isParen, Bool.or_eq_true, beq_iff_eq] at hu
  obtain rfl | rfl := hu <;> decide

theorem plain_quote : Plain (· == quote) := by
  refine Plain.of_lt fun u hu => ?_
  obtain rfl := beq_iff_eq.mp hu
  decide

/-- Neither qualifiers nor blanks hold what these four patterns keep. -/
theorem respaced_filter {f : Nat → Bool} (hf : Plain f)
    (hkept : ∀ c ∈ [publicQualifier, rowBlank, distinctBlank, thenBlank],
      c.pattern.word.filter f = c.out.filter f) (s : JsString) :
    (respaced s).filter f = s.filter f := by
  have hspaces : ∀ s, (spacePattern.replaceAll (js " ") s).filter f = s.filter f := fun s =>
    (Pattern.replaceAll_replaced spaces_consumes (js " ") s).filter hf rfl
  simp only [List.forall_mem_cons] at hkept
  obtain ⟨hpublic, hrow, hdistinct, hthen, -⟩ := hkept
  rw [respaced, contract_filter thenBlank_lawful hf hthen, contract_filter distinctBlank_lawful hf hdistinct,
    contract_filter rowBlank_lawful hf hrow, hspaces, unqualified,
    contract_filter publicQualifier_lawful hf hpublic]

theorem quote_not_mem_rewritten {a : JsString} (h : quote ∉ a) : quote ∉ rewritten a := by
  have hkept : (rewritten a).filter (· == quote) = a.filter (· == quote) := by
    rw [rewritten, contract_filter thenWrapper_lawful plain_quote (by decide),
      contract_filter andWrapper_lawful plain_quote (by decide),
      respaced_filter plain_quote (by decide)]
  intro hmem
  have hfilter : quote ∈ (rewritten a).filter (· == quote) := List.mem_filter.mpr ⟨hmem, rfl⟩
  rw [hkept] at hfilter
  exact h (List.mem_filter.mp hfilter).1

theorem pieces_rewritten (s : JsString) : pieces (rewritten s) = (pieces s).map rewritten := by
  induction s using quote_induction with
  | piece a ha => rw [pieces_piece ha, pieces_piece (quote_not_mem_rewritten ha), List.map_singleton]
  | cut a b ha ih =>
    rw [rewritten_cut, pieces_cut (quote_not_mem_rewritten ha), ih, pieces_cut ha, List.map_cons]

/-! ## What is kept -/

/-- No piece that begins inside a literal is rewritten, and no text between two literals vanishes. -/
def keptPieces : List JsString → Bool
  | l :: o :: rest =>
    decide (rewritten l = l) && decide (rest ≠ [] → rewritten o = [] → o = []) && keptPieces rest
  | _ => true

/-- The literals hold nothing that is rewritten. -/
def LiteralsKept (def_ : JsString) : Prop := keptPieces (pieces def_).tail = true

instance (def_ : JsString) : Decidable (LiteralsKept def_) := inferInstanceAs (Decidable (_ = _))

theorem rewritten_nil : rewritten [] = [] := by decide

theorem quoted_map_rewritten {ps : List JsString} (h : keptPieces ps = true) :
    quoted (ps.map rewritten) = quoted ps := by
  match ps with
  | [] => rfl
  | [l] => rfl
  | l :: o :: rest =>
    simp only [keptPieces, Bool.and_eq_true, decide_eq_true_eq] at h
    obtain ⟨⟨hl, ho⟩, hrest⟩ := h
    have hempty : (rewritten o = [] ∧ rest.map rewritten ≠ []) ↔ o = [] ∧ rest ≠ [] := by
      rw [ne_eq, List.map_eq_nil_iff]
      constructor
      · exact fun ⟨hnil, hne⟩ => ⟨ho hne hnil, hne⟩
      · rintro ⟨rfl, hne⟩
        exact ⟨rewritten_nil, hne⟩
    simp only [List.map_cons, quoted, quoted_map_rewritten hrest, hl, hempty]

theorem stringLiterals_normalizeDefinition {def_ : JsString} (h : LiteralsKept def_) :
    stringLiterals (normalizeDefinition def_) = stringLiterals def_ := by
  rw [normalizeDefinition_eq, stringLiterals_trim, stringLiterals, pieces_rewritten, ← List.map_tail,
    quoted_map_rewritten h, stringLiterals]

/-- What loses a parenthesis. -/
def wrappers : List Framed := [
  andWrapper.toFramed,
  thenWrapper.toFramed,
  ⟨false, lit ")" ++ [.spaces] ++ lit ")" ++ [.spaces] ++ lit "THEN", true⟩]

/-- The pieces that begin outside of literals hold no wrapper. -/
def unwrappedPieces : List JsString → Bool
  | o :: rest =>
    decide (∀ c ∈ wrappers, c.pattern.absent (unqualified o) = true) &&
      match rest with
      | _ :: rest => unwrappedPieces rest
      | [] => true
  | [] => true

/-- No parenthesis of the definition is dropped as a wrapper. -/
def Unwrapped (def_ : JsString) : Prop := unwrappedPieces (pieces def_) = true

instance (def_ : JsString) : Decidable (Unwrapped def_) := inferInstanceAs (Decidable (_ = _))

theorem rewritten_of_unwrapped {s : JsString}
    (h : ∀ c ∈ wrappers, c.pattern.absent (unqualified s) = true) : rewritten s = respaced s := by
  have hcs : ∀ c ∈ wrappers, c.Lawful ∧ c.pattern.Tame := by decide
  have hcollapsed := spacePattern_stage hcs h
  have hrow := Contraction.stage rowBlank_lawful (by decide) (by decide) (by decide) hcollapsed
  have hdistinct := Contraction.stage distinctBlank_lawful (by decide) (by decide) (by decide) hrow
  have hthen : Stage _ (respaced s) :=
    Contraction.stage thenBlank_lawful (by decide) (by decide) (by decide) hdistinct
  have hand := contract_of_absent andWrapper_lawful (hthen.absent andWrapper_lawful.framed (by decide))
  have hclose := contract_of_absent thenWrapper_lawful (hthen.absent thenWrapper_lawful.framed (by decide))
  rw [rewritten, hand, hclose]

theorem filter_isParen_rewritten {s : JsString}
    (h : ∀ c ∈ wrappers, c.pattern.absent (unqualified s) = true) :
    (rewritten s).filter isParen = s.filter isParen := by
  rw [rewritten_of_unwrapped h, respaced_filter plain_isParen (by decide)]

theorem parensOf_map_rewritten {ps : List JsString} (h : unwrappedPieces ps = true) :
    parensOf (ps.map rewritten) = parensOf ps := by
  match ps with
  | [] => rfl
  | [o] =>
    simp only [unwrappedPieces, Bool.and_true, decide_eq_true_eq] at h
    exact filter_isParen_rewritten h
  | o :: l :: rest =>
    simp only [unwrappedPieces, Bool.and_eq_true, decide_eq_true_eq] at h
    simp only [List.map_cons, parensOf, filter_isParen_rewritten h.1, parensOf_map_rewritten h.2]

theorem parentheses_normalizeDefinition {def_ : JsString} (h : Unwrapped def_) :
    parentheses (normalizeDefinition def_) = parentheses def_ := by
  rw [normalizeDefinition_eq, parentheses_trim, parentheses, pieces_rewritten, parensOf_map_rewritten h,
    parentheses]

end HostPlatform
