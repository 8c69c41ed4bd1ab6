-- SUMMARY: Rules that delete a part of a word between two contexts, and the factors such a deletion can create.
import Mathlib.Data.List.Forall2
import Mathlib.Data.List.Infix
import Mathlib.Logic.Relation

/-!
# Deletions

A rule deletes a part of a word where the letters before and after it are of given
classes. A factor that appears by a deletion lies across the gap: what of it stands
before the gap agrees with the left context, and the rest with the right one.
`DeletionRule.harmless` checks that every such overlap had a forbidden factor before.
-/

namespace Lib

/-- Classes of letters: which two may have a letter in common, and which are part of another. -/
structure LetterClasses (α ι : Type) where
  holds : ι → α → Prop
  meet : ι → ι → Bool
  within : ι → ι → Bool
  meet_of_holds : ∀ {i j : ι} {a : α}, holds i a → holds j a → meet i j = true
  holds_of_within : ∀ {i j : ι} {a : α}, within i j = true → holds i a → holds j a

namespace LetterClasses

variable {α ι : Type} (C : LetterClasses α ι)

/-- The letters are of the classes, one by one. -/
abbrev Fits (Q : List ι) (m : List α) : Prop := List.Forall₂ C.holds Q m

def Occurs (Q : List ι) (s : List α) : Prop := ∃ m, m <:+: s ∧ C.Fits Q m

def StartsWith (Q : List ι) (s : List α) : Prop := ∃ m, m <+: s ∧ C.Fits Q m

/-- No factor of the family occurs. -/
def Free (F : List (List ι)) (s : List α) : Prop := ∀ Q ∈ F, ¬ C.Occurs Q s

/-- Two words of these classes may be the beginnings of one word. -/
def agree (A B : List ι) : Bool := (A.zip B).all fun p => C.meet p.1 p.2

/-- Whatever starts with `A` starts with `Q`. -/
def covers : List ι → List ι → Bool
  | [], _ => true
  | _ :: _, [] => false
  | j :: Q, i :: A => C.within i j && covers Q A

/-- Wherever `A` occurs, `Q` does. -/
def contains (A Q : List ι) : Bool := A.tails.any (C.covers Q)

variable {C}

theorem agree_of_prefix {A B : List ι} {x y z : List α} (hx : C.Fits A x) (hy : C.Fits B y)
    (hxz : x <+: z) (hyz : y <+: z) : C.agree A B = true := by
  induction hx generalizing B y z with
  | nil => rfl
  | @cons i a A x hia _ ih =>
    cases hy with
    | nil => rfl
    | @cons j b B y hjb hy =>
      obtain ⟨rest, rfl⟩ := hxz
      simp only [List.cons_append, List.cons_prefix_cons] at hyz
      obtain ⟨rfl, hyz⟩ := hyz
      simp only [agree, List.zip_cons_cons, List.all_cons, Bool.and_eq_true]
      exact ⟨C.meet_of_holds hia hjb, ih hy (List.prefix_append _ _) hyz⟩

theorem agree_of_suffix {A B : List ι} {x y z : List α} (hx : C.Fits A x) (hy : C.Fits B y)
    (hxz : x <:+ z) (hyz : y <:+ z) : C.agree A.reverse B.reverse = true := by
  have hxr := List.reverse_prefix.mpr hxz
  have hyr := List.reverse_prefix.mpr hyz
  exact agree_of_prefix (List.forall₂_reverse_iff.mpr hx) (List.forall₂_reverse_iff.mpr hy) hxr hyr

/-- A text that fits a concatenation is cut where the classes are. -/
theorem Fits.cut {Q : List ι} {x y : List α} (h : C.Fits Q (x ++ y)) :
    C.Fits (Q.take x.length) x ∧ C.Fits (Q.drop x.length) y :=
  ⟨List.forall₂_take_append Q x y h, List.forall₂_drop_append Q x y h⟩

theorem StartsWith.of_covers {Q A : List ι} {s : List α} (hcovers : C.covers Q A = true)
    (h : C.StartsWith A s) : C.StartsWith Q s := by
  obtain ⟨m, hm, hfits⟩ := h
  induction hfits generalizing Q s with
  | nil =>
    cases Q with
    | nil => exact ⟨[], List.nil_prefix, .nil⟩
    | cons j Q => cases hcovers
  | @cons i a A m hia _ ih =>
    cases Q with
    | nil => exact ⟨[], List.nil_prefix, .nil⟩
    | cons j Q =>
      simp only [covers, Bool.and_eq_true] at hcovers
      obtain ⟨rest, rfl⟩ := hm
      obtain ⟨m', hm', hfits'⟩ := ih hcovers.2 (List.prefix_append m rest)
      exact ⟨a :: m', List.cons_prefix_cons.mpr ⟨rfl, hm'⟩, .cons (C.holds_of_within hcovers.1 hia) hfits'⟩

theorem StartsWith.occurs {Q : List ι} {s : List α} (h : C.StartsWith Q s) : C.Occurs Q s := by
  obtain ⟨m, hm, hfits⟩ := h
  exact ⟨m, hm.isInfix, hfits⟩

theorem Occurs.widen {Q : List ι} {s t : List α} (h : C.Occurs Q s) (hst : s <:+: t) : C.Occurs Q t := by
  obtain ⟨m, hm, hfits⟩ := h
  exact ⟨m, hm.trans hst, hfits⟩

theorem Occurs.of_contains {Q A : List ι} {s : List α} (hcontains : C.contains A Q = true)
    (h : C.Occurs A s) : C.Occurs Q s := by
  obtain ⟨m, hm, hfits⟩ := h
  obtain ⟨B, hB, hcovers⟩ := List.any_eq_true.mp hcontains
  obtain ⟨A', rfl⟩ := (List.mem_tails _ _).mp hB
  have hdrop := List.forall₂_drop A'.length hfits
  rw [List.drop_left] at hdrop
  have hstarts : C.StartsWith B (m.drop A'.length) := ⟨_, List.prefix_rfl, hdrop⟩
  exact (hstarts.of_covers hcovers).occurs.widen ((List.drop_suffix _ m).isInfix.trans hm)

/-- An occurrence is at the start, or behind the first letter. -/
theorem occurs_cons {Q : List ι} {a : α} {s : List α} :
    C.Occurs Q (a :: s) ↔ C.StartsWith Q (a :: s) ∨ C.Occurs Q s := by
  simp only [Occurs, StartsWith, List.infix_cons_iff, or_and_right, exists_or]

end LetterClasses

/-- The deleted part is the middle one. -/
structure DeletionRule (ι : Type) where
  left : List ι
  deleted : List ι
  right : List ι

namespace DeletionRule

open LetterClasses

variable {α ι : Type} {C : LetterClasses α ι}

/-- One deletion. -/
inductive Step (C : LetterClasses α ι) (r : DeletionRule ι) : List α → List α → Prop
  | mk (p d q : List α) (left : ∃ l, l <:+ p ∧ C.Fits r.left l) (deleted : C.Fits r.deleted d)
      (right : ∃ k, k <+: q ∧ C.Fits r.right k) : Step C r (p ++ d ++ q) (p ++ q)

/-- Any number of deletions. -/
abbrev Run (C : LetterClasses α ι) (r : DeletionRule ι) : List α → List α → Prop :=
  Relation.ReflTransGen (Step C r)

/-- A deletion may bring the first `n` classes of the factor and the rest together. -/
def mayJoin (C : LetterClasses α ι) (r : DeletionRule ι) (Q : List ι) (n : Nat) : Bool :=
  C.agree r.left.reverse (Q.take n).reverse && C.agree r.right (Q.drop n)

/-- The factor before the deletion that joins its parts. -/
def apart (r : DeletionRule ι) (Q : List ι) (n : Nat) : List ι := Q.take n ++ r.deleted ++ Q.drop n

/-- Where a deletion joins the parts of the factor, a factor of the family was there before. -/
def harmless (C : LetterClasses α ι) (r : DeletionRule ι) (F : List (List ι)) (Q : List ι) : Bool :=
  (List.range Q.length).all fun n =>
    decide (n = 0) || !mayJoin C r Q n || F.any (C.contains (r.apart Q n))

/-- No factor of the family is created where none of them was before. -/
def closed (C : LetterClasses α ι) (r : DeletionRule ι) (F : List (List ι)) : Bool :=
  F.all (harmless C r F)

/-- Where a deletion joins the factor behind its first class, the text started with the factor
already, or a factor of the family was there. -/
def steady (C : LetterClasses α ι) (r : DeletionRule ι) (F : List (List ι)) (Q : List ι) : Bool :=
  (List.range Q.length).all fun n =>
    decide (n < 2) || !mayJoin C r Q n || C.covers Q (r.apart Q n) || F.any (C.contains (r.apart Q n))

variable {r : DeletionRule ι} {Q : List ι} {s t : List α}

/-- An occurrence across the gap. -/
theorem mayJoin_of_across {p q x y : List α} (hleft : ∃ l, l <:+ p ∧ C.Fits r.left l)
    (hright : ∃ k, k <+: q ∧ C.Fits r.right k) (hfits : C.Fits Q (x ++ y)) (hx : x <:+ p)
    (hy : y <+: q) : mayJoin C r Q x.length = true := by
  obtain ⟨l, hl, hlfits⟩ := hleft
  obtain ⟨k, hk, hkfits⟩ := hright
  obtain ⟨htake, hdrop⟩ := hfits.cut
  simp only [mayJoin, Bool.and_eq_true]
  exact ⟨agree_of_suffix hlfits htake hl hx, agree_of_prefix hkfits hdrop hk hy⟩

theorem fits_apart {d x y : List α} (hdeleted : C.Fits r.deleted d) (hfits : C.Fits Q (x ++ y)) :
    C.Fits (r.apart Q x.length) (x ++ d ++ y) :=
  List.rel_append (List.rel_append hfits.cut.1 hdeleted) hfits.cut.2

theorem Step.append_left (hstep : Step C r s t) (x : List α) : Step C r (x ++ s) (x ++ t) := by
  obtain ⟨p, d, q, ⟨l, hl, hlfits⟩, hdeleted, hright⟩ := hstep
  have hleft : ∃ l, l <:+ x ++ p ∧ C.Fits r.left l := ⟨l, hl.trans (List.suffix_append x p), hlfits⟩
  simpa only [List.append_assoc] using Step.mk (x ++ p) d q hleft hdeleted hright

variable {F : List (List ι)}

/-- An occurrence after a deletion was one before, unless the family had one. -/
theorem Step.occurs (hstep : Step C r s t) (hharmless : harmless C r F Q = true)
    (hfree : C.Free F s) (hoccurs : C.Occurs Q t) : C.Occurs Q s := by
  obtain ⟨p, d, q, hleft, hdeleted, hright⟩ := hstep
  obtain ⟨m, hm, hfits⟩ := hoccurs
  obtain hm | hm | ⟨x, y, hx, hy, rfl, hxp, hyq⟩ := List.infix_append_iff_ne_nil.mp hm
  · exact ⟨m, List.infix_append_of_infix_left (List.infix_append_of_infix_left hm), hfits⟩
  · exact ⟨m, List.infix_append_of_infix_right hm, hfits⟩
  · have hlength := hfits.length_eq
    have hypos := List.length_pos_iff.mpr hy
    rw [List.length_append] at hlength
    have hn := List.all_eq_true.mp hharmless x.length (List.mem_range.mpr (by omega))
    have hjoin := mayJoin_of_across hleft hright hfits hxp hyq
    simp only [hjoin, List.length_eq_zero_iff, hx, decide_false, Bool.not_true, Bool.or_false,
      Bool.false_or, List.any_eq_true] at hn
    obtain ⟨Q', hmem, hcontains⟩ := hn
    obtain ⟨p', rfl⟩ := hxp
    obtain ⟨q', rfl⟩ := hyq
    have hapart : C.Occurs (r.apart Q x.length) (p' ++ x ++ d ++ (y ++ q')) :=
      ⟨x ++ d ++ y, ⟨p', q', by simp only [List.append_assoc]⟩, fits_apart hdeleted hfits⟩
    exact absurd (hapart.of_contains hcontains) (hfree Q' hmem)

theorem Step.free (hstep : Step C r s t) (hclosed : closed C r F = true) (hfree : C.Free F s) :
    C.Free F t := by
  intro Q hmem hoccurs
  exact hfree Q hmem (hstep.occurs (List.all_eq_true.mp hclosed Q hmem) hfree hoccurs)

theorem Run.free (hrun : Run C r s t) (hclosed : closed C r F = true) (hfree : C.Free F s) :
    C.Free F t := by
  induction hrun with
  | refl => exact hfree
  | tail _ hstep ih => exact hstep.free hclosed ih

/-- The same of an occurrence at the start, where the deletion is behind a first letter. -/
theorem Step.startsWith (hstep : Step C r s t) {x : List α} (hx : x ≠ []) (hleft : r.left ≠ [])
    (hsteady : steady C r F Q = true) (hfree : C.Free F (x ++ s)) (hstarts : C.StartsWith Q (x ++ t)) :
    C.StartsWith Q (x ++ s) := by
  obtain ⟨p, d, q, ⟨l, hl, hlfits⟩, hdeleted, hright⟩ := hstep
  have hp : 0 < p.length := by
    refine Nat.lt_of_lt_of_le ?_ hl.length_le
    rw [← hlfits.length_eq]
    exact List.length_pos_iff.mpr hleft
  have hctx : ∃ l, l <:+ x ++ p ∧ C.Fits r.left l := ⟨l, hl.trans (List.suffix_append x p), hlfits⟩
  have hxpos := List.length_pos_iff.mpr hx
  obtain ⟨m, hm, hfits⟩ := hstarts
  rw [← List.append_assoc] at hm
  simp only [← List.append_assoc] at hfree ⊢
  have hkept : x ++ p <+: x ++ p ++ d ++ q := (List.prefix_append _ d).trans (List.prefix_append _ q)
  obtain hshort | hlong := List.prefix_or_prefix_of_prefix hm (List.prefix_append (x ++ p) q)
  · exact ⟨m, hshort.trans hkept, hfits⟩
  · obtain ⟨y, rfl⟩ := hlong
    have hyq : y <+: q := (List.prefix_append_right_inj (x ++ p)).mp hm
    cases y with
    | nil => exact ⟨x ++ p ++ [], (List.append_nil (x ++ p)).symm ▸ hkept, hfits⟩
    | cons b y =>
      have hlength := hfits.length_eq
      rw [List.length_append, List.length_cons] at hlength
      have hn := List.all_eq_true.mp hsteady (x ++ p).length (List.mem_range.mpr (by omega))
      have hjoin := mayJoin_of_across hctx hright hfits List.suffix_rfl hyq
      have hlong : ¬ (x ++ p).length < 2 := by
        rw [List.length_append]
        omega
      simp only [hjoin, hlong, decide_false, Bool.not_true, Bool.false_or, Bool.or_eq_true,
        List.any_eq_true] at hn
      obtain ⟨q', rfl⟩ := hyq
      have hapart : C.StartsWith (r.apart Q (x ++ p).length) (x ++ p ++ d ++ (b :: y ++ q')) :=
        ⟨x ++ p ++ d ++ b :: y, ⟨q', by simp only [List.append_assoc]⟩, fits_apart hdeleted hfits⟩
      obtain hcovers | ⟨Q', hmem, hcontains⟩ := hn
      · exact hapart.of_covers hcovers
      · exact absurd (hapart.occurs.of_contains hcontains) (hfree Q' hmem)

theorem Run.startsWith (hrun : Run C r s t) {x : List α} (hx : x ≠ []) (hleft : r.left ≠ [])
    (hclosed : closed C r F = true) (hsteady : steady C r F Q = true) (hfree : C.Free F (x ++ s))
    (hstarts : C.StartsWith Q (x ++ t)) : C.StartsWith Q (x ++ s) := by
  induction hrun using Relation.ReflTransGen.head_induction_on with
  | refl => exact hstarts
  | head hstep _ ih =>
    have hlater := ih ((hstep.append_left x).free hclosed hfree)
    exact hstep.startsWith hx hleft hsteady hfree hlater

end DeletionRule

end Lib
