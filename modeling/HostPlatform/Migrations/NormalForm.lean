-- SUMMARY: The rewritings of `normalizeDefinition` as contractions, and the texts on which a second pass changes nothing.
import HostPlatform.Lib.Contraction
import HostPlatform.Migrations.SchemaSnapshot

/-!
# The normal form of a definition

After the qualifiers are dropped and white space is collapsed, each rewriting takes one
blank or one parenthesis out of its matches. What each can create of the others is checked
on the factors of their patterns; only the last one can, where more than two parentheses
are closed before `THEN`.
-/

namespace HostPlatform

open Lib (JsString Pattern js)
open Lib.Pattern (lit Framed Contraction Stage unitClasses)
open Lib.JsString (space trim)

/-! ## The rewritings as contractions -/

def publicQualifier : Contraction := ⟨⟨true, lit "public.", false⟩, [], js "PUBLIC.", []⟩

def rowBlank : Contraction := ⟨⟨true, lit "ROW(" ++ [.spaces], false⟩, js "ROW(", js " ", []⟩

def distinctBlank : Contraction :=
  ⟨⟨false, [.spaces] ++ lit ")" ++ [.spaces] ++ lit "IS DISTINCT FROM" ++ [.spaces] ++ lit "ROW(", false⟩,
    [], js " ", js ") IS DISTINCT FROM ROW("⟩

def thenBlank : Contraction :=
  ⟨⟨false, [.spaces] ++ lit ")" ++ [.spaces] ++ lit "THEN", true⟩, [], js " ", js ") THEN"⟩

def andWrapper : Contraction :=
  ⟨⟨true, lit "AND" ++ [.spaces] ++ lit "(ROW(", false⟩, js "AND ", js "(", js "ROW("⟩

def thenWrapper : Contraction :=
  ⟨⟨false, lit "))" ++ [.spaces] ++ lit "THEN", true⟩, [], js ")", js ") THEN"⟩

theorem publicQualifier_lawful : publicQualifier.Lawful := by decide

theorem rowBlank_lawful : rowBlank.Lawful := by decide

theorem distinctBlank_lawful : distinctBlank.Lawful := by decide

theorem thenBlank_lawful : thenBlank.Lawful := by decide

theorem andWrapper_lawful : andWrapper.Lawful := by decide

theorem thenWrapper_lawful : thenWrapper.Lawful := by decide

/-! ## The passes -/

/-- The definition without its `public.` qualifiers. -/
def unqualified (def_ : JsString) : JsString := publicQualifier.contract def_

/-- Its white space in the normal form. -/
def respaced (def_ : JsString) : JsString :=
  thenBlank.contract (distinctBlank.contract
    (rowBlank.contract (spacePattern.replaceAll (js " ") (unqualified def_))))

/-- All rewritings but the trimming. -/
def rewritten (def_ : JsString) : JsString := thenWrapper.contract (andWrapper.contract (respaced def_))

theorem normalizeDefinition_eq (def_ : JsString) : normalizeDefinition def_ = trim (rewritten def_) := rfl

theorem spaces_consumes : Pattern.Consumes [.spaces] := by decide

/-- Absent patterns stay absent when white space is collapsed. -/
theorem spacePattern_stage {cs : List Framed} (hcs : ∀ c ∈ cs, c.Lawful ∧ c.pattern.Tame) {s : JsString}
    (habsent : ∀ c ∈ cs, c.pattern.absent s = true) :
    Stage (cs.map Framed.factor) (spacePattern.replaceAll (js " ") s) := by
  have hreplaced : Pattern.Replaced [.spaces] [space] none s (spacePattern.replaceAll (js " ") s) :=
    Pattern.replaceAll_replaced spaces_consumes [space] s
  refine Pattern.stage_of_absent (fun c hc => (hcs c hc).1) hreplaced.fold.collapsed fun c hc => ?_
  exact hreplaced.absent_of_spaces (hcs c hc).2 (habsent c hc)

/-! ## Deeper closings -/

/-- More before `THEN` than the pair of parentheses whose wrapper is dropped: a parenthesis or
white space, and then two closing parentheses. -/
def deepClosings : List Framed := [
  ⟨false, lit ")))" ++ [.spaces] ++ lit "THEN", true⟩,
  ⟨false, lit "))" ++ [.spaces] ++ lit ")" ++ [.spaces] ++ lit "THEN", true⟩,
  ⟨false, [.spaces] ++ lit "))" ++ [.spaces] ++ lit "THEN", true⟩,
  ⟨false, [.spaces] ++ lit ")" ++ [.spaces] ++ lit ")" ++ [.spaces] ++ lit "THEN", true⟩]

/-- At most one wrapper is closed before any `THEN`. -/
def ShallowClosings (def_ : JsString) : Prop :=
  ∀ c ∈ deepClosings, c.pattern.absent (unqualified def_) = true

instance (def_ : JsString) : Decidable (ShallowClosings def_) :=
  inferInstanceAs (Decidable (∀ c ∈ deepClosings, _ = true))

/-- The patterns a second pass must not find. -/
def normalFactors : List (List Lib.Pattern.UnitClass) :=
  [thenWrapper.factor, andWrapper.factor, thenBlank.factor, distinctBlank.factor, rowBlank.factor] ++
    (publicQualifier.toFramed :: deepClosings).map Framed.factor

theorem rewritten_stage {def_ : JsString} (h : ShallowClosings def_) :
    Stage normalFactors (rewritten def_) := by
  have hcs : ∀ c ∈ publicQualifier.toFramed :: deepClosings, c.Lawful ∧ c.pattern.Tame := by decide
  have habsent : ∀ c ∈ publicQualifier.toFramed :: deepClosings,
      c.pattern.absent (unqualified def_) = true := by
    intro c hc
    obtain rfl | hc := List.mem_cons.mp hc
    · exact Contraction.absent_contract publicQualifier_lawful (by decide) (by decide) def_
    · exact h c hc
  have hcollapsed := spacePattern_stage hcs habsent
  have hrow := Contraction.stage rowBlank_lawful (by decide) (by decide) (by decide) hcollapsed
  have hdistinct := Contraction.stage distinctBlank_lawful (by decide) (by decide) (by decide) hrow
  have hthen := Contraction.stage thenBlank_lawful (by decide) (by decide) (by decide) hdistinct
  have hand := Contraction.stage andWrapper_lawful (by decide) (by decide) (by decide) hthen
  exact Contraction.stage thenWrapper_lawful (by decide) (by decide) (by decide) hand

/-- A contraction leaves a text alone in which its pattern is absent. -/
theorem contract_of_absent {c : Contraction} (hc : c.Lawful) {s : JsString}
    (h : c.pattern.absent s = true) : c.contract s = s :=
  Pattern.replaceAll_of_absent hc.framed.consumes c.out h

/-- The normal form of a normal form is the same. -/
theorem normalizeDefinition_of_shallow {def_ : JsString} (h : ShallowClosings def_) :
    normalizeDefinition (normalizeDefinition def_) = normalizeDefinition def_ := by
  have hstage := rewritten_stage h
  have habsent : ∀ {c : Contraction}, c.Lawful → c.factor ∈ normalFactors →
      c.contract (normalizeDefinition def_) = normalizeDefinition def_ := fun hc hmem =>
    contract_of_absent hc (Pattern.absent_trim (hstage.absent hc.framed hmem))
  have hcollapsed : Pattern.Collapsed (normalizeDefinition def_) := by
    obtain ⟨before, after, hparts, _, _⟩ := Lib.JsString.trim_parts (rewritten def_)
    exact (Pattern.collapsed_of_fold hstage.collapsed).part ⟨before, after, hparts.symm⟩
  have hspaces : spacePattern.replaceAll (js " ") (normalizeDefinition def_) = normalizeDefinition def_ :=
    (hcollapsed.replaced none).eq spaces_consumes
  rw [normalizeDefinition_eq (normalizeDefinition def_), rewritten, respaced, unqualified,
    habsent publicQualifier_lawful (by decide), hspaces, habsent rowBlank_lawful (by decide),
    habsent distinctBlank_lawful (by decide), habsent thenBlank_lawful (by decide),
    habsent andWrapper_lawful (by decide), habsent thenWrapper_lawful (by decide)]
  exact Lib.JsString.trim_trim (rewritten def_)

end HostPlatform
