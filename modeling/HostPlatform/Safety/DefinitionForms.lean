-- SUMMARY: How far the normal form of a definition is one, and what of two definitions it keeps apart.
import HostPlatform.Migrations.StringLiterals

/-!
# Normal forms of definitions

The rewritings do not know about quotes, and drop one pair of parentheses before `THEN` at a
time. Beside these two, a second pass changes nothing, and literals and parentheses that
differ make the normal forms differ.
-/

namespace HostPlatform

open Lib (JsString js)

/-- A second pass changes nothing; other literals and other parentheses have other normal forms. -/
theorem normalizeDefinition_normal_form :
    (∀ def_, ShallowClosings def_ →
      normalizeDefinition (normalizeDefinition def_) = normalizeDefinition def_) ∧
    ∀ a b,
      (LiteralsKept a → LiteralsKept b → stringLiterals a ≠ stringLiterals b →
        normalizeDefinition a ≠ normalizeDefinition b) ∧
      (Unwrapped a → Unwrapped b → parentheses a ≠ parentheses b →
        normalizeDefinition a ≠ normalizeDefinition b) := by
  refine ⟨fun _ => normalizeDefinition_of_shallow, fun a b => ⟨fun ha hb hne heq => ?_, fun ha hb hne heq => ?_⟩⟩
  · apply hne
    rw [← stringLiterals_normalizeDefinition ha, ← stringLiterals_normalizeDefinition hb, heq]
  · apply hne
    rw [← parentheses_normalizeDefinition ha, ← parentheses_normalizeDefinition hb, heq]

theorem normal_forms_apart :
    normalizeDefinition (normalizeDefinition (js "a  ) THEN")) = normalizeDefinition (js "a  ) THEN") ∧
      normalizeDefinition (js "('a')") ≠ normalizeDefinition (js "('b')") ∧
      normalizeDefinition (js "(a)") ≠ normalizeDefinition (js "((a))") :=
  ⟨normalizeDefinition_normal_form.1 _ (by decide),
    (normalizeDefinition_normal_form.2 _ _).1 (by decide) (by decide) (by decide),
    (normalizeDefinition_normal_form.2 _ _).2 (by decide) (by decide) (by decide)⟩

/-- The two renderings of one comparison have one normal form; but so have different literals,
and a second pass drops a second pair of parentheses. -/
theorem normal_forms_meet :
    (parentheses (js "AND (ROW(a) IS DISTINCT FROM ROW(b)) THEN")
        ≠ parentheses (js "AND ROW( a ) IS DISTINCT FROM ROW( b ) THEN") ∧
      normalizeDefinition (js "AND (ROW(a) IS DISTINCT FROM ROW(b)) THEN")
        = normalizeDefinition (js "AND ROW( a ) IS DISTINCT FROM ROW( b ) THEN")) ∧
    (stringLiterals (js "'a  b'") ≠ stringLiterals (js "'a b'") ∧
      normalizeDefinition (js "'a  b'") = normalizeDefinition (js "'a b'")) ∧
    normalizeDefinition (normalizeDefinition (js "))) THEN")) ≠ normalizeDefinition (js "))) THEN") := by
  decide

end HostPlatform
