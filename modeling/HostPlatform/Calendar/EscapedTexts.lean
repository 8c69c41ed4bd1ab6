-- SUMMARY: What is read of an escaped text: the text, but an n after a backslash becomes a space.
import HostPlatform.Calendar.ICalLines

/-!
# Escaping, then unescaping

`unescapeText` undoes one kind of escape after another, over the whole text. Line breaks
come first, so a backslash that was escaped and the n after it are taken for one.
-/

namespace HostPlatform

open Lib (JsString js)
open Lib.JsString

/-- `/\\n/i`: a backslash and an n. -/
def isEscapedN (a b : Nat) : Bool := isEscaped (js "nN") a b

/-- A backslash stands before an n. -/
def HasEscapedN (text : JsString) : Prop := js "\\n" <:+: text ∨ js "\\N" <:+: text

instance (text : JsString) : Decidable (HasEscapedN text) := inferInstanceAs (Decidable (_ ∨ _))

/-- The text with a space for each n after a backslash. -/
def spaced (text : JsString) : JsString := replacePairs isEscapedN [backslash, space] text

/-! ## The stages of unescaping -/

/-- A unit of an escaped text, when the units `chars` still are escaped. -/
def escapeUnit (chars : JsString) (u : Nat) : JsString := if u ∈ chars then [backslash, u] else [u]

/-- The escaped text after the first replacement. -/
def staged (chars : JsString) : JsString → JsString
  | a :: b :: s =>
    if isEscapedN a b then backslash :: space :: staged chars s
    else escapeUnit chars a ++ staged chars (b :: s)
  | [a] => escapeUnit chars a
  | [] => []

theorem staged_cons {chars : JsString} {a : Nat} {s : JsString} (h : ∀ b, s.head? = some b → isEscapedN a b = false) :
    staged chars (a :: s) = escapeUnit chars a ++ staged chars s := by
  cases s with
  | nil => simp [staged]
  | cons b s => simp [staged, h b rfl]

theorem staged_pair {chars : JsString} {a b : Nat} (s : JsString) (h : isEscapedN a b = true) :
    staged chars (a :: b :: s) = backslash :: space :: staged chars s := by
  simp [staged, h]

theorem isEscapedN_iff {a b : Nat} : isEscapedN a b = true ↔ a = backslash ∧ b ∈ js "nN" := by
  unfold isEscapedN isEscaped
  rw [Bool.and_eq_true, beq_iff_eq, List.contains_iff_mem]

/-- A unit and what comes after it, or a backslash, an n and what comes after them. -/
theorem staged_induction {motive : JsString → Prop} (nil : motive [])
    (cons : ∀ a s, (∀ b, s.head? = some b → isEscapedN a b = false) → motive s → motive (a :: s))
    (pair : ∀ a b s, isEscapedN a b = true → motive s → motive (a :: b :: s)) (s : JsString) : motive s := by
  induction hn : s.length using Nat.strong_induction_on generalizing s with
  | _ n ih =>
    match s with
    | [] => exact nil
    | [a] => exact cons a [] nofun nil
    | a :: b :: s =>
      simp only [List.length_cons] at hn
      by_cases h : isEscapedN a b = true
      · exact pair a b s h (ih _ (by omega) s rfl)
      · refine cons a (b :: s) (fun c hc => ?_) (ih _ (by simp only [List.length_cons]; omega) _ rfl)
        obtain rfl := Option.some.inj hc
        exact Bool.not_eq_true _ |>.mp h

/-- Nothing is replaced at a unit that makes no match with the next. -/
theorem replacePairs_skip {isMatch : Nat → Nat → Bool} {out : JsString} {a : Nat} {s : JsString}
    (h : ∀ b, s.head? = some b → isMatch a b = false) :
    replacePairs isMatch out (a :: s) = a :: replacePairs isMatch out s := by
  cases s with
  | nil => rfl
  | cons b s => simp [replacePairs, h b rfl]

theorem replacePairs_match {isMatch : Nat → Nat → Bool} {out : JsString} {a b : Nat} (s : JsString)
    (h : isMatch a b = true) : replacePairs isMatch out (a :: b :: s) = out ++ replacePairs isMatch out s := by
  simp [replacePairs, h]

theorem isEscaped_eq_false {chars : JsString} {a b : Nat} (h : a ≠ backslash ∨ b ∉ chars) :
    isEscaped chars a b = false := by
  rw [← Bool.not_eq_true, isEscaped, Bool.and_eq_true, beq_iff_eq, List.contains_iff_mem]
  exact fun ⟨ha, hb⟩ => h.elim (fun h => h ha) fun h => h hb

/-- A stage starts with a backslash or with the first unit. -/
theorem head?_staged {chars s : JsString} {b : Nat} (h : (staged chars s).head? = some b) :
    b = backslash ∨ (s.head? = some b ∧ b ∉ chars) := by
  cases s using staged_induction with
  | nil => cases h
  | cons a s ha _ =>
    rw [staged_cons ha] at h
    unfold escapeUnit at h
    split at h
    · exact .inl (Option.some.inj h).symm
    · rename_i hnot
      obtain rfl := Option.some.inj h
      exact .inr ⟨rfl, hnot⟩
  | pair a b s hab _ =>
    rw [staged_pair s hab] at h
    exact .inl (Option.some.inj h).symm

/-- The first replacement takes a doubled backslash before an n for a line break. -/
theorem replace_escapedN {chars : JsString} (hbackslash : backslash ∈ chars) (hn : ∀ c ∈ js "nN", c ∉ chars)
    (s : JsString) :
    replacePairs isEscapedN [space] (s.flatMap (escapeUnit chars)) = staged chars s := by
  have hhead : ∀ {s : JsString} {b : Nat}, (s.flatMap (escapeUnit chars)).head? = some b →
      b = backslash ∨ s.head? = some b := by
    intro s b h
    cases s with
    | nil => cases h
    | cons a s =>
      rw [List.flatMap_cons] at h
      unfold escapeUnit at h
      split at h
      · exact .inl (Option.some.inj h).symm
      · exact .inr h
  have hdouble : isEscapedN backslash backslash = false := by decide
  induction s using staged_induction with
  | nil => rfl
  | cons a s ha ih =>
    rw [staged_cons ha, List.flatMap_cons]
    have hnext : ∀ b, (s.flatMap (escapeUnit chars)).head? = some b → isEscapedN a b = false := by
      intro b hb
      rcases hhead hb with rfl | hb
      · exact isEscaped_eq_false (.inr (by decide))
      · exact ha b hb
    by_cases hmem : a ∈ chars
    · have hnot : isEscapedN backslash a = false := isEscaped_eq_false (.inr fun han => hn a han hmem)
      rw [escapeUnit, if_pos hmem]
      simp only [List.cons_append, List.nil_append]
      rw [replacePairs_skip (by simpa using hnot), replacePairs_skip hnext, ih]
    · rw [escapeUnit, if_neg hmem]
      simp only [List.cons_append, List.nil_append]
      rw [replacePairs_skip hnext, ih]
  | pair a b s hab ih =>
    obtain ⟨rfl, hb⟩ := isEscapedN_iff.mp hab
    rw [staged_pair s hab, List.flatMap_cons, List.flatMap_cons, escapeUnit, escapeUnit, if_pos hbackslash,
      if_neg (hn b hb)]
    simp only [List.cons_append, List.nil_append]
    rw [replacePairs_skip (by simpa using hdouble), replacePairs_match _ hab, ih]
    rfl

/-- Undoing the escapes of a unit other than the backslash. -/
theorem replace_escaped {c : Nat} {chars : JsString} (hc : c ∉ chars) (hne : c ≠ backslash) (hspace : c ≠ space)
    (s : JsString) :
    replacePairs (isEscaped [c]) [c] (staged (c :: chars) s) = staged chars s := by
  have hnot : ∀ {a b : Nat}, a ≠ backslash ∨ b ≠ c → isEscaped [c] a b = false := by
    intro a b h
    exact isEscaped_eq_false (h.imp_right fun h => by simpa using h)
  have hmatch : isEscaped [c] backslash c = true := by simp [isEscaped]
  induction s using staged_induction with
  | nil => rfl
  | cons a s ha ih =>
    rw [staged_cons ha, staged_cons ha]
    by_cases hac : a = c
    · subst hac
      rw [escapeUnit, escapeUnit, if_pos List.mem_cons_self, if_neg hc]
      simp only [List.cons_append, List.nil_append]
      rw [replacePairs_match _ hmatch, ih]
      rfl
    · have hnext : ∀ b, (staged (c :: chars) s).head? = some b → isEscaped [c] a b = false := by
        intro b hb
        refine hnot (.inr ?_)
        rcases head?_staged hb with rfl | ⟨-, hb⟩
        · exact hne.symm
        · exact fun heq => hb (heq ▸ List.mem_cons_self)
      by_cases hmem : a ∈ chars
      · rw [escapeUnit, escapeUnit, if_pos (List.mem_cons_of_mem _ hmem), if_pos hmem]
        simp only [List.cons_append, List.nil_append]
        rw [replacePairs_skip (by simpa using hnot (.inr hac)), replacePairs_skip hnext, ih]
      · rw [escapeUnit, escapeUnit, if_neg (by simp [hac, hmem]), if_neg hmem]
        simp only [List.cons_append, List.nil_append]
        rw [replacePairs_skip hnext, ih]
  | pair a b s hab ih =>
    rw [staged_pair s hab, staged_pair s hab, replacePairs_skip (by simpa using hnot (.inr hspace.symm)),
      replacePairs_skip (fun b _ => hnot (.inl (by decide))), ih]

/-- Undoing the escapes of the backslash. -/
theorem replace_backslashes (s : JsString) :
    replacePairs (isEscaped [backslash]) [backslash] (staged [backslash] s) = spaced s := by
  have hnot : ∀ {a b : Nat}, a ≠ backslash ∨ b ≠ backslash → isEscaped [backslash] a b = false := by
    intro a b h
    exact isEscaped_eq_false (h.imp_right fun h => by simpa using h)
  unfold spaced
  induction s using staged_induction with
  | nil => rfl
  | cons a s ha ih =>
    rw [staged_cons ha, replacePairs_skip ha, escapeUnit]
    split
    · rename_i hmem
      rw [List.mem_singleton.mp hmem]
      simp only [List.cons_append, List.nil_append]
      rw [replacePairs_match _ (by decide), ih]
      rfl
    · rename_i hmem
      rw [List.mem_singleton] at hmem
      simp only [List.cons_append, List.nil_append]
      rw [replacePairs_skip fun b _ => hnot (.inl hmem), ih]
  | pair a b s hab ih =>
    rw [staged_pair s hab, replacePairs_match _ hab, replacePairs_skip (by simpa using hnot (.inr (by decide))),
      replacePairs_skip (fun b _ => hnot (.inl (by decide))), ih]
    rfl

/-! ## The round trip -/

/-- Without line breaks, each unit is escaped by itself. -/
theorem escapeIcalText_of_noBreak {text : JsString} (h : NoBreak text) :
    escapeIcalText text = text.flatMap (escapeUnit [comma, semicolon, backslash]) := by
  have hbackslashes : NoBreak (Lib.JsString.replaceUnit backslash [backslash, backslash] text) :=
    NoBreak.replaceUnit backslash (by unfold NoBreak; decide) h
  unfold escapeIcalText escapeLineBreaks
  dsimp only
  rw [replacePairs_of_not_mem isCrLf_first hbackslashes.1, replaceUnit_of_not_mem hbackslashes.2]
  unfold Lib.JsString.replaceUnit
  rw [List.flatMap_assoc, List.flatMap_assoc]
  refine List.flatMap_congr fun u _ => ?_
  by_cases hb : u = backslash
  · subst hb
    decide
  · by_cases hcomma : u = comma
    · subst hcomma
      decide
    · by_cases hsemicolon : u = semicolon
      · subst hsemicolon
        decide
      · simp [escapeUnit, hb, hcomma, hsemicolon]

/-- What is read of an escaped text. -/
theorem unescapeText_escapeIcalText {text : JsString} (h : NoBreak text) :
    unescapeText (escapeIcalText text) = trim (spaced text) := by
  have hn : ∀ c ∈ js "nN", c ∉ [comma, semicolon, backslash] := by decide
  have hbackslash : backslash ∈ [comma, semicolon, backslash] := by decide
  have hbreaks := replace_escapedN hbackslash hn text
  unfold isEscapedN at hbreaks
  rw [escapeIcalText_of_noBreak h]
  unfold unescapeText
  dsimp only
  rw [hbreaks, replace_escaped (by decide) (by decide) (by decide),
    replace_escaped (by decide) (by decide) (by decide), replace_backslashes]

/-! ## When nothing is lost -/

theorem spaced_cons {a : Nat} {s : JsString} (h : ∀ b, s.head? = some b → isEscapedN a b = false) :
    spaced (a :: s) = a :: spaced s := replacePairs_skip h

theorem spaced_of_not {text : JsString} (h : ¬ HasEscapedN text) : spaced text = text := by
  induction text using staged_induction with
  | nil => rfl
  | cons a s ha ih =>
    rw [spaced_cons ha, ih fun hs => h (hs.imp (·.trans (List.suffix_cons a s).isInfix) (·.trans (List.suffix_cons a s).isInfix))]
  | pair a b s hab _ =>
    obtain ⟨rfl, hb⟩ := isEscapedN_iff.mp hab
    have hbegins : ∀ c, [backslash, c] <:+: backslash :: c :: s := fun c => (List.prefix_append [backslash, c] s).isInfix
    have hcases : b = 110 ∨ b = 78 := by simpa [js, ofChar] using hb
    rcases hcases with rfl | rfl
    · exact absurd (.inl (hbegins 110)) h
    · exact absurd (.inr (hbegins 78)) h

/-- The n's of a text. -/
def countN (text : JsString) : Nat := text.countP fun u => decide (u ∈ js "nN")

theorem countN_spaced (text : JsString) : countN (spaced text) ≤ countN text := by
  induction text using staged_induction with
  | nil => exact le_rfl
  | cons a s ha ih =>
    rw [spaced_cons ha]
    simp only [countN, List.countP_cons] at ih ⊢
    omega
  | pair a b s hab ih =>
    obtain ⟨rfl, hb⟩ := isEscapedN_iff.mp hab
    have hpair : spaced (backslash :: b :: s) = backslash :: space :: spaced s := replacePairs_match s hab
    rw [hpair]
    simp only [countN, List.countP_cons] at ih ⊢
    have hspace : decide (space ∈ js "nN") = false := by decide
    simp only [hspace, Bool.false_eq_true, if_false]
    omega

/-- An n after a backslash is lost. -/
theorem countN_spaced_lt {text : JsString} (h : HasEscapedN text) : countN (spaced text) < countN text := by
  obtain ⟨b, hb, before, after, rfl⟩ : ∃ b ∈ js "nN", ∃ before after, text = before ++ backslash :: b :: after := by
    rcases h with ⟨before, after, rfl⟩ | ⟨before, after, rfl⟩
    · exact ⟨110, by decide, before, after, by simp [js, ofChar, backslash]⟩
    · exact ⟨78, by decide, before, after, by simp [js, ofChar, backslash]⟩
  have hmatch : isEscapedN backslash b = true := isEscapedN_iff.mpr ⟨rfl, hb⟩
  have hapart : ∀ a, isEscapedN a backslash = false := fun a => isEscaped_eq_false (.inr (by decide))
  have hbefore := countN_spaced before
  have hafter := countN_spaced after
  unfold spaced at hbefore hafter ⊢
  rw [replacePairs_append_match hmatch hapart]
  simp only [countN, List.countP_append, List.countP_cons, List.countP_nil] at hbefore hafter ⊢
  have hspace : decide (space ∈ js "nN") = false := by decide
  have hback : decide (backslash ∈ js "nN") = false := by decide
  have hb' : decide (b ∈ js "nN") = true := decide_eq_true hb
  simp only [hspace, hback, hb', Bool.false_eq_true, if_false, if_true]
  omega

theorem countN_trim (text : JsString) : countN (trim text) ≤ countN text := by
  obtain ⟨before, after, htext, -, -⟩ := trim_parts text
  conv_rhs => rw [htext]
  simp only [countN, List.countP_append]
  omega

/-- A trimmed text without line breaks is read back exactly if it has no n after a backslash. -/
theorem unescape_escape_iff {text : JsString} (h : NoBreak text) (htrim : trim text = text) :
    unescapeText (escapeIcalText text) = text ↔ ¬ HasEscapedN text := by
  rw [unescapeText_escapeIcalText h]
  constructor
  · intro heq hescaped
    have hlost := countN_spaced_lt hescaped
    have hkept := countN_trim (spaced text)
    rw [heq] at hkept
    omega
  · intro hnot
    rw [spaced_of_not hnot, htrim]

end HostPlatform
