-- SUMMARY: JavaScript strings as lists of UTF-16 code units: trimming, case, replacement, searching, and their lengths in UTF-8 and in characters.
import Mathlib.Data.List.DropRight

/-!
# JavaScript strings

A string is the list of its UTF-16 code units, so that `length` and `slice` count
what JavaScript counts, and an unpaired surrogate is a unit like any other.
-/

namespace Lib

abbrev JsString := List Nat

instance JsString.lawfulBEq : LawfulBEq JsString := inferInstance

namespace JsString

def ofChar (c : Char) : JsString :=
  if c.toNat < 0x10000 then [c.toNat]
  else [0xD800 + (c.toNat - 0x10000) / 0x400, 0xDC00 + (c.toNat - 0x10000) % 0x400]

def cr : Nat := 13
def lf : Nat := 10
def tab : Nat := 9
def space : Nat := 32
def backslash : Nat := 92
def comma : Nat := 44
def colon : Nat := 58
def semicolon : Nat := 59
def dot : Nat := 46
def hyphen : Nat := 45

end JsString

open JsString

/-- The code units of a Lean string: how literals are written. -/
def js (s : String) : JsString := s.toList.flatMap ofChar

namespace JsString

/-! ## White space -/

/-- `WhiteSpace` and `LineTerminator`: what `trim` removes. -/
def isSpace (u : Nat) : Bool :=
  (9 ≤ u && u ≤ 13) || u == 32 || u == 0xA0 || u == 0x1680 || (0x2000 ≤ u && u ≤ 0x200A)
    || u == 0x2028 || u == 0x2029 || u == 0x202F || u == 0x205F || u == 0x3000 || u == 0xFEFF

def trimStart (s : JsString) : JsString := s.dropWhile isSpace

def trimEnd (s : JsString) : JsString := s.rdropWhile isSpace

def trim (s : JsString) : JsString := trimEnd (trimStart s)

theorem trimStart_of_head {u : Nat} {s : JsString} (h : isSpace u = false) :
    trimStart (u :: s) = u :: s := by
  unfold trimStart
  rw [List.dropWhile_cons_of_neg]
  simp [h]

theorem trimEnd_of_last {s : JsString} (h : ∀ u, s.getLast? = some u → isSpace u = false) :
    trimEnd s = s := by
  unfold trimEnd
  rw [List.rdropWhile_eq_self_iff]
  intro hne hspace
  rw [h _ (List.getLast?_eq_some_getLast hne)] at hspace
  cases hspace

/-- The first unit stays if it is no white space. -/
theorem trimEnd_cons {u : Nat} (h : isSpace u = false) (s : JsString) : ∃ t, trimEnd (u :: s) = u :: t := by
  have hfirst : trimEnd (u :: s) <+: u :: s := List.rdropWhile_prefix isSpace _
  cases htrim : trimEnd (u :: s) with
  | nil =>
    have hall := List.rdropWhile_eq_nil_iff.mp htrim u List.mem_cons_self
    rw [h] at hall
    cases hall
  | cons v t =>
    rw [htrim, List.cons_prefix_cons] at hfirst
    exact ⟨t, by rw [hfirst.1]⟩

theorem trimStart_of_all {s : JsString} (h : ∀ u ∈ s, isSpace u = false) : trimStart s = s := by
  cases s with
  | nil => rfl
  | cons u s => exact trimStart_of_head (h u List.mem_cons_self)

theorem trimEnd_of_all {s : JsString} (h : ∀ u ∈ s, isSpace u = false) : trimEnd s = s :=
  trimEnd_of_last fun u hu => h u (List.mem_of_getLast? hu)

/-- A text without white space is trimmed already. -/
theorem trim_of_all {s : JsString} (h : ∀ u ∈ s, isSpace u = false) : trim s = s := by
  unfold trim
  rw [trimStart_of_all h, trimEnd_of_all h]

/-- `trim` takes white space from both ends. -/
theorem trim_parts (s : JsString) : ∃ before after, s = before ++ trim s ++ after ∧
    (∀ u ∈ before, isSpace u = true) ∧ ∀ u ∈ after, isSpace u = true := by
  refine ⟨s.takeWhile isSpace, (trimStart s).rtakeWhile isSpace, ?_, fun _ => List.mem_takeWhile_imp,
    fun _ => List.mem_rtakeWhile_imp⟩
  rw [List.append_assoc, trim, trimEnd, List.rdropWhile_append_rtakeWhile, trimStart,
    List.takeWhile_append_dropWhile]

theorem trim_eq_nil {s : JsString} : trim s = [] ↔ ∀ u ∈ s, isSpace u = true := by
  constructor
  · intro htrim
    obtain ⟨before, after, hs, hbefore, hafter⟩ := trim_parts s
    rw [htrim, List.append_nil] at hs
    rw [hs]
    intro u hu
    exact (List.mem_append.mp hu).elim (hbefore u) (hafter u)
  · intro hall
    rw [trim, trimStart, List.dropWhile_eq_nil_iff.mpr hall]
    rfl

/-! ## Case

Letters outside ASCII are left as they are unless their other case is ASCII: what
is compared below is ASCII, and to it only these are equal. -/

def upperUnit (u : Nat) : JsString :=
  if 97 ≤ u ∧ u ≤ 122 then [u - 32]
  else if u = 0x131 then js "I"
  else if u = 0x17F then js "S"
  else if u = 0xDF then js "SS"
  else if u = 0xFB00 then js "FF"
  else if u = 0xFB01 then js "FI"
  else if u = 0xFB02 then js "FL"
  else if u = 0xFB03 then js "FFI"
  else if u = 0xFB04 then js "FFL"
  else if u = 0xFB05 ∨ u = 0xFB06 then js "ST"
  else [u]

def toUpperCase (s : JsString) : JsString := s.flatMap upperUnit

def lowerUnit (u : Nat) : JsString :=
  if 65 ≤ u ∧ u ≤ 90 then [u + 32]
  else if u = 0x130 then [105, 0x307]
  else if u = 0x212A then [107]
  else [u]

def toLowerCase (s : JsString) : JsString := s.flatMap lowerUnit

/-- The units that stay upper case, and make nothing else upper case. -/
def plainUnit (u : Nat) : Bool := u < 97 || (122 < u && u < 0xDF)

theorem upperUnit_of_plain {u : Nat} (h : plainUnit u = true) : upperUnit u = [u] := by
  unfold plainUnit at h
  simp only [Bool.or_eq_true, Bool.and_eq_true, decide_eq_true_eq] at h
  unfold upperUnit
  repeat rw [if_neg (by omega)]

/-- A first unit that is no letter starts the upper-case text too. -/
theorem toUpperCase_cons_of_plain {u : Nat} (h : plainUnit u = true) (s : JsString) :
    toUpperCase (u :: s) = u :: toUpperCase s := by
  simp only [toUpperCase, List.flatMap_cons, upperUnit_of_plain h, List.singleton_append]

/-! ## Replacing -/

/-- `replace` of every two units that match, from left to right. -/
def replacePairs (isMatch : Nat → Nat → Bool) (out : JsString) : JsString → JsString
  | a :: b :: s =>
    if isMatch a b then out ++ replacePairs isMatch out s
    else a :: replacePairs isMatch out (b :: s)
  | s => s

def isCrLf (a b : Nat) : Bool := a == cr && b == lf

/-- `replace` of every unit `u`. -/
def replaceUnit (u : Nat) (out : JsString) (s : JsString) : JsString :=
  s.flatMap fun v => if v = u then out else [v]

section

variable {isMatch : Nat → Nat → Bool} {out : JsString}

/-- Nothing is replaced in a text without the first unit of a match. -/
theorem replacePairs_of_not_mem {first : Nat} (hfirst : ∀ a b, isMatch a b = true → a = first) :
    ∀ {s : JsString}, first ∉ s → replacePairs isMatch out s = s
  | [], _ => rfl
  | [_], _ => rfl
  | a :: b :: s, h => by
    have hne : isMatch a b = false := by
      cases hm : isMatch a b with
      | false => rfl
      | true => exact absurd (hfirst a b hm ▸ List.mem_cons_self) h
    rw [replacePairs, hne]
    simp only [Bool.false_eq_true, if_false]
    rw [replacePairs_of_not_mem hfirst fun hmem => h (List.mem_cons_of_mem a hmem)]

/-- A match that no match before it can overlap splits the text. -/
theorem replacePairs_append_match {first second : Nat} (hmatch : isMatch first second = true)
    (hapart : ∀ a, isMatch a first = false) (rest : JsString) :
    ∀ s : JsString, replacePairs isMatch out (s ++ first :: second :: rest) =
      replacePairs isMatch out s ++ out ++ replacePairs isMatch out rest
  | [] => by simp [replacePairs, hmatch]
  | [a] => by simp [replacePairs, hmatch, hapart]
  | a :: b :: s => by
    simp only [List.cons_append, replacePairs]
    split
    · simp only [replacePairs_append_match hmatch hapart rest s, List.append_assoc]
    · have ih := replacePairs_append_match hmatch hapart rest (b :: s)
      simp only [List.cons_append] at ih
      rw [ih]
      simp only [List.append_assoc, List.cons_append]

end

theorem mem_replaceUnit {u v : Nat} {out s : JsString} :
    v ∈ replaceUnit u out s ↔ (u ∈ s ∧ v ∈ out) ∨ (v ∈ s ∧ v ≠ u) := by
  simp only [replaceUnit, List.mem_flatMap]
  constructor
  · rintro ⟨w, hw, hv⟩
    split at hv
    · rename_i hwu
      exact .inl ⟨hwu ▸ hw, hv⟩
    · rename_i hwu
      rw [List.mem_singleton] at hv
      exact .inr ⟨hv ▸ hw, hv ▸ hwu⟩
  · rintro (⟨hu, hv⟩ | ⟨hv, hne⟩)
    · exact ⟨u, hu, by rw [if_pos rfl]; exact hv⟩
    · exact ⟨v, hv, by rw [if_neg hne]; exact List.mem_singleton.mpr rfl⟩

theorem replaceUnit_of_not_mem {u : Nat} {out s : JsString} (h : u ∉ s) : replaceUnit u out s = s := by
  unfold replaceUnit
  have hkeep : ∀ v ∈ s, (if v = u then out else [v]) = [v] := by
    intro v hv
    exact if_neg fun heq : v = u => h (heq ▸ hv)
  rw [List.flatMap_congr hkeep, List.flatMap_singleton']

/-! ## Lengths and encodings -/

def isHighSurrogate (u : Nat) : Bool := 0xD800 ≤ u && u ≤ 0xDBFF

def isLowSurrogate (u : Nat) : Bool := 0xDC00 ≤ u && u ≤ 0xDFFF

/-- Bytes of a unit on its own; an unpaired surrogate is encoded as U+FFFD. -/
def unitBytes (u : Nat) : Nat := if u < 0x80 then 1 else if u < 0x800 then 2 else 3

/-- `Buffer.byteLength(s, "utf8")`. -/
def utf8Length : JsString → Nat
  | a :: b :: s =>
    if isHighSurrogate a && isLowSurrogate b then 4 + utf8Length s
    else unitBytes a + utf8Length (b :: s)
  | [a] => unitBytes a
  | [] => 0

/-- The string as UTF-8 carries it: unpaired surrogates become U+FFFD. -/
def toWellFormed : JsString → JsString
  | a :: b :: s =>
    if isHighSurrogate a && isLowSurrogate b then a :: b :: toWellFormed s
    else (if isHighSurrogate a || isLowSurrogate a then 0xFFFD else a) :: toWellFormed (b :: s)
  | [a] => [if isHighSurrogate a || isLowSurrogate a then 0xFFFD else a]
  | [] => []

/-- `char_length`: a surrogate pair is one character. -/
def charLength : JsString → Nat
  | a :: b :: s =>
    if isHighSurrogate a && isLowSurrogate b then 1 + charLength s else 1 + charLength (b :: s)
  | [_] => 1
  | [] => 0

/-! ## Digits -/

def isDigit (u : Nat) : Bool := 48 ≤ u && u ≤ 57

def isHexDigit (u : Nat) : Bool := isDigit u || (97 ≤ u && u ≤ 102) || (65 ≤ u && u ≤ 70)

def digit (n : Nat) : Nat := 48 + n % 10

/-- The number a text of digits spells. -/
def digitsValue (s : JsString) : Nat := s.foldl (fun n u => n * 10 + (u - 48)) 0

theorem isDigit_digit (n : Nat) : isDigit (digit n) = true := by
  unfold isDigit digit
  simp only [Bool.and_eq_true, decide_eq_true_eq]
  omega

end JsString

end Lib
