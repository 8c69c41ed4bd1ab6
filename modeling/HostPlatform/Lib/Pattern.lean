-- SUMMARY: Patterns of literal units, runs of white space and word boundaries, and the replacement of every match.
import HostPlatform.Lib.JsString

/-!
# Patterns

The regular expressions without alternation whose matches need no backtracking: a
sequence of literal units, in either case of ASCII letters, of `\s+` and of `\b`. What
follows `\s+` in a pattern is never white space, so that taking the whole run is right.
-/

namespace Lib

inductive PatternItem where
  /-- A literal unit, under the flag `i`. -/
  | unit (u : Nat)
  /-- `\s+`. -/
  | spaces
  /-- `\b`. -/
  | boundary
  deriving DecidableEq, Repr

abbrev Pattern := List PatternItem

namespace Pattern

open JsString

/-- The units of a literal part. -/
def lit (s : String) : Pattern := (js s).map .unit

/-- `Canonicalize` with the flag `i`: an ASCII letter is matched by itself in either case,
and by nothing outside ASCII. -/
def foldUnit (u : Nat) : Nat := if 97 ≤ u ∧ u ≤ 122 then u - 32 else u

/-- `WordCharacters`. -/
def isWord (u : Nat) : Bool :=
  isDigit u || (65 ≤ u && u ≤ 90) || (97 ≤ u && u ≤ 122) || u == 95

/-- `\b` between the last unit, if any, and the text that follows. -/
def atBoundary (prev : Option Nat) (s : JsString) : Bool := prev.any isWord != s.head?.any isWord

/-- What follows a match at the start of the text, and the last unit of the match. -/
def matchAt : Pattern → Option Nat → JsString → Option (Option Nat × JsString)
  | [], prev, s => some (prev, s)
  | .unit _ :: _, _, [] => none
  | .unit v :: p, _, u :: s => if foldUnit u = foldUnit v then matchAt p (some u) s else none
  | .spaces :: _, _, [] => none
  | .spaces :: p, _, u :: s =>
    if isSpace u then matchAt p (some u) (s.dropWhile isSpace) else none
  | .boundary :: p, prev, s => if atBoundary prev s then matchAt p prev s else none

/-- `replace` with the flag `g`, from a position on, with fuel for each unit. -/
def replaceFrom (p : Pattern) (out : JsString) : Nat → Option Nat → JsString → JsString
  | 0, _, s => s
  | _ + 1, _, [] => []
  | n + 1, prev, u :: s =>
    match p.matchAt prev (u :: s) with
    | some (prev', rest) => out ++ replaceFrom p out n prev' rest
    | none => u :: replaceFrom p out n (some u) s

/-- Every match is replaced, from left to right. -/
def replaceAll (p : Pattern) (out s : JsString) : JsString := replaceFrom p out s.length none s

end Pattern

end Lib
