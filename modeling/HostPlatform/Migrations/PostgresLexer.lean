-- SUMMARY: The lexical rules of PostgreSQL that decide where a statement ends: strings, identifiers, dollar quotes and comments.
import HostPlatform.Migrations.SplitSqlStatements

/-!
# PostgreSQL's tokens

What the server's lexer makes of a text, as far as semicolons are concerned. A quote is
doubled to stand for itself; after `E` a backslash escapes the next unit, also in the
continuation of the string on another line; block comments nest; a dollar quote ends at
its own delimiter; a `$` inside an identifier belongs to it.
-/

namespace HostPlatform

open Lib (JsString js)
open Lib.JsString (lf cr hyphen semicolon backslash)

namespace Postgres

def doubleQuote : Nat := 34

/-- `space`. -/
def isSpace (u : Nat) : Bool := u == 32 || (9 ≤ u && u ≤ 13)

/-- `newline`. -/
def isNewline (u : Nat) : Bool := u == lf || u == cr

/-- `ident_start`. -/
def isIdentStart (u : Nat) : Bool :=
  (65 ≤ u && u ≤ 90) || (97 ≤ u && u ≤ 122) || u == 95 || 128 ≤ u

/-- `dolq_cont`: a tag has no `$` in it. -/
def isTagCont (u : Nat) : Bool := isIdentStart u || Lib.JsString.isDigit u

/-- `ident_cont`. -/
def isIdentCont (u : Nat) : Bool := isTagCont u || u == dollar

/-! ## The ends of tokens

Each function takes the text after an opening and returns the units up to the end of the
token, and what follows. `none`: the token is not closed. -/

def prepend (t : JsString) (r : JsString × JsString) : JsString × JsString := (t ++ r.1, r.2)

/-- Up to a quote that is not doubled. -/
def quotedEnd (quote : Nat) : JsString → Option (JsString × JsString)
  | [] => none
  | [u] => if u = quote then some ([u], []) else none
  | u :: v :: s =>
    if u = quote then
      if v = quote then (quotedEnd quote s).map (prepend [u, v]) else some ([u], v :: s)
    else (quotedEnd quote (v :: s)).map (prepend [u])

/-- Up to a quote that is neither doubled nor escaped by a backslash. -/
def escapedEnd : JsString → Option (JsString × JsString)
  | [] => none
  | [u] => if u = singleQuote then some ([u], []) else none
  | u :: v :: s =>
    if u = backslash then (escapedEnd s).map (prepend [u, v])
    else if u = singleQuote then
      if v = singleQuote then (escapedEnd s).map (prepend [u, v]) else some ([u], v :: s)
    else (escapedEnd (v :: s)).map (prepend [u])

/-- Up to the `*/` that closes as many comments as are open. -/
def commentEnd : Nat → JsString → Option (JsString × JsString)
  | depth, a :: b :: s =>
    if a = asterisk ∧ b = slash then
      match depth with
      | 0 => some ([a, b], s)
      | depth + 1 => (commentEnd depth s).map (prepend [a, b])
    else if a = slash ∧ b = asterisk then (commentEnd (depth + 1) s).map (prepend [a, b])
    else (commentEnd depth (b :: s)).map (prepend [a])
  | _, _ => none

/-- Up to the next occurrence of the delimiter. -/
def dollarEnd (delimiter : JsString) : JsString → Option (JsString × JsString)
  | [] => if delimiter.isPrefixOf [] then some ([], []) else none
  | u :: s =>
    if delimiter.isPrefixOf (u :: s) then some (delimiter, (u :: s).drop delimiter.length)
    else (dollarEnd delimiter s).map (prepend [u])

/-- `dolqdelim` at the start of the text. -/
def dollarDelimiter : JsString → Option JsString
  | [] => none
  | u :: s =>
    let tag := s.takeWhile isTagCont
    if u = dollar ∧ tag.head?.all isIdentStart ∧ (s.dropWhile isTagCont).head? = some dollar then
      some (dollar :: (tag ++ [dollar]))
    else none

/-! ## Tokens -/

inductive TokenKind where
  | word
  | string
  | escapeString
  | identifier
  | dollarString (delimiter : JsString)
  | lineComment
  | blockComment
  | semicolon
  /-- White space, or a unit that no other rule takes. -/
  | other
  deriving DecidableEq, Repr

structure Token where
  kind : TokenKind
  text : JsString
  deriving DecidableEq, Repr

/-- Whether a quote at this point starts an escape string. -/
inductive EscapeState where
  | off
  /-- The last token is the word `E`. -/
  | armed
  /-- Only white space and comments since an escape string, with a newline or not. -/
  | continuing (newline : Bool)
  deriving DecidableEq, Repr

def EscapeState.escapes : EscapeState → Bool
  | .off => false
  | .armed => true
  | .continuing newline => newline

def EscapeState.after (e : EscapeState) (t : Token) : EscapeState :=
  match t.kind with
  | .word => if t.text = js "E" ∨ t.text = js "e" then .armed else .off
  | .escapeString => .continuing false
  | .lineComment =>
    match e with
    | .continuing newline => .continuing newline
    | _ => .off
  | .other =>
    match e with
    | .continuing newline =>
      if t.text.all isSpace then .continuing (newline || t.text.any isNewline) else .off
    | _ => .off
  | _ => .off

/-- The token at the start of a text, and what follows. -/
def nextToken (e : EscapeState) (ch : Nat) (rest : JsString) : Option (Token × JsString) :=
  let sql := ch :: rest
  let token (kind : TokenKind) (opening : JsString) (r : JsString × JsString) : Token × JsString :=
    (⟨kind, opening ++ r.1⟩, r.2)
  if ch = singleQuote then
    if e.escapes then (escapedEnd rest).map (token .escapeString [ch])
    else (quotedEnd singleQuote rest).map (token .string [ch])
  else if ch = doubleQuote then (quotedEnd doubleQuote rest).map (token .identifier [ch])
  else if ch = hyphen ∧ rest.head? = some hyphen then
    some (⟨.lineComment, sql.takeWhile fun u => !isNewline u⟩, sql.dropWhile fun u => !isNewline u)
  else if ch = slash ∧ rest.head? = some asterisk then
    (commentEnd 0 rest.tail).map (token .blockComment [slash, asterisk])
  else if ch = semicolon then some (⟨.semicolon, [ch]⟩, rest)
  else if isIdentStart ch then
    some (⟨.word, sql.takeWhile isIdentCont⟩, sql.dropWhile isIdentCont)
  else
    match dollarDelimiter sql with
    | some delimiter =>
      (dollarEnd delimiter (sql.drop delimiter.length)).map (token (.dollarString delimiter) delimiter)
    | none => some (⟨.other, [ch]⟩, rest)

/-- The tokens of a text, with fuel for each unit. `none`: it is not lexically complete. -/
def tokensFrom : Nat → EscapeState → JsString → Option (List Token)
  | _, _, [] => some []
  | 0, _, _ :: _ => none
  | n + 1, e, ch :: rest => do
    let (t, rest) ← nextToken e ch rest
    let ts ← tokensFrom n (e.after t) rest
    return t :: ts

def tokens (sql : JsString) : Option (List Token) := tokensFrom sql.length .off sql

/-- The text of the tokens, cut after every semicolon. -/
def cutAtSemicolons (current : JsString) : List Token → List JsString
  | [] => [current]
  | t :: ts =>
    if t.kind = .semicolon then (current ++ t.text) :: cutAtSemicolons [] ts
    else cutAtSemicolons (current ++ t.text) ts

end Postgres

end HostPlatform
