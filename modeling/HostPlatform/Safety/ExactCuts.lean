-- SUMMARY: Where the splitter cuts a text exactly at the semicolons that PostgreSQL sees, and the tokens that it misreads.
import HostPlatform.Migrations.TokenReading

/-!
# Exact cuts

The splitter cuts a lexically complete text where the server's lexer has its semicolons if
it reads every token alike: by induction on the tokens, it is outside strings after each.
It does not know of quoted identifiers, backslash escapes, digits in dollar tags, nested
comments and carriage returns at the end of a comment.
-/

namespace HostPlatform

open Lib (JsString js)

namespace Postgres

/-- The splitter reads every token as the server does. -/
def readAlike : List Token → Bool
  | [] => true
  | t :: ts => t.readAlike (ts.flatMap Token.text) && readAlike ts

theorem tokensFrom_cons {n : Nat} {e : EscapeState} {ch : Nat} {rest : JsString} {ts : List Token}
    (h : tokensFrom (n + 1) e (ch :: rest) = some ts) : ∃ t left later,
      nextToken e ch rest = some (t, left) ∧ tokensFrom n (e.after t) left = some later ∧ ts = t :: later := by
  rw [tokensFrom] at h
  cases hnext : nextToken e ch rest with
  | none => simp [hnext] at h
  | some next =>
    obtain ⟨t, left⟩ := next
    simp only [hnext, Option.bind_eq_bind, Option.bind_some, Option.bind_eq_some_iff, Option.pure_def,
      Option.some.injEq] at h
    obtain ⟨later, hlater, rfl⟩ := h
    exact ⟨t, left, later, rfl, hlater, rfl⟩

theorem tokensFrom_text {n : Nat} {e : EscapeState} {sql : JsString} {ts : List Token}
    (h : tokensFrom n e sql = some ts) : ts.flatMap Token.text = sql := by
  induction n generalizing e sql ts with
  | zero =>
    cases sql with
    | nil =>
      cases h
      rfl
    | cons => cases h
  | succ n ih =>
    cases sql with
    | nil =>
      cases h
      rfl
    | cons ch rest =>
      obtain ⟨t, left, later, hnext, hlater, rfl⟩ := tokensFrom_cons h
      rw [List.flatMap_cons, ih hlater, ← (nextToken_lexes hnext).text]

end Postgres

/-- Outside strings at the start of a token, the splitter goes on to cut as the server does. -/
theorem splitRun_tokensFrom {n : Nat} {e : Postgres.EscapeState} {sql : JsString} {ts : List Postgres.Token}
    (h : Postgres.tokensFrom n e sql = some ts) (hread : Postgres.readAlike ts = true)
    (statements : List JsString) (current : JsString) :
    (splitRun (.outside statements current) sql).statements
        ++ [Lib.JsString.trim (splitRun (.outside statements current) sql).current] =
      statements ++ (Postgres.cutAtSemicolons current ts).map Lib.JsString.trim := by
  induction n generalizing e sql ts statements current with
  | zero =>
    cases sql with
    | nil =>
      cases h
      rfl
    | cons => cases h
  | succ n ih =>
    cases sql with
    | nil =>
      cases h
      rfl
    | cons ch rest =>
      obtain ⟨t, left, later, hnext, hlater, rfl⟩ := Postgres.tokensFrom_cons h
      simp only [Postgres.readAlike, Postgres.tokensFrom_text hlater, Bool.and_eq_true] at hread
      rw [(Postgres.nextToken_lexes hnext).splitRun hread.1, Postgres.cutAtSemicolons]
      split
      · rw [ih hlater hread.2, List.map_cons, List.append_assoc]
        rfl
      · rw [ih hlater hread.2]

/-- The statements are the pieces up to each semicolon that the server sees; a last piece
without code is no statement. -/
def CutExactly (sql : JsString) (ts : List Postgres.Token) : Prop :=
  splitSqlStatements sql = ((Postgres.cutAtSemicolons [] ts).map Lib.JsString.trim).filter hasCode

instance (sql : JsString) (ts : List Postgres.Token) : Decidable (CutExactly sql ts) :=
  inferInstanceAs (Decidable (_ = _))

/-- A text whose tokens are all read alike is cut at its semicolons and nowhere else. -/
theorem splitSqlStatements_exact {sql : JsString} {ts : List Postgres.Token}
    (hcomplete : Postgres.tokens sql = some ts) (hread : Postgres.readAlike ts = true) :
    CutExactly sql ts := by
  rw [CutExactly, splitSqlStatements_eq]
  exact congrArg (List.filter hasCode) (splitRun_tokensFrom hcomplete hread [] [])

theorem functionBody_cut :
    CutExactly (js "DO $$ BEGIN; END $$; SELECT E'\\n;' /* ; */, ';' -- ;\n")
      ((Postgres.tokens (js "DO $$ BEGIN; END $$; SELECT E'\\n;' /* ; */, ';' -- ;\n")).getD []) :=
  splitSqlStatements_exact (by decide +kernel) (by decide +kernel)

/-- The server reads the script, and the splitter does not cut it where the server does. -/
def Miscut (sql : JsString) : Prop := ∃ ts, Postgres.tokens sql = some ts ∧ ¬ CutExactly sql ts

theorem miscut_of_tokens {sql : JsString} (hread : Postgres.tokens sql = some ((Postgres.tokens sql).getD []))
    (hcut : ¬ CutExactly sql ((Postgres.tokens sql).getD [])) : Miscut sql :=
  ⟨_, hread, hcut⟩

/-- A digit in a dollar tag, a quoted identifier, a backslash before a quote, a nested
comment, a carriage return that ends a comment. -/
theorem misread_cut : Miscut (js "DO $v2$ BEGIN; END $v2$;") ∧ Miscut (js "SELECT \"a;b\";") ∧
    Miscut (js "SELECT E'\\';';") ∧ Miscut (js "/* /* */ ; */ SELECT 1;") ∧ Miscut (js "SELECT 1 -- a\r; SELECT 2") := by
  refine ⟨miscut_of_tokens ?_ ?_, miscut_of_tokens ?_ ?_, miscut_of_tokens ?_ ?_, miscut_of_tokens ?_ ?_,
    miscut_of_tokens ?_ ?_⟩ <;> decide +kernel

end HostPlatform
