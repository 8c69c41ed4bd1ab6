-- SUMMARY: The migration runner: whole files in one transaction, the statement-by-statement pass behind a duplicate-object error, and the ledger (`migrate.ts`).
import HostPlatform.Migrations.SchemaSnapshot
import HostPlatform.Migrations.SplitSqlStatements
import HostPlatform.Lib.Outcome
import Mathlib.Data.List.Dedup

/-!
# The migration runner

A statement of SQL is a transformer of the schema that succeeds or fails with an error.
What a transaction has done stays beside the database until it commits; a connection that
goes back to the pool with its transaction open is counted.
-/

namespace HostPlatform

open Lib (Dictionary JsString js)

/-- An error, with the SQLSTATE or the system's code for it. -/
structure SqlError where
  code : Option JsString
  message : JsString
  deriving DecidableEq, Repr

def duplicateObjectSqlstates : List JsString :=
  [js "42710", js "42701", js "42P07", js "42P06", js "42P16", js "42723"]

/-- `err.code && DUPLICATE_OBJECT_SQLSTATES.has(err.code)`. -/
def SqlError.isDuplicateObject (e : SqlError) : Bool := e.code.any duplicateObjectSqlstates.contains

/-! ## The manifest -/

/-- The columns of a table, of distinct names. -/
abbrev Columns := { columns : List ColumnInfo // (columns.map ColumnInfo.name).Nodup }

structure RawManifestEntry where
  tables : Dictionary JsString Columns
  constraints : Dictionary JsString JsString
  indexes : Dictionary JsString JsString
  functions : Dictionary JsString JsString
  triggers : Dictionary JsString JsString
  extensions : Option (List JsString)

def manifestEntryToSnapshot (entry : RawManifestEntry) : SchemaSnapshot where
  tables := entry.tables.mapMaybe fun name columns => some ⟨name, columns.1, columns.2⟩
  constraints := entry.constraints
  indexes := entry.indexes
  functions := entry.functions
  triggers := entry.triggers
  extensions := (entry.extensions.getD []).reverse.dedup.reverse
  extensionsNodup := List.nodup_reverse.mpr (List.nodup_dedup _)

/-! ## The database -/

/-- What answers the runner while it works on one file. -/
structure MigrationServer (σ : Type) where
  readFile : JsString → Except SqlError JsString
  loadManifest : Except SqlError (Dictionary JsString RawManifestEntry)
  /-- A text sent as one query: a statement, or a whole file up to its first error. -/
  execute : JsString → σ → Except SqlError σ
  captureSchemaSnapshot : σ → Except SqlError SchemaSnapshot
  /-- The insertion of a file into the ledger fails, for another reason than a duplicate. -/
  insertFails : JsString → Option SqlError
  /-- `COMMIT` fails, on a constraint that is checked then; the transaction is over all the same. -/
  commitFails : σ → Option SqlError

structure MigrationDb (σ : Type) where
  schema : σ
  /-- The filenames of `schema_migrations`. -/
  ledger : List JsString
  /-- Each text that was sent, with its file. -/
  executed : List (JsString × JsString)
  /-- The connections that went back to the pool inside a transaction. -/
  openReleases : Nat
  deriving DecidableEq, Repr

variable {σ : Type}

def MigrationDb.send (db : MigrationDb σ) (filename : JsString) (texts : List JsString) : MigrationDb σ :=
  { db with executed := db.executed ++ texts.map (filename, ·) }

/-- The work of a transaction and the ledger's new row, committed. -/
def MigrationDb.record (db : MigrationDb σ) (filename : JsString) (schema : σ) : MigrationDb σ :=
  { db with schema := schema, ledger := if filename ∈ db.ledger then db.ledger else db.ledger ++ [filename] }

def MigrationDb.releaseOpen (db : MigrationDb σ) : MigrationDb σ :=
  { db with openReleases := db.openReleases + 1 }

/-! ## One file -/

/-- The check against the manifest's entry, if there is one. -/
def verification (server : MigrationServer σ) (filename : JsString) (schema : σ) :
    Except SqlError (Option SchemaCheck) := do
  let manifest ← server.loadManifest
  match manifest.lookup filename with
  | none => return none
  | some requiredEntry =>
    let actual ← server.captureSchemaSnapshot schema
    return some (schemaSatisfies actual (manifestEntryToSnapshot requiredEntry))

/-- `missing.join(", ")`. -/
def joinMissing : List JsString → JsString
  | [] => []
  | [m] => m
  | m :: ms => m ++ js ", " ++ joinMissing ms

def missingObjectsError (filename : JsString) (missing : List JsString) : SqlError :=
  ⟨none, filename ++ js ": whole-file run succeeded with no error, but schema verification found genuinely missing objects: "
    ++ joinMissing missing⟩

def ledgerUniqueViolation : SqlError :=
  ⟨some (js "23505"), js "duplicate key value violates unique constraint \"schema_migrations_pkey\""⟩

def orFail : Option SqlError → Except SqlError Unit
  | none => .ok ()
  | some e => .error e

/-- The whole file in one transaction: the schema it commits, or the error that rolls it back. -/
def wholeFile (server : MigrationServer σ) (filename sql : JsString) (db : MigrationDb σ) :
    Except SqlError σ := do
  let schema ← server.execute sql db.schema
  let check ← verification server filename schema
  Lib.require (check.all SchemaCheck.complete)
    (missingObjectsError filename (check.elim [] SchemaCheck.missing))
  Lib.require (filename ∉ db.ledger) ledgerUniqueViolation
  orFail (server.insertFails filename)
  orFail (server.commitFails schema)
  return schema

/-- The statements one at a time, each inside a savepoint: the schema after them and whether
any was applied, unless one failed otherwise than on a duplicate. -/
def statementPass (server : MigrationServer σ) : List JsString → σ → Bool → Option (σ × Bool)
  | [], schema, anyGenuinelyApplied => some (schema, anyGenuinelyApplied)
  | statement :: statements, schema, anyGenuinelyApplied =>
    match server.execute statement schema with
    | .ok schema => statementPass server statements schema true
    | .error e =>
      if e.isDuplicateObject then statementPass server statements schema anyGenuinelyApplied else none

/-- The statements that the pass sends: all, or up to the one that fails. -/
def sentStatements (server : MigrationServer σ) : List JsString → σ → List JsString
  | [], _ => []
  | statement :: statements, schema =>
    match server.execute statement schema with
    | .ok schema => statement :: sentStatements server statements schema
    | .error e =>
      if e.isDuplicateObject then statement :: sentStatements server statements schema else [statement]

inductive StatementOutcome where
  | bootstrapped
  | completed
  | aborted
  deriving DecidableEq, Repr

def verifyOrCompleteStatementByStatement (server : MigrationServer σ) (filename sql : JsString)
    (db : MigrationDb σ) : Except SqlError StatementOutcome × MigrationDb σ :=
  let statements := splitSqlStatements sql
  let db := db.send filename (sentStatements server statements db.schema)
  match statementPass server statements db.schema false with
  | none => (.ok .aborted, db)
  | some (schema, anyGenuinelyApplied) =>
    -- an error from here to the `INSERT` reaches `finally` with no `ROLLBACK` on its way
    match verification server filename schema with
    | .error e => (.error e, db.releaseOpen)
    | .ok check =>
      if !check.all SchemaCheck.complete then (.ok .aborted, db)
      else
        match server.insertFails filename with
        | some e => (.error e, db.releaseOpen)
        | none =>
          match server.commitFails schema with
          | some e => (.error e, db)
          | none =>
            (.ok (if anyGenuinelyApplied then .completed else .bootstrapped), db.record filename schema)

inductive MigrationOutcome where
  | applied
  | skipped
  | bootstrapped
  | completed
  deriving DecidableEq, Repr

def abortedError (filename : JsString) : SqlError :=
  ⟨none, filename ++ js ": could not be safely completed or verified statement-by-statement — a genuine, non-duplicate error occurred partway through. Not recorded as applied."⟩

def StatementOutcome.result (filename : JsString) : StatementOutcome → Except SqlError MigrationOutcome
  | .aborted => .error (abortedError filename)
  | .bootstrapped => .ok .bootstrapped
  | .completed => .ok .completed

/-- A file that is not in the ledger. -/
def runFile (server : MigrationServer σ) (filename : JsString) (db : MigrationDb σ) :
    Except SqlError MigrationOutcome × MigrationDb σ :=
  match server.readFile filename with
  | .error e => (.error e, db)
  | .ok sql =>
    match wholeFile server filename sql db with
    | .ok schema => (.ok .applied, (db.send filename [sql]).record filename schema)
    | .error e =>
      let db := db.send filename [sql]
      if e.isDuplicateObject then
        let pass := verifyOrCompleteStatementByStatement server filename sql db
        (pass.1 >>= StatementOutcome.result filename, pass.2)
      else (.error e, db)

/-! ## The run -/

structure MigrationRunResult where
  filename : JsString
  outcome : MigrationOutcome
  deriving DecidableEq, Repr

/-- The loop, from the `k`-th file on. -/
def runFiles (server : Nat → MigrationServer σ) (applied : List JsString) :
    Nat → List JsString → List MigrationRunResult → MigrationDb σ →
    Except SqlError (List MigrationRunResult) × MigrationDb σ
  | _, [], results, db => (.ok results, db)
  | k, filename :: migrationFiles, results, db =>
    if filename ∈ applied then
      runFiles server applied (k + 1) migrationFiles (results ++ [⟨filename, .skipped⟩]) db
    else
      match runFile (server k) filename db with
      | (.error e, db) => (.error e, db)
      | (.ok outcome, db) =>
        runFiles server applied (k + 1) migrationFiles (results ++ [⟨filename, outcome⟩]) db

/-- `alreadyApplied` is read once, before the first file. -/
def runMigrations (server : Nat → MigrationServer σ) (migrationFiles : List JsString) (db : MigrationDb σ) :
    Except SqlError (List MigrationRunResult) × MigrationDb σ :=
  runFiles server db.ledger 0 migrationFiles [] db

end HostPlatform
