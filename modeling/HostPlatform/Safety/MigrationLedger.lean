-- SUMMARY: The migration ledger says what the schema holds, run after run, where no error leaves the statement-by-statement pass with its transaction open.
import HostPlatform.Migrations.Migrate

/-!
# The migration ledger

A file either commits its schema and its row of the ledger together, verified against the
manifest, or leaves both as they were. The run follows file by file. What can go wrong is
the connection of the statement-by-statement pass: an error after its statements reaches
the pool without a `ROLLBACK`.
-/

namespace HostPlatform

open Lib (Dictionary JsString js)

variable {σ : Type}

/-! ## One file -/

/-- The manifest's entry for the file, if there is one, is satisfied. -/
def Verified (server : MigrationServer σ) (filename : JsString) (schema : σ) : Prop :=
  ∀ manifest entry, server.loadManifest = .ok manifest → manifest.lookup filename = some entry →
    ∃ actual, server.captureSchemaSnapshot schema = .ok actual ∧
      (schemaSatisfies actual (manifestEntryToSnapshot entry)).complete = true

/-- Behind a duplicate-object error of the whole file and a pass over all its statements,
neither the verification nor the insertion into the ledger throws. -/
def SlowPathCloses (server : MigrationServer σ) (filename : JsString) (db : MigrationDb σ) : Prop :=
  ∀ sql e schema anyGenuinelyApplied, server.readFile filename = .ok sql →
    wholeFile server filename sql db = .error e → e.isDuplicateObject = true →
    statementPass server (splitSqlStatements sql) db.schema false = some (schema, anyGenuinelyApplied) →
    ∃ check, verification server filename schema = .ok check ∧
      (check.all SchemaCheck.complete = true → server.insertFails filename = none)

theorem verified_of_verification {server : MigrationServer σ} {filename : JsString} {schema : σ}
    {check : Option SchemaCheck} (h : verification server filename schema = .ok check)
    (hcheck : check.all SchemaCheck.complete = true) : Verified server filename schema := by
  intro manifest entry hmanifest hentry
  obtain ⟨manifest', hmanifest', h⟩ := Lib.bind_eq_ok.mp h
  obtain rfl : manifest' = manifest := Except.ok.inj (hmanifest'.symm.trans hmanifest)
  rw [hentry] at h
  obtain ⟨actual, hactual, h⟩ := Lib.bind_eq_ok.mp h
  cases h
  exact ⟨actual, hactual, hcheck⟩

theorem wholeFile_verified {server : MigrationServer σ} {filename sql : JsString} {db : MigrationDb σ}
    {schema : σ} (h : wholeFile server filename sql db = .ok schema) :
    Verified server filename schema := by
  simp only [wholeFile, Lib.bind_eq_ok, Lib.require_eq_ok] at h
  obtain ⟨schema', -, check, hcheck, -, hcomplete, -, -, -, -, -, -, h⟩ := h
  obtain rfl : schema' = schema := Except.ok.inj h
  exact verified_of_verification hcheck hcomplete

/-- What a file does to the database. -/
inductive FileStep (server : MigrationServer σ) (filename : JsString) (db : MigrationDb σ) :
    Except SqlError MigrationOutcome → MigrationDb σ → Prop where
  | recorded {outcome : MigrationOutcome} {schema : σ} {texts : List JsString}
      (closes : SlowPathCloses server filename db) (verified : Verified server filename schema) :
      FileStep server filename db (.ok outcome) ((db.send filename texts).record filename schema)
  | failed {e : SqlError} {texts : List JsString} (closes : SlowPathCloses server filename db) :
      FileStep server filename db (.error e) (db.send filename texts)
  | releasedOpen {e : SqlError} {texts : List JsString} (opens : ¬ SlowPathCloses server filename db) :
      FileStep server filename db (.error e) (db.send filename texts).releaseOpen

@[simp] theorem MigrationDb.send_send (db : MigrationDb σ) (filename : JsString) (texts texts' : List JsString) :
    (db.send filename texts).send filename texts' = db.send filename (texts ++ texts') := by
  simp [send]

section

variable {server : MigrationServer σ} {filename sql : JsString} {db : MigrationDb σ} {e : SqlError}
  (hread : server.readFile filename = .ok sql) (hwhole : wholeFile server filename sql db = .error e)
  (hdup : e.isDuplicateObject = true)

include hread hwhole hdup

theorem slowPathCloses_iff : SlowPathCloses server filename db ↔ ∀ schema anyGenuinelyApplied,
    statementPass server (splitSqlStatements sql) db.schema false = some (schema, anyGenuinelyApplied) →
    ∃ check, verification server filename schema = .ok check ∧
      (check.all SchemaCheck.complete = true → server.insertFails filename = none) := by
  refine ⟨fun h schema any hpass => h sql e schema any hread hwhole hdup hpass, ?_⟩
  intro h sql' _ schema any hread' _ _ hpass
  obtain rfl : sql = sql' := Except.ok.inj (hread.symm.trans hread')
  exact h schema any hpass

/-- The pass behind the error of the whole file. -/
theorem verifyOrComplete_step :
    let pass := verifyOrCompleteStatementByStatement server filename sql (db.send filename [sql])
    FileStep server filename db (pass.1 >>= StatementOutcome.result filename) pass.2 := by
  have hiff := slowPathCloses_iff hread hwhole hdup
  unfold verifyOrCompleteStatementByStatement
  dsimp only
  rw [MigrationDb.send_send]
  split
  case h_1 hpass =>
    have hnone : statementPass server (splitSqlStatements sql) db.schema false = none := hpass
    exact .failed (hiff.mpr fun schema any hsome => by simp [hnone] at hsome)
  case h_2 schema any hpass =>
    -- the pass is over, and what follows decides whether the connection is closed
    have hdone : statementPass server (splitSqlStatements sql) db.schema false = some (schema, any) := hpass
    have hcloses : SlowPathCloses server filename db ↔ ∃ check, verification server filename schema = .ok check ∧
        (check.all SchemaCheck.complete = true → server.insertFails filename = none) := by
      rw [hiff]
      simp [hdone]
    split
    case h_1 e' hverify =>
      exact .releasedOpen (by simp [hcloses, hverify])
    case h_2 check hverify =>
      split
      case isTrue hcheck =>
        exact .failed (hcloses.mpr ⟨check, hverify, fun hall => by simp [hall] at hcheck⟩)
      case isFalse hcheck =>
        have hcomplete : check.all SchemaCheck.complete = true := by simpa using hcheck
        split
        case h_1 e' hinsert =>
          refine .releasedOpen fun h => ?_
          obtain ⟨check', hcheck', hno⟩ := hcloses.mp h
          obtain rfl : check = check' := Except.ok.inj (hverify.symm.trans hcheck')
          rw [hno hcomplete] at hinsert
          cases hinsert
        case h_2 hinsert =>
          have hclosed := hcloses.mpr ⟨check, hverify, fun _ => hinsert⟩
          split
          case h_1 e' hcommit => exact .failed hclosed
          case h_2 hcommit =>
            have hverified := verified_of_verification hverify hcomplete
            cases any with
            | true => exact .recorded hclosed hverified
            | false => exact .recorded hclosed hverified

end

theorem runFile_step (server : MigrationServer σ) (filename : JsString) (db : MigrationDb σ) :
    FileStep server filename db (runFile server filename db).1 (runFile server filename db).2 := by
  unfold runFile
  split
  case h_1 e hread =>
    have hclosed : SlowPathCloses server filename db := fun sql _ _ _ hsql => by
      rw [hread] at hsql
      cases hsql
    simpa [MigrationDb.send] using @FileStep.failed _ _ _ _ e [] hclosed
  case h_2 sql hsql =>
    split
    case h_1 schema hwhole =>
      refine .recorded ?_ (wholeFile_verified hwhole)
      intro sql' _ _ _ hsql' hfails
      obtain rfl : sql = sql' := Except.ok.inj (hsql.symm.trans hsql')
      rw [hwhole] at hfails
      cases hfails
    case h_2 e hwhole =>
      dsimp only
      split
      case isFalse hdup =>
        refine .failed ?_
        intro sql' e' _ _ hsql' hfails hdup'
        obtain rfl : sql = sql' := Except.ok.inj (hsql.symm.trans hsql')
        obtain rfl : e = e' := Except.error.inj (hwhole.symm.trans hfails)
        exact absurd hdup' hdup
      case isTrue hdup => exact verifyOrComplete_step hsql hwhole hdup

theorem MigrationDb.mem_record {db : MigrationDb σ} {filename g : JsString} {schema : σ} :
    g ∈ (db.record filename schema).ledger ↔ g ∈ db.ledger ∨ g = filename := by
  unfold record
  dsimp only
  split
  case isTrue hmem =>
    refine ⟨.inl, ?_⟩
    rintro (hg | rfl)
    · exact hg
    · exact hmem
  case isFalse => rw [List.mem_append, List.mem_singleton]

theorem FileStep.ok {server : MigrationServer σ} {filename : JsString} {db after : MigrationDb σ}
    {outcome : MigrationOutcome} (h : FileStep server filename db (.ok outcome) after) :
    (∀ g, g ∈ after.ledger ↔ g ∈ db.ledger ∨ g = filename) ∧ after.openReleases = db.openReleases ∧
      Verified server filename after.schema := by
  cases h with
  | recorded closes verified => exact ⟨fun g => MigrationDb.mem_record, rfl, verified⟩

theorem FileStep.closes {server : MigrationServer σ} {filename : JsString} {db after : MigrationDb σ}
    {outcome : MigrationOutcome} (h : FileStep server filename db (.ok outcome) after) :
    SlowPathCloses server filename db := by
  cases h with
  | recorded closes verified => exact closes

theorem FileStep.error {server : MigrationServer σ} {filename : JsString} {db after : MigrationDb σ}
    {e : SqlError} (h : FileStep server filename db (.error e) after) :
    after.ledger = db.ledger ∧ after.schema = db.schema ∧
      (after.openReleases = db.openReleases ↔ SlowPathCloses server filename db) := by
  cases h with
  | failed closes => exact ⟨rfl, rfl, fun _ => closes, fun _ => rfl⟩
  | releasedOpen opens =>
    exact ⟨rfl, rfl, fun heq => absurd heq (Nat.succ_ne_self _), fun closes => absurd closes opens⟩

theorem FileStep.executed {server : MigrationServer σ} {filename : JsString} {db after : MigrationDb σ}
    {result : Except SqlError MigrationOutcome} (h : FileStep server filename db result after) :
    ∀ p ∈ after.executed, p ∈ db.executed ∨ p.1 = filename := by
  have hsend : ∀ texts, ∀ p ∈ (db.send filename texts).executed, p ∈ db.executed ∨ p.1 = filename := by
    intro texts p hp
    refine (List.mem_append.mp hp).imp_right fun hp => ?_
    obtain ⟨text, -, rfl⟩ := List.mem_map.mp hp
    rfl
  cases h with
  | recorded => exact hsend _
  | failed => exact hsend _
  | releasedOpen => exact hsend _

/-! ## The run -/

section

variable {server : Nat → MigrationServer σ} {applied : List JsString}

/-- The run over the first files, then over the rest. -/
theorem runFiles_append {k : Nat} {pre post : List JsString} {results : List MigrationRunResult}
    {db : MigrationDb σ} :
    runFiles server applied k (pre ++ post) results db =
      match runFiles server applied k pre results db with
      | (.error e, db) => (.error e, db)
      | (.ok results, db) => runFiles server applied (k + pre.length) post results db := by
  induction pre generalizing k results db with
  | nil => rfl
  | cons filename pre ih =>
    simp only [List.cons_append, runFiles, List.length_cons]
    split
    · rw [ih, Nat.add_right_comm, Nat.add_assoc]
    · split
      · rfl
      · rw [ih, Nat.add_right_comm, Nat.add_assoc]

/-- A run goes through all the files, or stops at one with what that file does. -/
theorem runFiles_cases {k : Nat} {files : List JsString} {results : List MigrationRunResult}
    {db : MigrationDb σ} :
    (∃ results' after, runFiles server applied k files results db = (.ok results', after)) ∨
      ∃ pre f post results' before e after, files = pre ++ f :: post ∧
        runFiles server applied k pre results db = (.ok results', before) ∧ f ∉ applied ∧
        runFile (server (k + pre.length)) f before = (.error e, after) ∧
        runFiles server applied k files results db = (.error e, after) := by
  induction files generalizing k results db with
  | nil => exact .inl ⟨results, db, rfl⟩
  | cons filename files ih =>
    -- a first file that does not stop the run
    have hgoesOn : ∀ results' db', (∀ files, runFiles server applied k (filename :: files) results db =
        runFiles server applied (k + 1) files results' db') →
        (∃ results' after, runFiles server applied k (filename :: files) results db = (.ok results', after)) ∨
        ∃ pre f post results' before e after, filename :: files = pre ++ f :: post ∧
          runFiles server applied k pre results db = (.ok results', before) ∧ f ∉ applied ∧
          runFile (server (k + pre.length)) f before = (.error e, after) ∧
          runFiles server applied k (filename :: files) results db = (.error e, after) := by
      intro results' db' hfirst
      rw [hfirst]
      refine (@ih (k + 1) results' db').imp_right ?_
      rintro ⟨pre, f, post, results'', before, e, after, rfl, hpre, hf, hstep, hrun⟩
      refine ⟨filename :: pre, f, post, results'', before, e, after, rfl, (hfirst pre).trans hpre, hf, ?_, hrun⟩
      rwa [List.length_cons, Nat.add_comm pre.length, ← Nat.add_assoc]
    by_cases hmem : filename ∈ applied
    · exact hgoesOn _ _ fun files => if_pos hmem
    cases hstep : runFile (server k) filename db with
    | mk result after =>
      cases result with
      | error e =>
        refine .inr ⟨[], filename, files, results, db, e, after, rfl, rfl, hmem, hstep, ?_⟩
        simp only [runFiles, hmem, if_false, hstep]
      | ok outcome =>
        refine hgoesOn (results ++ [⟨filename, outcome⟩]) after fun files => ?_
        simp only [runFiles, hmem, if_false, hstep]

/-- Along a run that goes through, the ledger grows by the files. -/
theorem runFiles_ok {k : Nat} {files : List JsString} {results results' : List MigrationRunResult}
    {db after : MigrationDb σ} (happlied : ∀ g ∈ applied, g ∈ db.ledger)
    (hrun : runFiles server applied k files results db = (.ok results', after)) :
    (∀ g, g ∈ after.ledger ↔ g ∈ db.ledger ∨ g ∈ files) ∧ after.openReleases = db.openReleases := by
  induction files generalizing k results db with
  | nil =>
    cases hrun
    simp
  | cons filename files ih =>
    simp only [runFiles] at hrun
    split at hrun
    case isTrue hmem =>
      obtain ⟨hledger, hopen⟩ := ih happlied hrun
      refine ⟨fun g => ?_, hopen⟩
      rw [hledger, List.mem_cons]
      constructor
      · exact Or.imp_right .inr
      · rintro (hg | rfl | hg)
        · exact .inl hg
        · exact .inl (happlied _ hmem)
        · exact .inr hg
    case isFalse hmem =>
      split at hrun
      case h_1 => cases hrun
      case h_2 outcome mid hfile =>
        have hstep := runFile_step (server k) filename db
        rw [hfile] at hstep
        obtain ⟨hmid, hopenMid, -⟩ := hstep.ok
        obtain ⟨hledger, hopen⟩ := ih (fun g hg => (hmid g).mpr (.inl (happlied g hg))) hrun
        refine ⟨fun g => ?_, hopen.trans hopenMid⟩
        rw [hledger, hmid, List.mem_cons, or_assoc]

/-- A run sends statements of files that were not recorded, and of no other. -/
theorem runFiles_executed {k : Nat} {files : List JsString} {results : List MigrationRunResult}
    {db : MigrationDb σ} :
    ∀ p ∈ (runFiles server applied k files results db).2.executed, p ∈ db.executed ∨ p.1 ∉ applied := by
  induction files generalizing k results db with
  | nil => exact fun p hp => .inl hp
  | cons filename files ih =>
    simp only [runFiles]
    split
    case isTrue => exact ih
    case isFalse hmem =>
      have hstep := (runFile_step (server k) filename db).executed
      split
      case h_1 e after hfile =>
        rw [hfile] at hstep
        exact fun p hp => (hstep p hp).imp_right fun heq => by rwa [heq]
      case h_2 outcome mid hfile =>
        rw [hfile] at hstep
        intro p hp
        refine (ih p hp).elim (fun hmid => ?_) .inr
        exact (hstep p hmid).imp_right fun heq => by rwa [heq]

/-- The run as it comes to a file that is not recorded. -/
theorem runMigrations_at {pre post : List JsString} {f : JsString} {results : List MigrationRunResult}
    {db before : MigrationDb σ} (hpre : runMigrations server pre db = (.ok results, before))
    (hf : f ∉ db.ledger) : runMigrations server (pre ++ f :: post) db =
      match runFile (server pre.length) f before with
      | (.error e, after) => (.error e, after)
      | (.ok outcome, after) =>
        runFiles server db.ledger (pre.length + 1) post (results ++ [⟨f, outcome⟩]) after := by
  rw [runMigrations] at hpre ⊢
  rw [runFiles_append, hpre, Nat.zero_add]
  exact (if_neg hf).trans rfl

theorem runFiles_skips {k : Nat} {files : List JsString} {results : List MigrationRunResult}
    {db : MigrationDb σ} (happlied : ∀ f ∈ files, f ∈ applied) :
    runFiles server applied k files results db =
      (.ok (results ++ files.map fun f => ⟨f, .skipped⟩), db) := by
  induction files generalizing k results with
  | nil => simp [runFiles]
  | cons filename files ih =>
    obtain ⟨hfirst, hrest⟩ := List.forall_mem_cons.mp happlied
    simp [runFiles, hfirst, ih hrest]

end

/-! ## Soundness of the ledger -/

/-- What the ledger promises of a run. -/
structure LedgerSound (server : Nat → MigrationServer σ) (files : List JsString) (db : MigrationDb σ) :
    Prop where
  returned : ∀ results after, runMigrations server files db = (.ok results, after) →
    ∀ f ∈ files, f ∈ after.ledger
  /-- A file that stops the run leaves the ledger and the schema as the files before it did. -/
  thrown : ∀ e after, runMigrations server files db = (.error e, after) → ∃ pre f post results before,
    files = pre ++ f :: post ∧ runMigrations server pre db = (.ok results, before) ∧
    (∀ g, g ∈ before.ledger ↔ g ∈ db.ledger ∨ g ∈ pre) ∧ after.ledger = before.ledger ∧
    after.schema = before.schema
  /-- No connection is released inside a transaction. -/
  closed : (runMigrations server files db).2.openReleases = db.openReleases
  /-- A file that is recorded was verified against the schema that was committed with it. -/
  verified : ∀ pre f post results before results' after, files = pre ++ f :: post →
    runMigrations server pre db = (.ok results, before) →
    runMigrations server (pre ++ [f]) db = (.ok results', after) → f ∉ before.ledger →
    Verified (server pre.length) f after.schema
  /-- A following run sends no statement of a recorded file. -/
  rerun : ∀ server' files', ∀ p ∈ (runMigrations server' files' (runMigrations server files db).2).2.executed,
    p ∈ (runMigrations server files db).2.executed ∨ p.1 ∉ (runMigrations server files db).2.ledger
  skipped : ∀ server' files', (∀ f ∈ files', f ∈ (runMigrations server files db).2.ledger) →
    runMigrations server' files' (runMigrations server files db).2 =
      (.ok (files'.map fun f => ⟨f, .skipped⟩), (runMigrations server files db).2)

/-- The ledger is sound for a run exactly if every file that the run comes to, and that falls
back on its statements, gets as far as closing its transaction. -/
theorem ledgerSound_iff (server : Nat → MigrationServer σ) (files : List JsString) (db : MigrationDb σ) :
    LedgerSound server files db ↔ ∀ pre f post results before, files = pre ++ f :: post →
      runMigrations server pre db = (.ok results, before) → f ∉ db.ledger →
      SlowPathCloses (server pre.length) f before := by
  have hok : ∀ {files results after}, runMigrations server files db = (.ok results, after) →
      (∀ g, g ∈ after.ledger ↔ g ∈ db.ledger ∨ g ∈ files) ∧ after.openReleases = db.openReleases :=
    fun hrun => runFiles_ok (fun _ hg => hg) hrun
  constructor
  · intro hsound pre f post results before hfiles hpre hf
    have hstep := runFile_step (server pre.length) f before
    have hclosed := hsound.closed
    rw [hfiles, runMigrations_at hpre hf] at hclosed
    cases hfile : runFile (server pre.length) f before with
    | mk result after =>
      rw [hfile] at hstep hclosed
      cases result with
      | ok outcome => exact hstep.closes
      | error e => exact hstep.error.2.2.mp (hclosed.trans (hok hpre).2.symm)
  · intro hcloses
    -- the file at which the run stops, if it does
    have hstops : ∀ {e after}, runMigrations server files db = (.error e, after) →
        ∃ pre f post results before, files = pre ++ f :: post ∧
          runMigrations server pre db = (.ok results, before) ∧ f ∉ db.ledger ∧
          FileStep (server pre.length) f before (.error e) after := by
      intro e after hrun
      cases @runFiles_cases _ server db.ledger 0 files [] db with
      | inl hreturns =>
        obtain ⟨results, after', hreturns⟩ := hreturns
        rw [runMigrations, hreturns] at hrun
        cases hrun
      | inr hstop =>
        obtain ⟨pre, f, post, results, before, e', after', hfiles, hpre, hf, hfile, hstop⟩ := hstop
        rw [runMigrations, hstop] at hrun
        cases hrun
        have hstep := runFile_step (server pre.length) f before
        rw [Nat.zero_add] at hfile
        rw [hfile] at hstep
        exact ⟨pre, f, post, results, before, hfiles, hpre, hf, hstep⟩
    refine ⟨?_, ?_, ?_, ?_, ?_, ?_⟩
    · exact fun results after hrun f hf => ((hok hrun).1 f).mpr (.inr hf)
    · intro e after hrun
      obtain ⟨pre, f, post, results, before, hfiles, hpre, -, hstep⟩ := hstops hrun
      exact ⟨pre, f, post, results, before, hfiles, hpre, (hok hpre).1, hstep.error.1, hstep.error.2.1⟩
    · cases hrun : runMigrations server files db with
      | mk result after =>
        cases result with
        | ok results => exact (hok hrun).2
        | error e =>
          obtain ⟨pre, f, post, results, before, hfiles, hpre, hf, hstep⟩ := hstops hrun
          exact (hstep.error.2.2.mpr (hcloses pre f post results before hfiles hpre hf)).trans (hok hpre).2
    · intro pre f post results before results' after hfiles hpre hrun hnew
      have hf : f ∉ db.ledger := fun hmem => hnew (((hok hpre).1 f).mpr (.inl hmem))
      have hstep := runFile_step (server pre.length) f before
      rw [runMigrations_at hpre hf] at hrun
      split at hrun
      case h_1 => cases hrun
      case h_2 outcome mid hfile =>
        cases hrun
        rw [hfile] at hstep
        exact hstep.ok.2.2
    · exact fun server' files' => runFiles_executed
    · exact fun server' files' hmem => runFiles_skips hmem

/-- A database that may have the file's table already; there is no manifest to read. -/
def withoutManifest : MigrationServer Bool where
  readFile _ := .ok (js "CREATE TABLE a (id INT);")
  loadManifest := .error ⟨some (js "ENOENT"), js "ENOENT: no such file or directory"⟩
  execute _ exists_ := if exists_ then .error ⟨some (js "42P07"), js "relation \"a\" already exists"⟩ else .ok true
  captureSchemaSnapshot _ := .ok emptySnapshot
  insertFails _ := none
  commitFails _ := none

theorem withoutManifest_unsound : ¬ LedgerSound (fun _ => withoutManifest) [js "001_a.sql"] ⟨true, [], [], 0⟩ := by
  intro h
  have hopen : (runMigrations (fun _ => withoutManifest) [js "001_a.sql"] ⟨true, [], [], 0⟩).2.openReleases = 1 := by
    decide +kernel
  rw [h.closed] at hopen
  cases hopen

end HostPlatform
