-- SUMMARY: Snapshots of a database schema: normal forms of definitions, the diff of two snapshots, and the check that one satisfies another (`schemaSnapshot.ts`).
import HostPlatform.Lib.Dictionary
import HostPlatform.Lib.Pattern

/-!
# Schema snapshots

`tables[name]` is a lookup among the tables of the record: a snapshot has no table
named like a member of `Object.prototype`, as capturing one throws.
-/

namespace HostPlatform

open Lib (Dictionary JsString Pattern js)
open Lib.Pattern (lit)

/-! ## Snapshots -/

structure ColumnInfo where
  name : JsString
  dataType : JsString
  nullable : Bool
  defaultExpression : Option JsString
  deriving DecidableEq, Repr

/-- The column names of a table are distinct. -/
structure TableInfo where
  name : JsString
  columns : List ColumnInfo
  nodup : (columns.map ColumnInfo.name).Nodup

structure SchemaSnapshot where
  tables : Dictionary JsString TableInfo
  constraints : Dictionary JsString JsString
  indexes : Dictionary JsString JsString
  functions : Dictionary JsString JsString
  triggers : Dictionary JsString JsString
  extensions : List JsString
  extensionsNodup : extensions.Nodup

def emptySnapshot : SchemaSnapshot := ⟨∅, ∅, ∅, ∅, ∅, [], List.nodup_nil⟩

/-- `columns.find((c) => c.name === name)`. -/
def TableInfo.column (t : TableInfo) (name : JsString) : Option ColumnInfo :=
  t.columns.find? fun c => decide (c.name = name)

/-- Some of the columns. -/
def TableInfo.withColumns (t : TableInfo) (name : JsString) (keep : ColumnInfo → Bool) : TableInfo where
  name := name
  columns := t.columns.filter keep
  nodup := t.nodup.sublist (List.filter_sublist.map _)

/-! ## `normalizeDefinition` -/

def publicPattern : Pattern := .boundary :: lit "public."
def spacePattern : Pattern := [.spaces]
def rowPattern : Pattern := .boundary :: lit "ROW(" ++ [.spaces]
def distinctPattern : Pattern :=
  [.spaces] ++ lit ")" ++ [.spaces] ++ lit "IS DISTINCT FROM" ++ [.spaces] ++ lit "ROW("
def thenPattern : Pattern := [.spaces] ++ lit ")" ++ [.spaces] ++ lit "THEN" ++ [.boundary]
def andRowPattern : Pattern := .boundary :: lit "AND" ++ [.spaces] ++ lit "(ROW("
def closeThenPattern : Pattern := lit "))" ++ [.spaces] ++ lit "THEN" ++ [.boundary]

def normalizeDefinition (def_ : JsString) : JsString :=
  let s := publicPattern.replaceAll [] def_
  let s := spacePattern.replaceAll (js " ") s
  let s := rowPattern.replaceAll (js "ROW(") s
  let s := distinctPattern.replaceAll (js ") IS DISTINCT FROM ROW(") s
  let s := thenPattern.replaceAll (js ") THEN") s
  let s := andRowPattern.replaceAll (js "AND ROW(") s
  let s := closeThenPattern.replaceAll (js ") THEN") s
  Lib.JsString.trim s

/-! ## `diffSchemaSnapshots` -/

/-- A column that is new, or differs from the one of its name. -/
def newOrChanged (beforeTable : TableInfo) (c : ColumnInfo) : Bool :=
  match beforeTable.column c.name with
  | none => true
  | some beforeColumn =>
    decide (beforeColumn.dataType ≠ c.dataType ∨ beforeColumn.nullable ≠ c.nullable ∨
      beforeColumn.defaultExpression ≠ c.defaultExpression)

def diffTable (before : SchemaSnapshot) (tableName : JsString) (afterTable : TableInfo) :
    Option TableInfo :=
  match before.tables.lookup tableName with
  | none => some afterTable
  | some beforeTable =>
    let changed := afterTable.withColumns tableName (newOrChanged beforeTable)
    if 0 < changed.columns.length then some changed else none

def diffMap (b a : Dictionary JsString JsString) : Dictionary JsString JsString :=
  a.mapMaybe fun k v => if b.lookup k ≠ some v then some v else none

def diffSchemaSnapshots (before after : SchemaSnapshot) : SchemaSnapshot where
  tables := after.tables.mapMaybe (diffTable before)
  constraints := diffMap before.constraints after.constraints
  indexes := diffMap before.indexes after.indexes
  functions := diffMap before.functions after.functions
  triggers := diffMap before.triggers after.triggers
  extensions := after.extensions.filter fun e => decide (e ∉ before.extensions)
  extensionsNodup := after.extensionsNodup.sublist List.filter_sublist

/-! ## `schemaSatisfies` -/

def hexDigit (n : Nat) : Nat := if n < 10 then 48 + n else 87 + n

/-- `\uXXXX`. -/
def unicodeEscape (u : Nat) : JsString :=
  js "\\u" ++ [hexDigit (u / 4096 % 16), hexDigit (u / 256 % 16), hexDigit (u / 16 % 16), hexDigit (u % 16)]

/-- `QuoteJSONString`, of one unit that is no part of a surrogate pair. -/
def quoteUnit (u : Nat) : JsString :=
  if u = 8 then js "\\b"
  else if u = 9 then js "\\t"
  else if u = 10 then js "\\n"
  else if u = 12 then js "\\f"
  else if u = 13 then js "\\r"
  else if u = 34 then js "\\\""
  else if u = 92 then js "\\\\"
  else if u < 32 ∨ Lib.JsString.isHighSurrogate u ∨ Lib.JsString.isLowSurrogate u then unicodeEscape u
  else [u]

def quoteUnits : JsString → JsString
  | a :: b :: s =>
    if Lib.JsString.isHighSurrogate a && Lib.JsString.isLowSurrogate b then a :: b :: quoteUnits s
    else quoteUnit a ++ quoteUnits (b :: s)
  | [a] => quoteUnit a
  | [] => []

/-- `JSON.stringify` of a string or of `null`. -/
def jsonStringify : Option JsString → JsString
  | none => js "null"
  | some s => js "\"" ++ quoteUnits s ++ js "\""

/-- A boolean in a template. -/
def boolText (b : Bool) : JsString := js (if b then "true" else "false")

/-- What is missing of a required column. -/
def missingColumn (tableName : JsString) (actualTable : TableInfo) (requiredColumn : ColumnInfo) :
    List JsString :=
  let column := js "column " ++ tableName ++ js "." ++ requiredColumn.name
  match actualTable.column requiredColumn.name with
  | none => [column]
  | some actualColumn =>
    if actualColumn.dataType ≠ requiredColumn.dataType then
      [column ++ js " (expected type " ++ requiredColumn.dataType ++ js ", found "
        ++ actualColumn.dataType ++ js ")"]
    else if actualColumn.nullable ≠ requiredColumn.nullable then
      [column ++ js " (expected nullable=" ++ boolText requiredColumn.nullable ++ js ", found "
        ++ boolText actualColumn.nullable ++ js ")"]
    else if actualColumn.defaultExpression ≠ requiredColumn.defaultExpression then
      [column ++ js " (expected default " ++ jsonStringify requiredColumn.defaultExpression
        ++ js ", found " ++ jsonStringify actualColumn.defaultExpression ++ js ")"]
    else []

def missingTable (actual : SchemaSnapshot) (tableName : JsString) (requiredTable : TableInfo) :
    List JsString :=
  match actual.tables.lookup tableName with
  | none => [js "table " ++ tableName]
  | some actualTable => requiredTable.columns.flatMap (missingColumn tableName actualTable)

def missingDef (label : JsString) (actualMap : Dictionary JsString JsString) (name requiredDef : JsString) :
    List JsString :=
  match actualMap.lookup name with
  | none => [label ++ js " " ++ name]
  | some actualDef =>
    let normalizedRequired := normalizeDefinition requiredDef
    let normalizedActual := normalizeDefinition actualDef
    if normalizedActual ≠ normalizedRequired then
      [label ++ js " " ++ name ++ js " (definition mismatch — expected \"" ++ normalizedRequired
        ++ js "\", found \"" ++ normalizedActual ++ js "\")"]
    else []

def checkDefMap (label : String) (requiredMap actualMap : Dictionary JsString JsString) : List JsString :=
  requiredMap.entries.flatMap fun e => missingDef (js label) actualMap e.1 e.2

structure SchemaCheck where
  complete : Bool
  missing : List JsString
  deriving DecidableEq, Repr

def schemaSatisfies (actual required : SchemaSnapshot) : SchemaCheck :=
  let missing :=
    required.tables.entries.flatMap (fun e => missingTable actual e.1 e.2)
    ++ checkDefMap "constraint" required.constraints actual.constraints
    ++ checkDefMap "index" required.indexes actual.indexes
    ++ checkDefMap "function" required.functions actual.functions
    ++ checkDefMap "trigger" required.triggers actual.triggers
    ++ (required.extensions.filter fun e => decide (e ∉ actual.extensions)).map fun e =>
      js "extension " ++ e
  ⟨decide (missing.length = 0), missing⟩

end HostPlatform
