-- SUMMARY: What a schema check certifies, and that a manifest's diff and the unchanged rest make up the schema after a migration.
import HostPlatform.Migrations.SchemaSnapshot

/-!
# Manifest and check

A check is complete exactly if the actual schema contains the required one. From that,
diff and check compose: what a diff leaves out of the later snapshot was in the earlier
one and has not changed.
-/

namespace HostPlatform

open Lib (Dictionary JsString js)

/-! ## Columns -/

namespace TableInfo

theorem column_eq_some {t : TableInfo} {name : JsString} {c : ColumnInfo} (h : t.column name = some c) :
    c ∈ t.columns ∧ c.name = name :=
  ⟨List.mem_of_find?_eq_some h, by simpa using List.find?_some h⟩

/-- The columns of a table are told apart by name. -/
theorem column_of_mem {t : TableInfo} {c : ColumnInfo} (h : c ∈ t.columns) : t.column c.name = some c := by
  cases hfound : t.column c.name with
  | none =>
    have hnone := List.find?_eq_none.mp hfound c h
    simp at hnone
  | some c' =>
    obtain ⟨hmem, hname⟩ := column_eq_some hfound
    rw [List.inj_on_of_nodup_map t.nodup hmem h hname]

end TableInfo

/-- A column is unchanged if the earlier table has it just so. -/
theorem newOrChanged_eq_false_iff {beforeTable : TableInfo} {c : ColumnInfo} :
    newOrChanged beforeTable c = false ↔ c ∈ beforeTable.columns := by
  unfold newOrChanged
  constructor
  · intro h
    cases hcolumn : beforeTable.column c.name with
    | none => simp [hcolumn] at h
    | some c' =>
      obtain ⟨hmem, hname⟩ := TableInfo.column_eq_some hcolumn
      simp only [hcolumn, decide_eq_false_iff_not, not_or, not_not] at h
      obtain ⟨hdataType, hnullable, hdefault⟩ := h
      have hsame : c' = c := by
        cases c'
        cases c
        simp_all
      exact hsame ▸ hmem
  · intro h
    simp [TableInfo.column_of_mem h]

/-! ## What a check certifies -/

/-- Every required definition is there under its name, with the same normal form. -/
def HoldsDefs (actualMap requiredMap : Dictionary JsString JsString) : Prop :=
  ∀ name requiredDef, requiredMap.lookup name = some requiredDef →
    ∃ actualDef, actualMap.lookup name = some actualDef ∧
      normalizeDefinition actualDef = normalizeDefinition requiredDef

/-- Everything required is in the actual schema. -/
structure SchemaSnapshot.Contains (actual required : SchemaSnapshot) : Prop where
  tables : ∀ name requiredTable, required.tables.lookup name = some requiredTable →
    ∃ actualTable, actual.tables.lookup name = some actualTable ∧
      ∀ c ∈ requiredTable.columns, c ∈ actualTable.columns
  constraints : HoldsDefs actual.constraints required.constraints
  indexes : HoldsDefs actual.indexes required.indexes
  functions : HoldsDefs actual.functions required.functions
  triggers : HoldsDefs actual.triggers required.triggers
  extensions : ∀ e ∈ required.extensions, e ∈ actual.extensions

theorem missingColumn_eq_nil_iff {tableName : JsString} {actualTable : TableInfo} {c : ColumnInfo} :
    missingColumn tableName actualTable c = [] ↔ c ∈ actualTable.columns := by
  rw [← newOrChanged_eq_false_iff]
  unfold missingColumn newOrChanged
  cases actualTable.column c.name with
  | none => simp
  | some actualColumn =>
    by_cases hdataType : actualColumn.dataType = c.dataType
    · by_cases hnullable : actualColumn.nullable = c.nullable
      · by_cases hdefault : actualColumn.defaultExpression = c.defaultExpression
        · simp [hdataType, hnullable, hdefault]
        · simp [hdataType, hnullable, hdefault]
      · simp [hdataType, hnullable]
    · simp [hdataType]

theorem missingTable_eq_nil_iff {actual : SchemaSnapshot} {tableName : JsString} {requiredTable : TableInfo} :
    missingTable actual tableName requiredTable = [] ↔
      ∃ actualTable, actual.tables.lookup tableName = some actualTable ∧
        ∀ c ∈ requiredTable.columns, c ∈ actualTable.columns := by
  unfold missingTable
  cases actual.tables.lookup tableName with
  | none => simp
  | some actualTable => simp [missingColumn_eq_nil_iff]

theorem checkDefMap_eq_nil_iff {label : String} {requiredMap actualMap : Dictionary JsString JsString} :
    checkDefMap label requiredMap actualMap = [] ↔ HoldsDefs actualMap requiredMap := by
  have hdef : ∀ name requiredDef, missingDef (js label) actualMap name requiredDef = [] ↔
      ∃ actualDef, actualMap.lookup name = some actualDef ∧
        normalizeDefinition actualDef = normalizeDefinition requiredDef := by
    intro name requiredDef
    unfold missingDef
    cases actualMap.lookup name with
    | none => simp
    | some actualDef => simp
  simp only [checkDefMap, List.flatMap_eq_nil_iff, hdef]
  exact Dictionary.forall_entries (d := requiredMap)
    (P := fun name requiredDef => ∃ actualDef, actualMap.lookup name = some actualDef ∧
      normalizeDefinition actualDef = normalizeDefinition requiredDef)

theorem schemaSatisfies_complete_iff {actual required : SchemaSnapshot} :
    (schemaSatisfies actual required).complete ↔ actual.Contains required := by
  simp only [schemaSatisfies, decide_eq_true_eq, List.length_eq_zero_iff, List.append_eq_nil_iff,
    checkDefMap_eq_nil_iff, List.flatMap_eq_nil_iff, missingTable_eq_nil_iff, List.map_eq_nil_iff,
    List.filter_eq_nil_iff, not_not]
  constructor
  · rintro ⟨⟨⟨⟨⟨htables, hconstraints⟩, hindexes⟩, hfunctions⟩, htriggers⟩, hextensions⟩
    exact ⟨Dictionary.forall_entries.mp htables, hconstraints, hindexes, hfunctions, htriggers, hextensions⟩
  · intro h
    exact ⟨⟨⟨⟨⟨Dictionary.forall_entries.mpr h.tables, h.constraints⟩, h.indexes⟩, h.functions⟩, h.triggers⟩,
      h.extensions⟩

/-! ## What a diff leaves out -/

/-- The entries of `before` that `after` has as well. -/
def unchangedMap (before after : Dictionary JsString JsString) : Dictionary JsString JsString :=
  before.mapMaybe fun name d => if after.lookup name = some d then some d else none

/-- `before`, restricted to what is unchanged in `after`. -/
def unchangedSnapshot (before after : SchemaSnapshot) : SchemaSnapshot where
  tables := before.tables.mapMaybe fun name beforeTable =>
    (after.tables.lookup name).map fun afterTable =>
      beforeTable.withColumns name fun c => decide (c ∈ afterTable.columns)
  constraints := unchangedMap before.constraints after.constraints
  indexes := unchangedMap before.indexes after.indexes
  functions := unchangedMap before.functions after.functions
  triggers := unchangedMap before.triggers after.triggers
  extensions := before.extensions.filter fun e => decide (e ∈ after.extensions)
  extensionsNodup := before.extensionsNodup.sublist List.filter_sublist

section

variable {before after actual : SchemaSnapshot}

theorem HoldsDefs.diffMap (before after : Dictionary JsString JsString) :
    HoldsDefs after (diffMap before after) := by
  intro name d h
  simp only [HostPlatform.diffMap, Dictionary.lookup_mapMaybe, Option.bind_eq_some_iff] at h
  obtain ⟨v, hv, hd⟩ := h
  split at hd
  · cases hd
    exact ⟨d, hv, rfl⟩
  · cases hd

/-- A definition of `after` is in the diff, or it is an unchanged one. -/
theorem HoldsDefs.of_diff_unchanged {before after actual : Dictionary JsString JsString}
    (hdiff : HoldsDefs actual (HostPlatform.diffMap before after))
    (hunchanged : HoldsDefs actual (unchangedMap before after)) : HoldsDefs actual after := by
  intro name d hd
  by_cases hsame : before.lookup name = some d
  · refine hunchanged name d ?_
    simp [unchangedMap, hsame, hd]
  · refine hdiff name d ?_
    simp [HostPlatform.diffMap, hsame, hd]

theorem diffTable_eq_some {tableName : JsString} {afterTable t : TableInfo}
    (h : diffTable before tableName afterTable = some t) : ∀ c ∈ t.columns, c ∈ afterTable.columns := by
  unfold diffTable at h
  cases hbefore : before.tables.lookup tableName with
  | none =>
    simp only [hbefore, Option.some.injEq] at h
    exact h ▸ fun c hc => hc
  | some beforeTable =>
    simp only [hbefore] at h
    split at h
    · cases h
      exact fun c hc => List.mem_of_mem_filter hc
    · cases h

/-- A snapshot contains its difference to another one. -/
theorem contains_diff (before after : SchemaSnapshot) :
    after.Contains (diffSchemaSnapshots before after) where
  tables := by
    intro name t h
    simp only [diffSchemaSnapshots, Dictionary.lookup_mapMaybe, Option.bind_eq_some_iff] at h
    obtain ⟨afterTable, hafter, hdiff⟩ := h
    exact ⟨afterTable, hafter, diffTable_eq_some hdiff⟩
  constraints := .diffMap _ _
  indexes := .diffMap _ _
  functions := .diffMap _ _
  triggers := .diffMap _ _
  extensions := fun _ he => List.mem_of_mem_filter he

/-- A table of `after` is new, or every column of it is unchanged or in the diff. -/
theorem contains_table_of_diff_unchanged (hdiff : actual.Contains (diffSchemaSnapshots before after))
    (hunchanged : actual.Contains (unchangedSnapshot before after)) {name : JsString}
    {afterTable : TableInfo} (hafter : after.tables.lookup name = some afterTable) :
    ∃ actualTable, actual.tables.lookup name = some actualTable ∧
      ∀ c ∈ afterTable.columns, c ∈ actualTable.columns := by
  cases hbefore : before.tables.lookup name with
  | none =>
    refine hdiff.tables name afterTable ?_
    simp [diffSchemaSnapshots, hafter, diffTable, hbefore]
  | some beforeTable =>
    obtain ⟨actualTable, hactual, hkept⟩ := hunchanged.tables name
      (beforeTable.withColumns name fun c => decide (c ∈ afterTable.columns))
      (by simp [unchangedSnapshot, hbefore, hafter])
    refine ⟨actualTable, hactual, fun c hc => ?_⟩
    cases hchanged : newOrChanged beforeTable c with
    | false =>
      refine hkept c (List.mem_filter.mpr ⟨newOrChanged_eq_false_iff.mp hchanged, ?_⟩)
      exact decide_eq_true hc
    | true =>
      have hmem : c ∈ (afterTable.withColumns name (newOrChanged beforeTable)).columns :=
        List.mem_filter.mpr ⟨hc, hchanged⟩
      obtain ⟨actualTable', hactual', hnew⟩ := hdiff.tables name
        (afterTable.withColumns name (newOrChanged beforeTable))
        (by simp [diffSchemaSnapshots, hafter, diffTable, hbefore, List.length_pos_of_mem hmem])
      cases hactual.symm.trans hactual'
      exact hnew c hmem

theorem contains_of_diff_unchanged (hdiff : actual.Contains (diffSchemaSnapshots before after))
    (hunchanged : actual.Contains (unchangedSnapshot before after)) : actual.Contains after where
  tables := fun _ _ => contains_table_of_diff_unchanged hdiff hunchanged
  constraints := hdiff.constraints.of_diff_unchanged hunchanged.constraints
  indexes := hdiff.indexes.of_diff_unchanged hunchanged.indexes
  functions := hdiff.functions.of_diff_unchanged hunchanged.functions
  triggers := hdiff.triggers.of_diff_unchanged hunchanged.triggers
  extensions := by
    intro e he
    by_cases hbefore : e ∈ before.extensions
    · exact hunchanged.extensions e (List.mem_filter.mpr ⟨hbefore, decide_eq_true he⟩)
    · exact hdiff.extensions e (List.mem_filter.mpr ⟨he, decide_eq_true hbefore⟩)

end

/-- A snapshot satisfies its diff; a schema that satisfies the diff and the unchanged rest
satisfies the whole; and a complete check means that everything required is there. -/
theorem schemaSatisfies_diff_compose :
    (∀ before after, (schemaSatisfies after (diffSchemaSnapshots before after)).complete) ∧
    (∀ before after actual, (schemaSatisfies actual (diffSchemaSnapshots before after)).complete →
      (schemaSatisfies actual (unchangedSnapshot before after)).complete →
      (schemaSatisfies actual after).complete) ∧
    (∀ actual required, (schemaSatisfies actual required).complete → actual.Contains required) := by
  simp only [schemaSatisfies_complete_iff]
  exact ⟨contains_diff, fun _ _ _ => contains_of_diff_unchanged, fun _ _ h => h⟩

end HostPlatform
