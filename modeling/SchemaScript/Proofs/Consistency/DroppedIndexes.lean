import SchemaScript.Proofs.Script.Pruning
import SchemaScript.Proofs.Script.Statements

/-! Which indexes the script leaves out or cuts short, and which the check reports. Both go over the same
indexes in the same order. The check compares how many identifiers of an index are missing with how many
there are, the script looks whether any column is left; since every identifier either is missing or gives
one column, the two agree, also where an index has no identifiers at all or repeats one. -/

namespace SchemaScript

/-- The index that a statement creates, and the name of its table. -/
def Script.Statement.createdIndex? : Script.Statement → Option (String × Script.IndexDef)
  | .createIndex table index => some (table, index)
  | _ => none

namespace Table

variable (t : Table) (i : Index)

theorem missingFieldIds_eq : t.missingFieldIds i = i.fieldIds.filter (· ∉ t.fields.map (·.id)) := by
  apply List.filter_congr
  intro id _
  rw [Bool.eq_iff_iff]
  simp [field?]

/-- Every identifier is missing or gives a column. -/
theorem length_missingFieldIds_add_columnsOf :
    (t.missingFieldIds i).length + (t.columnsOf i).length = i.fieldIds.length := by
  rw [missingFieldIds, columnsOf, ← List.countP_eq_length_filter, List.length_filterMap_eq_countP,
    List.length_eq_countP_add_countP (fun id => (t.field? id).isNone)]
  congr 2
  funext id
  cases t.field? id <;> rfl

/-- While no identifier is missing, each gives its column. -/
theorem columnsOf_of_missingFieldIds {t : Table} {i : Index} (h : t.missingFieldIds i = []) :
    (t.columnsOf i).map some = i.fieldIds.map fun id => (t.field? id).map (·.name) := by
  rw [columnsOf, List.map_filterMap_some_eq_filter_map_isSome, List.filter_eq_self]
  intro name hname
  obtain ⟨id, hid, rfl⟩ := List.mem_map.mp hname
  have hfield := List.filter_eq_nil_iff.mp h id hid
  simpa [← Option.isSome_iff_ne_none] using hfield

/-- The statement of an index with columns. -/
def fullDef : Script.IndexDef := ⟨i.unique, i.name, t.columnsOf i⟩

/-- An index has no columns and is left out, or some of its identifiers are missing, or none is. -/
theorem index_cases :
    (t.columnsOf i = [] ∧ t.indexDef? i = none ∧
      t.indexIssue? i = some (.emptyIndex t.name i.name (t.missingFieldIds i))) ∨
    (t.missingFieldIds i ≠ [] ∧ t.indexDef? i = some (t.fullDef i) ∧
      t.indexIssue? i = some (.missingIndexFields t.name i.name (t.missingFieldIds i))) ∨
    (t.missingFieldIds i = [] ∧ t.indexDef? i = some (t.fullDef i) ∧ t.indexIssue? i = none) := by
  have hlength := t.length_missingFieldIds_add_columnsOf i
  cases hcolumns : t.columnsOf i with
  | nil =>
    left
    rw [hcolumns, List.length_nil, Nat.add_zero] at hlength
    exact ⟨rfl, by simp [indexDef?, hcolumns], by simp [indexIssue?, hlength]⟩
  | cons c cs =>
    right
    have hdef : t.indexDef? i = some (t.fullDef i) := by simp [indexDef?, fullDef, hcolumns]
    have hne : (t.missingFieldIds i).length ≠ i.fieldIds.length := by
      rw [hcolumns, List.length_cons] at hlength
      omega
    by_cases hmissing : t.missingFieldIds i = []
    · right
      rw [hmissing, List.length_nil] at hne
      exact ⟨hmissing, hdef, by simp [indexIssue?, hmissing, hne]⟩
    · left
      exact ⟨hmissing, hdef, by simp [indexIssue?, hmissing, hne]⟩

/-- The columns of an index as its statement lists them, if it has one. -/
def writtenColumns : List String := ((t.indexDef? i).map (·.columns)).getD []

theorem writtenColumns_eq : t.writtenColumns i = t.columnsOf i := by
  rcases t.index_cases i with ⟨hcolumns, hdef, -⟩ | ⟨-, hdef, -⟩ | ⟨-, hdef, -⟩
  · simp [writtenColumns, hdef, hcolumns]
  · simp [writtenColumns, hdef, fullDef]
  · simp [writtenColumns, hdef, fullDef]

/-- The report of an index says what its statement lacks: everything, some columns, or nothing. It lists
the identifiers that give no column, in order and as often as they stand there. -/
structure ReportsIndex : Prop where
  empty : (t.indexIssue? i).map (·.code) = some "INDEX_EMPTY" ↔ t.indexDef? i = none
  short : (t.indexIssue? i).map (·.code) = some "INDEX_FIELD_MISSING" ↔
    ∃ x, t.indexDef? i = some x ∧ x.columns.length < i.fieldIds.length
  complete : t.indexIssue? i = none ↔
    ∃ x, t.indexDef? i = some x ∧
      x.columns.map some = i.fieldIds.map fun id => (t.field? id).map (·.name)
  location : ∀ issue ∈ t.indexIssue? i, issue.location = t.name ++ "." ++ i.name
  fieldIds : ∀ issue ∈ t.indexIssue? i, issue.details.get? "field_ids" =
    some (.strings (i.fieldIds.filter (· ∉ t.fields.map (·.id))))
  length : (i.fieldIds.filter (· ∉ t.fields.map (·.id))).length + (t.writtenColumns i).length =
    i.fieldIds.length

variable {t i} in
theorem lists_of_indexIssue? {issue : Issue} (h : t.indexIssue? i = some issue) :
    issue.location = t.name ++ "." ++ i.name ∧
      issue.details.get? "field_ids" = some (.strings (t.missingFieldIds i)) := by
  rcases t.index_cases i with ⟨-, -, hissue⟩ | ⟨-, -, hissue⟩ | ⟨-, -, hissue⟩
  · obtain rfl := Option.some.inj (hissue.symm.trans h)
    exact ⟨rfl, rfl⟩
  · obtain rfl := Option.some.inj (hissue.symm.trans h)
    exact ⟨rfl, rfl⟩
  · simp [hissue] at h

theorem reportsIndex : t.ReportsIndex i := by
  have hlength := t.length_missingFieldIds_add_columnsOf i
  have hlocation (issue : Issue) (h : issue ∈ t.indexIssue? i) :
      issue.location = t.name ++ "." ++ i.name := (lists_of_indexIssue? h).1
  have hfieldIds (issue : Issue) (h : issue ∈ t.indexIssue? i) :
      issue.details.get? "field_ids" =
        some (.strings (i.fieldIds.filter (· ∉ t.fields.map (·.id)))) := by
    rw [← missingFieldIds_eq]
    exact (lists_of_indexIssue? h).2
  have hwritten : (i.fieldIds.filter (· ∉ t.fields.map (·.id))).length +
      (t.writtenColumns i).length = i.fieldIds.length := by
    rw [← missingFieldIds_eq, writtenColumns_eq, hlength]
  rcases t.index_cases i with ⟨-, hdef, hissue⟩ | ⟨hmissing, hdef, hissue⟩ | ⟨hmissing, hdef, hissue⟩
  · refine ⟨?_, ?_, ?_, hlocation, hfieldIds, hwritten⟩
    · simp [hissue, hdef, Issue.code]
    · simp [hissue, hdef, Issue.code]
    · simp [hissue, hdef]
  · have hpos := List.length_pos_iff.mpr hmissing
    have hshort : (t.fullDef i).columns.length < i.fieldIds.length := by
      simp only [fullDef]
      omega
    have hcut : (t.fullDef i).columns.map some ≠
        i.fieldIds.map fun id => (t.field? id).map (·.name) := by
      intro h
      have hsame := congrArg List.length h
      rw [List.length_map, List.length_map] at hsame
      omega
    refine ⟨?_, ?_, ?_, hlocation, hfieldIds, hwritten⟩
    · simp [hissue, hdef, Issue.code]
    · simp [hissue, hdef, Issue.code, hshort]
    · simp [hissue, hdef, hcut]
  · have hfull : (t.fullDef i).columns.length = i.fieldIds.length := by
      rw [← hlength, hmissing, List.length_nil, Nat.zero_add, fullDef]
    refine ⟨?_, ?_, ?_, hlocation, hfieldIds, hwritten⟩
    · simp [hissue, hdef]
    · simp [hissue, hdef, hfull]
    · simp [hissue, hdef, fullDef, columnsOf_of_missingFieldIds hmissing]

end Table

namespace Diagram

/-- The indexes of tables that are no views, each with its table. -/
def ownIndexes (d : Diagram) : List (Table × Index) :=
  d.baseTables.flatMap fun t => t.indexes.map (t, ·)

/-- The issues about indexes stand together, in the order of tables and of their indexes. -/
theorem filter_isOfIndex_issues (d : Diagram) :
    d.issues.filter (·.isOfIndex) = d.ownIndexes.filterMap fun (t, i) => t.indexIssue? i := by
  rw [filter_issues_of_family Issue.isOfIndex_iff, issuesOf, indexIssues, ownIndexes,
    List.filterMap_flatMap]
  simp only [List.filterMap_map, Function.comp_def]

theorem createdIndexes_eq (d : Diagram) :
    d.script.statements.filterMap (·.createdIndex?) =
      d.ownIndexes.filterMap fun (t, i) => (t.indexDef? i).map (t.name, ·) := by
  have hblock (t : Table) : t.block.statements.filterMap (·.createdIndex?) =
      t.indexes.filterMap fun i => (t.indexDef? i).map (t.name, ·) := by
    simp [Script.Block.statements, Table.block, Script.Statement.createdIndex?, List.filterMap_map,
      List.filterMap_filterMap, Option.map_eq_bind]
  have hkeys : (d.script.foreignKeys.map Script.Statement.addForeignKey).filterMap
      (·.createdIndex?) = [] := by
    simp [Script.Statement.createdIndex?, List.filterMap_map]
  rw [Script.statements_eq, List.filterMap_append, hkeys, List.append_nil, List.filterMap_flatMap,
    ownIndexes, List.filterMap_flatMap, script, List.flatMap_map]
  simp only [hblock, List.filterMap_map, Function.comp_def]

/-- The check and the script go over the same indexes, those of tables that are no views, in order, and
each report says what the statement of its index lacks. -/
theorem indexIssues_report_dropped (d : Diagram) :
    d.issues.filter (·.isOfIndex) = d.ownIndexes.filterMap (fun (t, i) => t.indexIssue? i) ∧
      d.script.statements.filterMap (·.createdIndex?) =
        d.ownIndexes.filterMap (fun (t, i) => (t.indexDef? i).map (t.name, ·)) ∧
      ∀ (t : Table) (i : Index), t.ReportsIndex i :=
  ⟨d.filter_isOfIndex_issues, d.createdIndexes_eq, Table.reportsIndex⟩

-- An identifier that is missing counts as often as it stands there.
example :
    let t : Table :=
      ⟨"t", "w", false, [⟨"f", "c", "int", none, none, none, true, none, true⟩], []⟩
    let i : Index := ⟨none, "i", false, ["g", "f", "g", "f"]⟩
    t.indexIssue? i = some (.missingIndexFields "w" "i" ["g", "g"]) ∧
      t.writtenColumns i = ["c", "c"] ∧
      t.indexIssue? { i with fieldIds := [] } = some (.emptyIndex "w" "i" []) := by
  decide

end Diagram

end SchemaScript
