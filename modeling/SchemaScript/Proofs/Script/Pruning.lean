import SchemaScript.Proofs.Consistency.SkippedKeys

/-! A diagram without what its script leaves out: without views, without identifiers in indexes that the
table does not have, without indexes that have no others, and without relationships that give no foreign
key. It has the same script, for no look-up that the script depends on ever led to what is gone. And once
no view is left, looking up a table finds what the script finds, so there is nothing to report of indexes
and relationships any more. -/

namespace SchemaScript

namespace Issue

/-- The codes of issues about indexes have a prefix of their own. -/
def isOfIndex (i : Issue) : Bool := "INDEX_".toList.isPrefixOf i.code.toList

theorem isOfIndex_iff (i : Issue) : i.isOfIndex = true ↔ i.family = .indexes := by
  cases i <;> simp only [isOfIndex, code, family] <;> decide

end Issue

namespace Table

/-- The index without identifiers that no field of the table has. -/
def prunedIndex (t : Table) (i : Index) : Index :=
  { i with fieldIds := i.fieldIds.filter fun id => (t.field? id).isSome }

/-- The table with its indexes pruned, and without those of which nothing is left. -/
def pruned (t : Table) : Table :=
  { t with indexes := (t.indexes.map t.prunedIndex).filter fun i => !i.fieldIds.isEmpty }

theorem columnsOf_prunedIndex (t : Table) (i : Index) :
    t.columnsOf (t.prunedIndex i) = t.columnsOf i := by
  rw [columnsOf, prunedIndex, List.filterMap_filter, columnsOf]
  congr 1
  funext id
  cases t.field? id <;> rfl

/-- An index has columns exactly if something is left of it. -/
theorem columnsOf_eq_nil_iff (t : Table) (i : Index) :
    t.columnsOf i = [] ↔ (t.prunedIndex i).fieldIds = [] := by
  simp [columnsOf, prunedIndex, List.filterMap_eq_nil_iff, List.filter_eq_nil_iff]

theorem indexDef?_prunedIndex (t : Table) (i : Index) :
    t.pruned.indexDef? (t.prunedIndex i) = t.indexDef? i := by
  have hcolumns : t.pruned.columnsOf (t.prunedIndex i) = t.columnsOf i := t.columnsOf_prunedIndex i
  rw [indexDef?, hcolumns, indexDef?]
  rfl

theorem indexDef?_eq_none_of_pruned {t : Table} {i : Index} (h : (t.prunedIndex i).fieldIds = []) :
    t.indexDef? i = none := by
  rw [indexDef?, (t.columnsOf_eq_nil_iff i).mpr h]

theorem block_pruned (t : Table) : t.pruned.block = t.block := by
  have hleft : t.pruned.indexes =
      (t.indexes.map t.prunedIndex).filter fun i => !i.fieldIds.isEmpty := rfl
  have hindexes : t.pruned.indexes.filterMap t.pruned.indexDef? = t.indexes.filterMap t.indexDef? := by
    rw [hleft, List.filterMap_filter, List.filterMap_map]
    apply List.filterMap_congr
    intro i _
    cases h : (t.prunedIndex i).fieldIds with
    | nil => simp [h, indexDef?_eq_none_of_pruned h]
    | cons id ids => simp [h, indexDef?_prunedIndex]
  rw [block, hindexes]
  rfl

theorem indexIssue?_prunedIndex (t : Table) {i : Index} (h : (t.prunedIndex i).fieldIds ≠ []) :
    t.pruned.indexIssue? (t.prunedIndex i) = none := by
  have hmissing : t.pruned.missingFieldIds (t.prunedIndex i) = [] := by
    rw [missingFieldIds, List.filter_eq_nil_iff]
    intro id hid
    obtain ⟨f, hf⟩ := Option.isSome_iff_exists.mp (List.mem_filter.mp hid).2
    have hfield : t.pruned.field? id = some f := hf
    simp [hfield]
  have hlength : 0 ≠ (t.prunedIndex i).fieldIds.length := (List.length_pos_iff.mpr h).ne
  simp [indexIssue?, hmissing, hlength]

end Table

namespace Diagram

/-- The diagram without all that its script leaves out. -/
def pruned (d : Diagram) : Diagram :=
  { d with
    tables := d.baseTables.map Table.pruned
    relationships := d.relationships.filter fun r => (d.foreignKey? r).isSome }

theorem isView_of_mem_pruned {d : Diagram} {t : Table} (h : t ∈ d.pruned.tables) :
    t.isView = false := by
  obtain ⟨u, hu, rfl⟩ := List.mem_map.mp h
  have hview : u.isView = false := by simpa using (List.mem_filter.mp hu).2
  exact hview

theorem baseTables_pruned (d : Diagram) : d.pruned.baseTables = d.baseTables.map Table.pruned := by
  rw [baseTables, List.filter_eq_self.mpr]
  · rfl
  · intro t ht
    simp [isView_of_mem_pruned ht]

theorem baseTable?_pruned (d : Diagram) (id : String) :
    d.pruned.baseTable? id = (d.baseTable? id).map Table.pruned := by
  have hpruned : (fun t : Table => t.id == id && !t.isView) ∘ Table.pruned =
      fun t => t.id == id && !t.isView := rfl
  rw [baseTable?, pruned, List.find?_map, hpruned, baseTables, List.find?_filter, baseTable?]
  congr 2
  funext t
  cases t.isView <;> cases h : t.id == id <;> simp

theorem foreignKey?_pruned (d : Diagram) (r : Relationship) :
    d.pruned.foreignKey? r = d.foreignKey? r := by
  simp only [foreignKey?, baseTable?_pruned]
  cases d.baseTable? r.source.table with
  | none => rfl
  | some s => cases d.baseTable? r.target.table <;> rfl

theorem script_pruned (d : Diagram) : d.pruned.script = d.script := by
  have hblocks : d.pruned.baseTables.map Table.block = d.baseTables.map Table.block := by
    rw [baseTables_pruned, List.map_map]
    exact List.map_congr_left fun t _ => t.block_pruned
  have hkeys : d.pruned.relationships.filterMap d.pruned.foreignKey? =
      d.relationships.filterMap d.foreignKey? := by
    rw [funext d.foreignKey?_pruned, pruned, List.filterMap_filter]
    apply List.filterMap_congr
    intro r _
    cases d.foreignKey? r <;> rfl
  rw [script, hblocks, hkeys, script]

theorem not_shadowedByView_pruned (d : Diagram) (id : String) : ¬ d.pruned.ShadowedByView id := by
  rintro ⟨before, v, between, t, after, htables, -, ⟨-, hview⟩, -⟩
  have hv : v ∈ d.pruned.tables := by simp [htables]
  simp [isView_of_mem_pruned hv] at hview

theorem indexIssues_pruned (d : Diagram) : d.pruned.indexIssues = [] := by
  rw [indexIssues, baseTables_pruned, List.flatMap_eq_nil_iff]
  intro t ht
  obtain ⟨u, -, rfl⟩ := List.mem_map.mp ht
  rw [List.filterMap_eq_nil_iff]
  intro x hx
  obtain ⟨hx, hleft⟩ := List.mem_filter.mp hx
  obtain ⟨i, -, rfl⟩ := List.mem_map.mp hx
  exact u.indexIssue?_prunedIndex (by simpa using hleft)

theorem relationshipIssues_pruned {d : Diagram} {r : Relationship} (h : r ∈ d.pruned.relationships) :
    d.pruned.relationshipIssues r = [] := by
  obtain ⟨k, hk⟩ := Option.isSome_iff_exists.mp (List.mem_filter.mp h).2
  rw [← foreignKey?_pruned] at hk
  exact (relationshipIssues_eq_nil_iff_of_foreignKey? hk).mpr
    ⟨d.not_shadowedByView_pruned _, d.not_shadowedByView_pruned _⟩

/-- Only repeated identifiers can be reported of a pruned diagram. -/
theorem issues_pruned (d : Diagram) : d.pruned.issues = d.pruned.duplicateIssues := by
  have hrelationships : d.pruned.relationships.flatMap d.pruned.relationshipIssues = [] := by
    rw [List.flatMap_eq_nil_iff]
    exact fun _ => relationshipIssues_pruned
  rw [issues, indexIssues_pruned, hrelationships, List.append_nil, List.append_nil]

theorem not_isOfIndex_of_mem_duplicateIssues {d : Diagram} {i : Issue} (h : i ∈ d.duplicateIssues) :
    i.isOfIndex = false := by
  rw [Bool.eq_false_iff, ne_eq, Issue.isOfIndex_iff, family_of_mem_issuesOf (k := .repeats) h]
  decide

/-- What a script leaves out has no influence on it, and without that there is nothing to report of
indexes and relationships. -/
theorem sql_pruned_and_nothing_skipped (d : Diagram) :
    d.pruned.sql = d.sql ∧
      ∀ i ∈ d.pruned.issues, i.isOfIndex = false ∧ i.isOfRelationship = false := by
  refine ⟨congrArg Script.render d.script_pruned, ?_⟩
  rw [issues_pruned]
  intro i hi
  exact ⟨not_isOfIndex_of_mem_duplicateIssues hi, not_isOfRelationship_of_mem_duplicateIssues hi⟩

-- The view goes, and whatever refers to no field of the table behind it.
example :
    let f : Field := ⟨"f", "c", "int", none, none, none, true, none, true⟩
    let r : Relationship := ⟨none, "r", ⟨"t", "f"⟩, ⟨"t", "f"⟩⟩
    let d : Diagram := ⟨none, none, none, [⟨"t", "v", true, [f], []⟩,
      ⟨"t", "w", false, [f], [⟨none, "i", false, ["g", "f"]⟩, ⟨none, "j", true, ["g"]⟩]⟩],
      [r, { r with target := ⟨"t", "g"⟩ }]⟩
    d.pruned = ⟨none, none, none, [⟨"t", "w", false, [f], [⟨none, "i", false, ["f"]⟩]⟩], [r]⟩ := by
  decide

end Diagram

end SchemaScript
