import Mathlib.Data.List.Basic
import Mathlib.Data.List.Count
import Mathlib.Data.List.Induction
import Mathlib.Logic.Function.Basic
import SchemaScript.Consistency.Check
import SchemaScript.Proofs.Widening.Slots
import SchemaScript.Script.Export

/-! Diagrams under other identifiers. Look-ups ask only whether two identifiers are the same, so an
injective renaming of the identifiers of tables and of fields changes neither where they lead nor how
often one is repeated, and what a script, a widening or a check shows of a diagram stays the same. The
other identifiers, the name and the dialect of a diagram are not looked at at all. -/

namespace SchemaScript

/-- New identifiers for tables and for fields, distinct ones for distinct ones. -/
structure Renaming where
  table : String → String
  field : String → String
  table_injective : table.Injective
  field_injective : field.Injective

/-- The renaming that keeps all identifiers. -/
def Renaming.same : Renaming := ⟨id, id, Function.injective_id, Function.injective_id⟩

def FieldRef.renamed (ρ : Renaming) (r : FieldRef) : FieldRef := ⟨ρ.table r.table, ρ.field r.field⟩

def Field.renamed (ρ : Renaming) (f : Field) : Field := { f with id := ρ.field f.id }

def Index.renamed (ρ : Renaming) (i : Index) : Index :=
  { i with id := none, fieldIds := i.fieldIds.map ρ.field }

def Table.renamed (ρ : Renaming) (t : Table) : Table :=
  { t with
    id := ρ.table t.id
    fields := t.fields.map (Field.renamed ρ)
    indexes := t.indexes.map (Index.renamed ρ) }

def Relationship.renamed (ρ : Renaming) (r : Relationship) : Relationship :=
  { r with id := none, source := r.source.renamed ρ, target := r.target.renamed ρ }

/-- The diagram with its tables and fields renamed, and without what no look-up goes by. -/
def Diagram.renamed (ρ : Renaming) (d : Diagram) : Diagram :=
  { id := none
    name := none
    dialect := none
    tables := d.tables.map (Table.renamed ρ)
    relationships := d.relationships.map (Relationship.renamed ρ) }

/-- One diagram is another under a renaming of its tables and fields, wherever they are named; what no
look-up goes by may be different altogether. -/
def Diagram.Renames (ρ : Renaming) (d d' : Diagram) : Prop := d'.renamed .same = d.renamed ρ

variable {ρ : Renaming}

/-! Look-ups -/

theorem beq_map_of_injective {f : String → String} (hf : f.Injective) (a b : String) :
    (f a == f b) = (a == b) := by
  rw [Bool.eq_iff_iff, beq_iff_eq, beq_iff_eq]
  exact hf.eq_iff

theorem Table.field?_renamed (t : Table) (id : String) :
    (t.renamed ρ).field? (ρ.field id) = (t.field? id).map (Field.renamed ρ) := by
  have hid : ((·.id == ρ.field id) ∘ Field.renamed ρ) = (·.id == id) := by
    funext f
    exact beq_map_of_injective ρ.field_injective f.id id
  rw [Table.field?, Table.renamed, List.find?_map, hid, Table.field?]

namespace Diagram

theorem table?_renamed (d : Diagram) (id : String) :
    (d.renamed ρ).table? (ρ.table id) = (d.table? id).map (Table.renamed ρ) := by
  have hid : ((·.id == ρ.table id) ∘ Table.renamed ρ) = (·.id == id) := by
    funext t
    exact beq_map_of_injective ρ.table_injective t.id id
  rw [table?, renamed, List.find?_map, hid, table?]

theorem baseTable?_renamed (d : Diagram) (id : String) :
    (d.renamed ρ).baseTable? (ρ.table id) = (d.baseTable? id).map (Table.renamed ρ) := by
  have hid : ((fun t : Table => t.id == ρ.table id && !t.isView) ∘ Table.renamed ρ) =
      fun t => t.id == id && !t.isView := by
    funext t
    exact congrArg (· && !t.isView) (beq_map_of_injective ρ.table_injective t.id id)
  rw [baseTable?, renamed, List.find?_map, hid, baseTable?]

theorem baseTables_renamed (d : Diagram) :
    (d.renamed ρ).baseTables = d.baseTables.map (Table.renamed ρ) := by
  rw [baseTables, renamed, List.filter_map]
  rfl

theorem slot?_renamed (d : Diagram) (r : FieldRef) :
    (d.renamed ρ).slot? (r.renamed ρ) = d.slot? r := by
  have hlast : lastIdx? (·.id == (r.renamed ρ).table) (d.renamed ρ).tables =
      lastIdx? (·.id == r.table) d.tables := by
    rw [renamed, lastIdx?_map]
    congr 1
    funext t
    exact beq_map_of_injective ρ.table_injective t.id r.table
  have hfield (t : Table) : (t.renamed ρ).fields.findIdx? (·.id == (r.renamed ρ).field) =
      t.fields.findIdx? (·.id == r.field) := by
    rw [Table.renamed, List.findIdx?_map]
    congr 1
    funext f
    exact beq_map_of_injective ρ.field_injective f.id r.field
  have hat (i : Nat) : (d.renamed ρ).tables[i]? = d.tables[i]?.map (Table.renamed ρ) :=
    List.getElem?_map ..
  unfold slot?
  rw [hlast]
  congr 1
  funext i
  rw [hat i]
  cases d.tables[i]? with
  | none => rfl
  | some t => simp [hfield]

theorem links_renamed (d : Diagram) : (d.renamed ρ).links = d.links := by
  have hlink : (d.renamed ρ).link? ∘ Relationship.renamed ρ = d.link? := by
    funext r
    simp only [Function.comp_apply, link?, Relationship.renamed, slot?_renamed]
  rw [links, renamed, List.filterMap_map]
  exact congrArg (d.relationships.filterMap ·) hlink

theorem foreignKey?_renamed (d : Diagram) (r : Relationship) :
    (d.renamed ρ).foreignKey? (r.renamed ρ) = d.foreignKey? r := by
  simp only [foreignKey?, Relationship.renamed, FieldRef.renamed, baseTable?_renamed]
  cases d.baseTable? r.source.table with
  | none => rfl
  | some s =>
    cases d.baseTable? r.target.table with
    | none => rfl
    | some t =>
      simp only [Option.map_some, Option.bind_eq_bind, Option.bind_some, Table.field?_renamed]
      cases s.field? r.source.field <;> cases t.field? r.target.field <;> rfl

end Diagram

/-! Scripts -/

theorem Table.columnsOf_renamed (t : Table) (i : Index) :
    (t.renamed ρ).columnsOf (i.renamed ρ) = t.columnsOf i := by
  rw [Table.columnsOf, Index.renamed, List.filterMap_map, Table.columnsOf]
  congr 1
  funext id
  rw [Function.comp_apply, Table.field?_renamed, Option.map_map]
  rfl

theorem Table.indexDef?_renamed (t : Table) (i : Index) :
    (t.renamed ρ).indexDef? (i.renamed ρ) = t.indexDef? i := by
  simp only [Table.indexDef?, Table.columnsOf_renamed]
  rfl

theorem Table.block_renamed (t : Table) : (t.renamed ρ).block = t.block := by
  have hcolumns : (t.renamed ρ).fields.map Field.column = t.fields.map Field.column := by
    rw [Table.renamed, List.map_map]
    rfl
  have hindexes : (t.renamed ρ).indexes.filterMap (t.renamed ρ).indexDef? =
      t.indexes.filterMap t.indexDef? := by
    rw [Table.renamed, List.filterMap_map]
    exact congrArg (t.indexes.filterMap ·) (funext t.indexDef?_renamed)
  rw [Table.block, hcolumns, hindexes, Table.block]
  rfl

namespace Diagram

theorem script_renamed (d : Diagram) : (d.renamed ρ).script = d.script := by
  have hkeys : (d.renamed ρ).relationships.filterMap (d.renamed ρ).foreignKey? =
      d.relationships.filterMap d.foreignKey? := by
    rw [renamed, List.filterMap_map]
    exact congrArg (d.relationships.filterMap ·) (funext d.foreignKey?_renamed)
  rw [script, hkeys, baseTables_renamed, List.map_map, script]
  congr 2
  funext t
  exact t.block_renamed

end Diagram

/-! Widening -/

def Widened.renamed (ρ : Renaming) (w : Widened) : Widened :=
  { w with diagram := w.diagram.renamed ρ }

theorem modify_map {f : α → β} {g : α → α} {g' : β → β} (h : ∀ a, g' (f a) = f (g a)) (as : List α)
    (i : Nat) : (as.map f).modify i g' = (as.modify i g).map f := by
  apply List.ext_getElem?
  intro j
  rw [List.getElem?_modify, List.getElem?_map, List.getElem?_map, List.getElem?_modify]
  by_cases hij : i = j
  · cases as[j]? <;> simp [hij, h]
  · simp [hij]

namespace Diagram

theorem tableAt?_renamed (d : Diagram) (s : Slot) :
    (d.renamed ρ).tableAt? s = (d.tableAt? s).map (Table.renamed ρ) :=
  List.getElem?_map ..

theorem fieldAt?_renamed (d : Diagram) (s : Slot) :
    (d.renamed ρ).fieldAt? s = (d.fieldAt? s).map (Field.renamed ρ) := by
  rw [fieldAt?, tableAt?_renamed, fieldAt?]
  cases d.tableAt? s with
  | none => rfl
  | some t => exact List.getElem?_map ..

theorem typeAt_renamed (d : Diagram) (s : Slot) : (d.renamed ρ).typeAt s = d.typeAt s := by
  rw [typeAt, fieldAt?_renamed, Option.map_map]
  rfl

theorem setType_renamed (d : Diagram) (s : Slot) (type : String) :
    (d.renamed ρ).setType s type = (d.setType s type).renamed ρ := by
  have hfields (t : Table) : (t.renamed ρ).fields.modify s.field (fun f => { f with type }) =
      (t.fields.modify s.field fun f => { f with type }).map (Field.renamed ρ) := by
    rw [Table.renamed]
    apply modify_map
    intro f
    rfl
  simp only [setType, renamed, Diagram.mk.injEq, true_and, and_true]
  apply modify_map
  intro t
  rw [hfields]
  rfl

theorem widening?_renamed (d : Diagram) (l : Link) : (d.renamed ρ).widening? l = d.widening? l := by
  simp only [widening?, typeAt_renamed]

theorem change_renamed (d : Diagram) (l : Link) (s : Slot) (type : String) :
    (d.renamed ρ).change l s type = d.change l s type := by
  simp only [change, tableAt?_renamed, fieldAt?_renamed, typeAt_renamed, Option.map_map]
  rfl

theorem widenAlong_renamed (d : Diagram) (ls : List Link) :
    (d.renamed ρ).widenAlong ls = (d.widenAlong ls).renamed ρ := by
  induction ls generalizing d with
  | nil => rfl
  | cons l ls ih =>
    rw [widenAlong, widening?_renamed, widenAlong]
    cases d.widening? l with
    | none => exact ih d
    | some p =>
      obtain ⟨s, type⟩ := p
      simp only [setType_renamed, ih, change_renamed]
      rfl

theorem widenRepeatedly_renamed (d : Diagram) (ls : List Link) (limit : Nat) :
    (d.renamed ρ).widenRepeatedly ls limit = (d.widenRepeatedly ls limit).renamed ρ := by
  induction limit generalizing d with
  | zero => rfl
  | succ limit ih =>
    simp only [widenRepeatedly, widenAlong_renamed]
    have hchanges : ((d.widenAlong ls).renamed ρ).changes = (d.widenAlong ls).changes := rfl
    have hdiagram : ((d.widenAlong ls).renamed ρ).diagram = (d.widenAlong ls).diagram.renamed ρ := rfl
    rw [hchanges, hdiagram, ih]
    split <;> rfl

theorem widen_renamed (d : Diagram) (untilStable : Bool) :
    (d.renamed ρ).widen untilStable = (d.widen untilStable).renamed ρ := by
  have hlength : (d.renamed ρ).relationships.length = d.relationships.length := List.length_map ..
  cases untilStable with
  | false => exact (congrArg _ d.links_renamed).trans (widenAlong_renamed d d.links)
  | true =>
    show (d.renamed ρ).widenUntilStable = d.widenUntilStable.renamed ρ
    rw [widenUntilStable, hlength, links_renamed, widenRepeatedly_renamed]
    rfl

theorem sql_exportScript_renamed (d : Diagram) (widenTypes untilStable : Bool) :
    ((d.renamed ρ).exportScript widenTypes untilStable).sql =
      (d.exportScript widenTypes untilStable).sql := by
  have hempty : (d.renamed ρ).tables.isEmpty = d.tables.isEmpty := List.isEmpty_map
  have hsql (e : Diagram) : (e.renamed ρ).sql = e.sql := congrArg Script.render e.script_renamed
  rw [exportScript, exportScript, hempty, widen_renamed]
  cases d.tables.isEmpty with
  | true => rfl
  | false =>
    cases widenTypes with
    | true => exact hsql (d.widen untilStable).diagram
    | false => exact hsql d

end Diagram

/-! Checking -/

theorem eraseDups_concat (ids : List String) (id : String) :
    (ids ++ [id]).eraseDups = ids.eraseDups ++ if id ∈ ids then [] else [id] := by
  rw [List.eraseDups_append]
  by_cases hid : id ∈ ids
  · simp [List.removeAll, hid]
  · simp [List.removeAll, hid, List.eraseDups_cons]

theorem eraseDups_map_of_injective {f : String → String} (hf : f.Injective) (ids : List String) :
    (ids.map f).eraseDups = ids.eraseDups.map f := by
  induction ids using List.reverseRecOn with
  | nil => rfl
  | append_singleton ids id ih =>
    rw [List.map_append, List.map_singleton, eraseDups_concat, eraseDups_concat, ih,
      List.map_append]
    simp only [List.mem_map_of_injective hf]
    split <;> rfl

theorem repeated_map_of_injective {f : String → String} (hf : f.Injective) (ids : List String) :
    repeated (ids.map f) = (repeated ids).map (Prod.map f id) := by
  have hcount (x : String) : (ids.map f).count (f x) = ids.count x :=
    List.count_map_of_injective ids f hf x
  simp [repeated, eraseDups_map_of_injective hf, List.filter_map, Function.comp_def, hcount]

theorem Table.duplicateFields_renamed (t : Table) :
    (t.renamed ρ).duplicateFields.map Issue.code = t.duplicateFields.map Issue.code := by
  have hids : (t.renamed ρ).fields.map (·.id) = (t.fields.map (·.id)).map ρ.field := by
    simp [Table.renamed, Field.renamed]
  rw [Table.duplicateFields, hids, repeated_map_of_injective ρ.field_injective, List.map_map,
    List.map_map, Table.duplicateFields, List.map_map]
  rfl

theorem Table.missingFieldIds_renamed (t : Table) (i : Index) :
    (t.renamed ρ).missingFieldIds (i.renamed ρ) = (t.missingFieldIds i).map ρ.field := by
  simp [Table.missingFieldIds, Index.renamed, List.filter_map, Function.comp_def,
    Table.field?_renamed]

theorem Table.indexIssue?_renamed (t : Table) (i : Index) :
    ((t.renamed ρ).indexIssue? (i.renamed ρ)).map Issue.code = (t.indexIssue? i).map Issue.code := by
  have hlength : (i.renamed ρ).fieldIds.length = i.fieldIds.length := List.length_map ..
  simp only [Table.indexIssue?, Table.missingFieldIds_renamed, hlength, List.length_map,
    List.isEmpty_map]
  split
  · rfl
  · split <;> rfl

namespace Diagram

theorem duplicateIssues_renamed (d : Diagram) :
    (d.renamed ρ).duplicateIssues.map Issue.code = d.duplicateIssues.map Issue.code := by
  have hids : (d.renamed ρ).tables.map (·.id) = (d.tables.map (·.id)).map ρ.table := by
    simp [renamed, Table.renamed]
  have hfields : ((d.renamed ρ).tables.flatMap Table.duplicateFields).map Issue.code =
      (d.tables.flatMap Table.duplicateFields).map Issue.code := by
    rw [renamed, List.flatMap_map, List.map_flatMap, List.map_flatMap]
    exact congrArg (d.tables.flatMap ·) (funext Table.duplicateFields_renamed)
  rw [duplicateIssues, List.map_append, hfields, hids,
    repeated_map_of_injective ρ.table_injective, duplicateIssues, List.map_append]
  simp [Function.comp_def, Issue.code]

theorem indexIssues_renamed (d : Diagram) :
    (d.renamed ρ).indexIssues.map Issue.code = d.indexIssues.map Issue.code := by
  rw [indexIssues, baseTables_renamed, List.flatMap_map, List.map_flatMap, indexIssues,
    List.map_flatMap]
  congr 1
  funext t
  rw [List.map_filterMap, Table.renamed, List.filterMap_map, List.map_filterMap]
  exact congrArg (t.indexes.filterMap ·) (funext t.indexIssue?_renamed)

theorem endIssues_renamed (d : Diagram) (name : String) (side : Side) (r : FieldRef) :
    ((d.renamed ρ).endIssues name side (r.renamed ρ)).map Issue.code =
      (d.endIssues name side r).map Issue.code := by
  simp only [endIssues, FieldRef.renamed, table?_renamed]
  cases d.table? r.table with
  | none => rfl
  | some t =>
    have hview : (t.renamed ρ).isView = t.isView := rfl
    simp only [Option.map_some, Table.field?_renamed, Option.isNone_map, hview, List.map_append]
    congr 1
    split <;> rfl

theorem codes_issues_renamed (d : Diagram) :
    (d.renamed ρ).issues.map Issue.code = d.issues.map Issue.code := by
  have hends (r : Relationship) : ((d.renamed ρ).relationshipIssues (r.renamed ρ)).map Issue.code =
      (d.relationshipIssues r).map Issue.code := by
    simp only [relationshipIssues, Relationship.renamed, List.map_append, endIssues_renamed]
  have hrelationships :
      ((d.renamed ρ).relationships.flatMap (d.renamed ρ).relationshipIssues).map Issue.code =
        (d.relationships.flatMap d.relationshipIssues).map Issue.code := by
    rw [List.map_flatMap, List.map_flatMap]
    exact (List.flatMap_map ..).trans (congrArg (d.relationships.flatMap ·) (funext hends))
  rw [issues, List.map_append, List.map_append, duplicateIssues_renamed, indexIssues_renamed,
    hrelationships, issues, List.map_append, List.map_append]

/-- Diagrams that differ in identifiers only have the same scripts, are widened by the same changes, and
have issues with the same codes, in the same order. -/
theorem outcomes_eq_of_renames {d d' : Diagram} (h : d.Renames ρ d') :
    (∀ widenTypes untilStable,
      (d'.exportScript widenTypes untilStable).sql = (d.exportScript widenTypes untilStable).sql) ∧
    (∀ untilStable, (d'.widen untilStable).changes = (d.widen untilStable).changes) ∧
    d'.issues.map Issue.code = d.issues.map Issue.code := by
  have hsame : d'.renamed .same = d.renamed ρ := h
  refine ⟨fun widenTypes untilStable => ?_, fun untilStable => ?_, ?_⟩
  · rw [← d'.sql_exportScript_renamed, hsame, sql_exportScript_renamed]
  · have hd' := congrArg Widened.changes (d'.widen_renamed (ρ := .same) untilStable)
    have hd := congrArg Widened.changes (d.widen_renamed (ρ := ρ) untilStable)
    exact hd'.symm.trans ((congrArg (fun e => (e.widen untilStable).changes) hsame).trans hd)
  · rw [← codes_issues_renamed d', hsame, codes_issues_renamed]

/-- A view and a table with the same identifier, a field identifier used twice, and references that do
not resolve. -/
def tangled : Diagram where
  id := none
  name := some "shop"
  dialect := none
  tables :=
    [⟨"a", "totals", true, [⟨"x", "sum", "decimal", none, none, none, true, none, false⟩], []⟩,
      ⟨"a", "orders", false,
        [⟨"x", "owner", "smallint", none, none, none, false, none, false⟩,
          ⟨"x", "again", "integer", none, none, none, false, none, false⟩],
        [⟨some "i", "by_owner", false, ["x", "gone", "x"]⟩]⟩,
      ⟨"b", "users", false, [⟨"y", "id", "bigint", none, none, none, false, none, true⟩], []⟩]
  relationships :=
    [⟨none, "owner", ⟨"a", "x"⟩, ⟨"b", "y"⟩⟩, ⟨some "r", "lost", ⟨"gone", "x"⟩, ⟨"b", "x"⟩⟩]

/-- The same with every identifier of a table or a field longer, and all others different. -/
def tangledOtherwise : Diagram where
  id := some "d"
  name := none
  dialect := some .mysql
  tables :=
    [⟨"ta", "totals", true, [⟨"fx", "sum", "decimal", none, none, none, true, none, false⟩], []⟩,
      ⟨"ta", "orders", false,
        [⟨"fx", "owner", "smallint", none, none, none, false, none, false⟩,
          ⟨"fx", "again", "integer", none, none, none, false, none, false⟩],
        [⟨none, "by_owner", false, ["fx", "fgone", "fx"]⟩]⟩,
      ⟨"tb", "users", false, [⟨"fy", "id", "bigint", none, none, none, false, none, true⟩], []⟩]
  relationships :=
    [⟨some "s", "owner", ⟨"ta", "fx"⟩, ⟨"tb", "fy"⟩⟩, ⟨none, "lost", ⟨"tgone", "fx"⟩, ⟨"tb", "fx"⟩⟩]

def lengthening : Renaming where
  table id := "t" ++ id
  field id := "f" ++ id
  table_injective _ _ h := by simpa using h
  field_injective _ _ h := by simpa using h

theorem tangled_outcomes_eq : tangled.Renames lengthening tangledOtherwise ∧
    (tangledOtherwise.exportScript true false).sql = (tangled.exportScript true false).sql ∧
    (tangledOtherwise.widen true).changes = (tangled.widen true).changes ∧
    tangledOtherwise.issues.map Issue.code = tangled.issues.map Issue.code := by
  have h : tangled.Renames lengthening tangledOtherwise := by
    unfold Renames
    decide
  obtain ⟨hsql, hchanges, hcodes⟩ := outcomes_eq_of_renames h
  exact ⟨h, hsql true false, hchanges true, hcodes⟩

end Diagram

end SchemaScript
