import Mathlib.Data.List.ReduceOption
import SchemaScript.Draft.Script
import SchemaScript.Proofs.Draft.Access
import SchemaScript.Proofs.Script.Exported

/-! The statements of the draft of a diagram. Put together they are the script of the diagram, and what is
left out is as much as the diagram counts; where the script has no text, the statements have none
either, for the same reason. -/

namespace SchemaScript

open Draft (text int display ofOption holds)

variable (d : Diagram) (t : Table) (f : Field)

/-! Columns -/

theorem holds_ofOption_int (n : Option Int) : (ofOption int n).holds = (given n).isSome := by
  cases n with
  | none => rfl
  | some i =>
    by_cases hi : i = 0
    · rw [hi]
      rfl
    · simp [ofOption, holds, given, hi]

theorem ofOption_int_of_given {n : Option Int} {i : Int} (h : given n = some i) :
    ofOption int n = int i := by
  unfold given at h
  split at h
  · cases h
  · rw [h]
    rfl

theorem Field.columnSize_draft : f.draft.columnSize = .ok (f.size.map int) := by
  have hread : f.draft.columnSize =
      .ok (if (ofOption int f.length).holds then [ofOption int f.length]
        else if (ofOption int f.precision).holds && (ofOption int f.scale).holds then
          [ofOption int f.precision, ofOption int f.scale]
        else if (ofOption int f.precision).holds then [ofOption int f.precision]
        else []) := rfl
  rw [hread, holds_ofOption_int, holds_ofOption_int, holds_ofOption_int, size]
  cases hlength : given f.length with
  | some n => simp [ofOption_int_of_given hlength]
  | none =>
    cases hprecision : given f.precision with
    | none => simp
    | some p =>
      cases hscale : given f.scale with
      | none => simp [ofOption_int_of_given hprecision]
      | some s => simp [ofOption_int_of_given hprecision, ofOption_int_of_given hscale]

/-- A default that is shown is one that is given and not empty. -/
theorem givenText_ofOption_text (o : Option String) :
    (ofOption text o).givenText = .ok (o.filter (· != "")) := by
  unfold Draft.givenText
  cases o with
  | none => rfl
  | some s => by_cases hs : s = "" <;> simp [ofOption, holds, Option.filter, hs]

theorem Field.columnText_draft : f.draft.columnText = f.column.render.mapError .number := by
  have hdisplay (i : Int) : (int i).display = (printWhole i).mapError .number := rfl
  have htype : f.draft.memberText "type" = .ok f.type := rfl
  have hnullable : f.draft.member "nullable" = .ok (.flag f.nullable) := rfl
  have hdefault : f.draft.member "default" = .ok (ofOption text f.default) := rfl
  have hprimaryKey : f.draft.member "primary_key" = .ok (.flag f.primaryKey) := rfl
  unfold Draft.columnText Script.Column.render
  simp only [memberText_name_draft, htype, columnSize_draft, hnullable, hdefault, hprimaryKey,
    givenText_ofOption_text, Except.ok_bind, mapM_map_eq_mapError hdisplay]
  show _ = ((f.size.mapM printWhole).bind _).mapError _
  cases f.size.mapM printWhole with
  | error e => rfl
  | ok size => rfl

/-! Tables -/

namespace Table

theorem createTableText_draft : t.draft.createTableText =
    if t.block.Printable then .ok (Script.createTableText t.name (t.fields.map fun f => f.column.text))
    else .error (.number .tooManyDigits) := by
  have hcolumns : (t.fields.map Field.draft).mapM Draft.columnText =
      (t.fields.mapM fun f : Field => f.column.render).mapError .number :=
    mapM_map_eq_mapError Field.columnText_draft t.fields
  have hprintable : t.block.Printable ↔ ∀ f ∈ t.fields, f.column.Printable := List.forall_mem_map
  unfold Draft.createTableText
  rw [membersOf_fields_draft, memberText_name_draft, Except.ok_bind, hcolumns,
    mapM_eq_ite fun f : Field => f.column.render_eq]
  by_cases h : t.block.Printable
  · rw [if_pos h, if_pos (hprintable.mp h)]
    rfl
  · rw [if_neg h, if_neg (mt hprintable.mpr h)]
    rfl

theorem fieldName?_draft (id : String) :
    t.draft.fieldName? (text id) = .ok ((t.field? id).map fun f => text f.name) := by
  unfold Draft.fieldName?
  rw [field?_draft]
  cases t.field? id <;> rfl

theorem columnsOf_draft (i : Index) : t.draft.columnsOf i.draft = .ok ((t.columnsOf i).map text) := by
  unfold Draft.columnsOf
  rw [Index.membersOf_fieldIds_draft, Except.ok_bind, mapM_map_eq_ok t.fieldName?_draft]
  simp [columnsOf, List.filterMap_map, List.map_filterMap, Function.comp_def]

theorem indexText?_draft (i : Index) :
    t.draft.indexText? i.draft = .ok ((t.indexDef? i).map (·.text t.name)) := by
  have hunique : i.draft.member "unique" = .ok (.flag i.unique) := rfl
  have hname : i.draft.memberText "name" = .ok i.name := rfl
  unfold Draft.indexText? indexDef?
  rw [columnsOf_draft, Except.ok_bind]
  cases hcolumns : t.columnsOf i with
  | nil => rfl
  | cons c cs =>
    rw [hunique, hname, memberText_name_draft, ← hcolumns, Draft.textsFrom_map_text, hcolumns]
    rfl

/-- The statements of a table and its indexes, `none` for each index left out. -/
def pieces : List (Option String) :=
  if t.isView then []
  else some (Script.createTableText t.name (t.fields.map fun f => f.column.text)) ::
    (t.indexes.map (fun i => (t.indexDef? i).map (·.text t.name)) ++ [some "\n"])

/-- All sizes that are shown of the table have texts. -/
def Printable : Prop := t.isView = false → t.block.Printable

instance : Decidable t.Printable :=
  inferInstanceAs (Decidable (t.isView = false → t.block.Printable))

theorem blockTexts_draft : t.draft.blockTexts =
    if t.Printable then .ok t.pieces else .error (.number .tooManyDigits) := by
  unfold Draft.blockTexts pieces
  rw [member_isView_draft, Except.ok_bind]
  by_cases hview : t.isView = true
  · have hprintable : t.Printable := fun hno => nomatch hno.symm.trans hview
    rw [if_pos hview, if_pos hprintable]
    exact if_pos hview
  · have hprintable : t.Printable ↔ t.block.Printable := by simp [Printable, hview]
    rw [if_neg hview, createTableText_draft, membersOf_indexes_draft]
    by_cases h : t.block.Printable
    · rw [if_pos h, if_pos (hprintable.mpr h), Except.ok_bind, Except.ok_bind,
        mapM_map_eq_ok t.indexText?_draft]
      exact if_neg hview
    · rw [if_neg h, if_neg (mt hprintable.mp h)]
      exact if_neg hview

theorem join_pieces (h : t.isView = false) : String.join t.pieces.reduceOption = t.block.text := by
  unfold pieces Script.Block.text
  simp [h, block, List.reduceOption, List.filterMap_map, List.map_filterMap, String.join_cons,
    String.join_append, Function.comp_def, String.append_assoc]

theorem countP_pieces : t.pieces.countP Option.isNone =
    if t.isView then 0 else t.indexes.countP fun i => (t.indexDef? i).isNone := by
  unfold pieces
  split
  · rfl
  · simp [List.countP_append, List.countP_map, Function.comp_def]

end Table

/-! Diagrams -/

namespace Diagram

theorem foreignKeyText?_draft (r : Relationship) :
    d.draft.foreignKeyText? r.draft = .ok ((d.foreignKey? r).map (·.text)) := by
  have hbase (id : String) : d.draft.table? (text id) false = .ok ((d.baseTable? id).map fun t =>
      (d.tables.findIdx fun t => t.id == id && !t.isView, t.draft)) := d.table?_draft id false
  unfold Draft.foreignKeyText? foreignKey?
  simp only [Relationship.member_sourceTable_draft, Relationship.member_targetTable_draft,
    Relationship.member_sourceField_draft, Relationship.member_targetField_draft, Except.ok_bind, hbase]
  cases d.baseTable? r.source.table with
  | none => rfl
  | some s =>
    cases d.baseTable? r.target.table with
    | none => rfl
    | some t =>
      simp only [Option.map_some, Option.bind_eq_bind, Option.bind_some, Table.field?_draft, Except.ok_bind]
      cases s.field? r.source.field with
      | none => rfl
      | some f => cases t.field? r.target.field <;> rfl

/-- All statements, `none` for each that is left out. -/
def pieces : List (Option String) :=
  if d.tables.isEmpty then []
  else d.tables.flatMap Table.pieces ++ d.relationships.map fun r => (d.foreignKey? r).map (·.text)

theorem printable_script_iff : d.script.Printable ↔ ∀ t ∈ d.tables, t.Printable := by
  have hblocks : d.script.Printable ↔ ∀ t ∈ d.baseTables, t.block.Printable := List.forall_mem_map
  rw [hblocks]
  simp only [baseTables, List.mem_filter, Bool.not_eq_true', Table.Printable]
  exact ⟨fun h t ht hview => h t ⟨ht, hview⟩, fun h t ht => h t ht.1 ht.2⟩

theorem statements_draft : d.draft.statements =
    if d.script.Printable then .ok d.pieces else .error (.number .tooManyDigits) := by
  unfold Draft.statements pieces
  rw [member_tables_draft, Except.ok_bind, Draft.holds_list_map, Bool.not_not]
  by_cases hempty : d.tables.isEmpty
  · have hprintable : d.script.Printable := by
      simp [printable_script_iff, List.isEmpty_iff.mp hempty]
    rw [if_pos hempty, if_pos hprintable, if_pos hempty]
    rfl
  · have hblocks : (d.tables.map Table.draft).mapM Draft.blockTexts =
        if d.script.Printable then .ok (d.tables.map Table.pieces)
        else .error (.number .tooManyDigits) := by
      rw [List.mapM_map, mapM_eq_ite fun t => t.blockTexts_draft]
      simp only [printable_script_iff]
    rw [if_neg hempty, if_neg hempty, membersOf_tables_draft, membersOf_relationships_draft,
      Except.ok_bind, hblocks]
    by_cases h : d.script.Printable
    · rw [if_pos h, if_pos h, Except.ok_bind, Except.ok_bind, mapM_map_eq_ok d.foreignKeyText?_draft]
      rfl
    · rw [if_neg h, if_neg h]
      rfl

theorem join_tablePieces (ts : List Table) : String.join (ts.flatMap Table.pieces).reduceOption =
    String.join ((ts.filter (!·.isView)).map fun t => t.block.text) := by
  induction ts with
  | nil => rfl
  | cons t ts ih =>
    rw [List.flatMap_cons, List.reduceOption_append, String.join_append, ih]
    cases hview : t.isView with
    | true => simp [Table.pieces, hview]
    | false => simp [t.join_pieces hview, hview, String.join_cons]

theorem countP_tablePieces (ts : List Table) : (ts.flatMap Table.pieces).countP Option.isNone =
    ((ts.filter (!·.isView)).map fun t => t.indexes.countP fun i => (t.indexDef? i).isNone).foldr
      (· + ·) 0 := by
  induction ts with
  | nil => rfl
  | cons t ts ih =>
    rw [List.flatMap_cons, List.countP_append, ih, t.countP_pieces]
    cases hview : t.isView <;> simp [hview]

/-- What is not left out makes up the script. -/
theorem join_pieces : String.join d.pieces.reduceOption = d.script.text := by
  unfold pieces
  by_cases hempty : d.tables.isEmpty
  · have hbase : d.baseTables = [] := by simp [baseTables, List.isEmpty_iff.mp hempty]
    rw [if_pos hempty, script_of_no_baseTables hbase]
    rfl
  · rw [if_neg hempty, List.reduceOption_append, String.join_append, join_tablePieces]
    simp [Script.text, script, baseTables, List.reduceOption, List.filterMap_map, List.map_filterMap,
      Function.comp_def]

/-- What is left out is what the diagram counts. -/
theorem countP_pieces (h : d.tables.isEmpty = false) : d.pieces.countP Option.isNone = d.skipped := by
  rw [pieces, h, if_neg Bool.false_ne_true, List.countP_append, countP_tablePieces]
  simp [skipped, baseTables, List.countP_map, Function.comp_def]

theorem baseTableCount_draft : d.draft.baseTableCount = .ok d.baseTables.length := by
  have hviews : (d.tables.map Table.draft).mapM (fun t => do return (← t.member "is_view").holds) =
      (.ok (d.tables.map (·.isView)) : Except DraftError (List Bool)) :=
    mapM_map_eq_ok (by intro _; rfl) _
  unfold Draft.baseTableCount baseTables
  rw [membersOf_tables_draft, Except.ok_bind, hviews, Except.ok_bind, List.countP_map,
    List.countP_eq_length_filter]
  rfl

end Diagram

end SchemaScript
