import Mathlib.Data.List.ReduceOption
import SchemaScript.Proofs.Script.JoinedColumns

/-! A script as a sequence of statements, and what a statement refers to. Whatever a statement names was
created by the statements before it: the table and the columns of an index by the statement that
creates the table, with nothing but other indexes of that table in between, and the tables and columns
of a foreign key by statements further above. Nothing is created any more once foreign keys are added. -/

namespace SchemaScript

namespace Script

inductive Statement where
  | createTable (table : String) (columns : List Column)
  | createIndex (table : String) (index : IndexDef)
  | addForeignKey (key : ForeignKey)
  deriving DecidableEq, Repr

namespace Statement

def render : Statement → Except NumberError String
  | createTable table columns => do return createTableText table (← columns.mapM Column.render)
  | createIndex table index => .ok (index.text table)
  | addForeignKey key => .ok key.text

/-- The text with sizes of any length. -/
def text : Statement → String
  | createTable table columns => createTableText table (columns.map Column.text)
  | createIndex table index => index.text table
  | addForeignKey key => key.text

def createdTable? : Statement → Option (String × List Column)
  | createTable table columns => some (table, columns)
  | _ => none

def addedKey? : Statement → Option ForeignKey
  | addForeignKey key => some key
  | _ => none

/-- What the statement names is there once the statements before it are carried out. -/
def RefersBack (before : List Statement) : Statement → Prop
  | createTable .. => True
  | createIndex table index =>
    index.columns ≠ [] ∧ ∃ earlier columns, ∃ own : List IndexDef,
      before = earlier ++ createTable table columns :: own.map (createIndex table) ∧
        ∀ c ∈ index.columns, c ∈ columns.map (·.name)
  | addForeignKey key =>
    (∃ columns, createTable key.sourceTable columns ∈ before ∧
      key.sourceColumn ∈ columns.map (·.name)) ∧
    ∃ columns, createTable key.targetTable columns ∈ before ∧
      key.targetColumn ∈ columns.map (·.name)

end Statement

def Block.statements (b : Block) : List Statement :=
  .createTable b.table b.columns :: b.indexes.map (.createIndex b.table)

/-- What the text is put together from: statements, and for `none` the empty line behind a block. -/
def parts (s : Script) : List (Option Statement) :=
  (s.blocks.flatMap fun b => b.statements.map some ++ [none])
    ++ s.foreignKeys.map fun k => some (.addForeignKey k)

def renderPart : Option Statement → Except NumberError String
  | some st => st.render
  | none => .ok "\n"

def partText : Option Statement → String
  | some st => st.text
  | none => "\n"

/-- The columns that a part shows. -/
def partColumns : Option Statement → List Column
  | some (.createTable _ columns) => columns
  | _ => []

def statements (s : Script) : List Statement := s.parts.reduceOption

theorem statements_eq (s : Script) :
    s.statements = s.blocks.flatMap Block.statements ++ s.foreignKeys.map .addForeignKey := by
  simp [statements, parts, List.reduceOption, List.filterMap_flatMap]

theorem text_eq_join_parts (s : Script) : s.text = String.join (s.parts.map partText) := by
  apply String.toList_inj.mp
  simp [text, parts, Block.text, Block.statements, partText, Statement.text, List.flatMap_map,
    List.map_flatMap, List.flatMap_assoc]

theorem renderPart_eq (part : Option Statement) :
    renderPart part =
      if ∀ c ∈ partColumns part, c.Printable then .ok (partText part) else .error .tooManyDigits := by
  have hnone : ∀ c ∈ ([] : List Column), c.Printable := List.forall_mem_nil _
  match part with
  | none => exact (if_pos hnone).symm
  | some (.createTable table columns) => exact mapM_bind_eq_ite Column.render_eq _ columns
  | some (.createIndex table index) => exact (if_pos hnone).symm
  | some (.addForeignKey key) => exact (if_pos hnone).symm

theorem flatMap_partColumns_parts (s : Script) :
    s.parts.flatMap partColumns = s.blocks.flatMap (·.columns) := by
  have hnone {α : Type} (as : List α) : (as.flatMap fun _ => ([] : List Column)) = [] :=
    List.flatMap_eq_nil_iff.mpr fun _ _ => rfl
  simp [parts, Block.statements, partColumns, List.flatMap_assoc, List.flatMap_map, hnone]

theorem printable_iff_parts (s : Script) :
    (∀ part ∈ s.parts, ∀ c ∈ partColumns part, c.Printable) ↔ s.Printable := by
  have hcolumns := congrArg (fun cs => ∀ c ∈ cs, c.Printable) s.flatMap_partColumns_parts
  simp only [List.forall_mem_flatMap, eq_iff_iff] at hcolumns
  exact hcolumns

/-- A script is rendered part by part. -/
theorem render_eq_join_parts (s : Script) : s.render = String.join <$> s.parts.mapM renderPart := by
  rw [render_eq, mapM_eq_ite renderPart_eq, text_eq_join_parts]
  by_cases h : s.Printable
  · rw [if_pos h, if_pos (s.printable_iff_parts.mpr h)]
    rfl
  · rw [if_neg h, if_neg (mt s.printable_iff_parts.mp h)]
    rfl

end Script

open Script

theorem append_eq_append_cons {xs ys before after : List α} {a : α}
    (h : xs ++ ys = before ++ a :: after) :
    (∃ rest, xs = before ++ a :: rest) ∨ ∃ rest, before = xs ++ rest ∧ ys = rest ++ a :: after := by
  rcases List.append_eq_append_iff.mp h with ⟨rest, hbefore, hys⟩ | ⟨rest, hxs, hrest⟩
  · exact .inr ⟨rest, hbefore, hys⟩
  · cases rest with
    | nil => exact .inr ⟨[], by simpa using hxs.symm, by simpa using hrest.symm⟩
    | cons b rest =>
      obtain ⟨rfl, -⟩ := List.cons.inj hrest
      exact .inl ⟨rest, hxs⟩

/-- A place in a list put together from pieces is a place in one of the pieces. -/
theorem flatMap_eq_append_cons {f : α → List β} {as : List α} {before after : List β} {b : β}
    (h : as.flatMap f = before ++ b :: after) :
    ∃ a ∈ as, ∃ done front back, f a = front ++ b :: back ∧ before = done ++ front := by
  induction as generalizing before with
  | nil => simp at h
  | cons a as ih =>
    rcases append_eq_append_cons h with ⟨back, hfront⟩ | ⟨rest, rfl, hrest⟩
    · exact ⟨a, List.mem_cons_self, [], before, back, hfront, rfl⟩
    · obtain ⟨c, hc, done, front, back, hfront, rfl⟩ := ih hrest
      exact ⟨c, List.mem_cons_of_mem a hc, f a ++ done, front, back, hfront, by simp⟩

theorem Table.columns_of_indexDef? {t : Table} {i : Index} {x : IndexDef}
    (h : t.indexDef? i = some x) :
    x.columns ≠ [] ∧ ∀ c ∈ x.columns, c ∈ t.block.columns.map (·.name) := by
  obtain ⟨hne, hx⟩ : t.columnsOf i ≠ [] ∧ x.columns = t.columnsOf i := by
    unfold Table.indexDef? at h
    split at h
    · cases h
    · obtain rfl := Option.some.inj h
      simp_all
  refine ⟨hx ▸ hne, fun c hc => ?_⟩
  rw [hx, Table.columnsOf, List.mem_filterMap] at hc
  obtain ⟨id, -, hid⟩ := hc
  obtain ⟨f, hf, rfl⟩ := Option.map_eq_some_iff.mp hid
  exact List.mem_map.mpr ⟨f.column, List.mem_map_of_mem (List.mem_of_find?_eq_some hf), rfl⟩

namespace Diagram

/-- An index comes behind its table and other indexes of it. -/
theorem refersBack_of_block {t : Table} {before after : List Statement} {st : Statement}
    (h : t.block.statements = before ++ st :: after) (earlier : List Statement) :
    st.RefersBack (earlier ++ before) := by
  cases before with
  | nil =>
    obtain ⟨rfl, -⟩ := List.cons.inj h
    simp [Statement.RefersBack]
  | cons first rest =>
    obtain ⟨rfl, hrest⟩ := List.cons.inj h
    obtain ⟨own, others, hindexes, rfl, hst⟩ := List.map_eq_append_iff.mp hrest
    obtain ⟨x, others, rfl, rfl, -⟩ := List.map_eq_cons_iff.mp hst
    have hmem : x ∈ t.block.indexes := by simp [hindexes]
    obtain ⟨i, -, hx⟩ := List.mem_filterMap.mp hmem
    obtain ⟨hne, hcolumns⟩ := Table.columns_of_indexDef? hx
    exact ⟨hne, earlier, t.block.columns, own, rfl, hcolumns⟩

theorem refersBack_of_foreignKey? {d : Diagram} {r : Relationship} {k : ForeignKey}
    (h : d.foreignKey? r = some k) (added : List Statement) :
    (Statement.addForeignKey k).RefersBack (d.script.blocks.flatMap Block.statements ++ added) := by
  obtain ⟨s, f, t, g, hs, ht, rfl⟩ := foreignKey?_eq_some_iff.mp h
  have hmem {b : Block} (hb : b ∈ d.script.blocks) : .createTable b.table b.columns ∈
      d.script.blocks.flatMap Block.statements ++ added :=
    List.mem_append_left _ (List.mem_flatMap.mpr ⟨b, hb, List.mem_cons_self⟩)
  exact ⟨⟨s.block.columns, hmem hs.block, List.mem_map_of_mem hs.column⟩,
    t.block.columns, hmem ht.block, List.mem_map_of_mem ht.column⟩

theorem refersBack_of_statements {d : Diagram} {before after : List Statement} {st : Statement}
    (h : d.script.statements = before ++ st :: after) : st.RefersBack before := by
  rw [statements_eq] at h
  rcases append_eq_append_cons h with ⟨rest, hblocks⟩ | ⟨added, rfl, hkeys⟩
  · obtain ⟨b, hb, done, front, back, hfront, rfl⟩ := flatMap_eq_append_cons hblocks
    obtain ⟨t, -, rfl⟩ := List.mem_map.mp hb
    exact refersBack_of_block hfront done
  · obtain ⟨_, ks, hks, -, hst⟩ := List.map_eq_append_iff.mp hkeys
    obtain ⟨k, ks, rfl, rfl, -⟩ := List.map_eq_cons_iff.mp hst
    have hmem : k ∈ d.script.foreignKeys := by simp [hks]
    obtain ⟨r, -, hr⟩ := List.mem_filterMap.mp hmem
    exact refersBack_of_foreignKey? hr added

/-- The script of a diagram is a sequence of statements, rendered one after the other, each of which
refers to earlier ones only. It creates every table that is no view, once and in order, and no other; behind all that it adds
the foreign keys, in the order of relationships. -/
theorem script_statements_definedBeforeUse (d : Diagram) :
    d.sql = String.join <$> d.script.parts.mapM renderPart ∧
      (∀ before st after, d.script.statements = before ++ st :: after → st.RefersBack before) ∧
      (∃ creations, (∀ st ∈ creations, st.addedKey? = none) ∧
        d.script.statements =
          creations ++ (d.relationships.filterMap d.foreignKey?).map .addForeignKey) ∧
      d.script.statements.filterMap (·.createdTable?) =
        d.baseTables.map fun t => (t.name, t.fields.map Field.column) := by
  refine ⟨render_eq_join_parts _, fun _ _ _ => refersBack_of_statements,
    ⟨_, ?_, statements_eq d.script⟩, ?_⟩
  · simp only [List.mem_flatMap, Block.statements, List.mem_cons, List.mem_map]
    rintro st ⟨b, -, rfl | ⟨x, -, rfl⟩⟩ <;> rfl
  · rw [statements_eq, List.filterMap_append, List.filterMap_flatMap]
    simp [Block.statements, Statement.createdTable?, script, Table.block, List.filterMap_map,
      List.flatMap_map, ← List.map_eq_flatMap]

end Diagram

end SchemaScript
