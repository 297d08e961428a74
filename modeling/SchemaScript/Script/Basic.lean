import SchemaScript.Diagram.Basic

/-! The canonical script of a diagram, as data. Every table that is no view has a block with its
columns and those of its indexes that name at least one column; the foreign keys follow once all
tables exist. What does not resolve is left out. -/

namespace SchemaScript

namespace Script

structure Column where
  name : String
  type : String
  /-- Nothing, a length, a precision, or a precision and a scale. -/
  size : List Int
  nullable : Bool
  default : Option String
  primaryKey : Bool
  deriving DecidableEq, Repr

structure IndexDef where
  unique : Bool
  name : String
  columns : List String
  deriving DecidableEq, Repr

structure Block where
  table : String
  columns : List Column
  indexes : List IndexDef
  deriving DecidableEq, Repr

structure ForeignKey where
  name : String
  sourceTable : String
  sourceColumn : String
  targetTable : String
  targetColumn : String
  deriving DecidableEq, Repr

end Script

structure Script where
  blocks : List Script.Block
  foreignKeys : List Script.ForeignKey
  deriving DecidableEq, Repr

/-- A number that is given and not zero. -/
def given : Option Int → Option Int
  | some 0 => none
  | n => n

/-- The length counts first; a scale counts only beside a precision. -/
def Field.size (f : Field) : List Int :=
  match given f.length, given f.precision, given f.scale with
  | some n, _, _ => [n]
  | none, some p, some s => [p, s]
  | none, some p, none => [p]
  | none, none, _ => []

def Field.column (f : Field) : Script.Column :=
  { name := f.name
    type := f.type
    size := f.size
    nullable := f.nullable
    default := f.default.filter (· != "")
    primaryKey := f.primaryKey }

namespace Table

/-- The names of the columns an index resolves to. -/
def columnsOf (t : Table) (i : Index) : List String :=
  i.fieldIds.filterMap fun id => (t.field? id).map (·.name)

/-- The index as defined on this table, unless none of its fields resolves. -/
def indexDef? (t : Table) (i : Index) : Option Script.IndexDef :=
  match t.columnsOf i with
  | [] => none
  | columns => some ⟨i.unique, i.name, columns⟩

def block (t : Table) : Script.Block :=
  { table := t.name
    columns := t.fields.map Field.column
    indexes := t.indexes.filterMap t.indexDef? }

end Table

namespace Diagram

/-- The foreign key of a relationship, if both ends resolve to fields of tables that are no views. -/
def foreignKey? (d : Diagram) (r : Relationship) : Option Script.ForeignKey := do
  let s ← d.baseTable? r.source.table
  let t ← d.baseTable? r.target.table
  let f ← s.field? r.source.field
  let g ← t.field? r.target.field
  some ⟨r.name, s.name, f.name, t.name, g.name⟩

def script (d : Diagram) : Script :=
  { blocks := d.baseTables.map Table.block
    foreignKeys := d.relationships.filterMap d.foreignKey? }

/-- How many indexes of tables and how many relationships the script leaves out. -/
def skipped (d : Diagram) : Nat :=
  ((d.baseTables.map fun t => t.indexes.countP fun i => (t.indexDef? i).isNone).foldr (· + ·) 0)
    + d.relationships.countP fun r => (d.foreignKey? r).isNone

end Diagram

end SchemaScript
