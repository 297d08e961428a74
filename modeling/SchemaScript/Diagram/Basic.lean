import SchemaScript.Dialect

/-! Schema diagrams: tables and views with their columns and indexes, and relationships that each join
two columns by identifiers. Nothing in a diagram promises that identifiers are distinct or that they
resolve; look-ups take the first match. -/

namespace SchemaScript

structure Field where
  id : String
  name : String
  type : String
  length : Option Int
  precision : Option Int
  scale : Option Int
  nullable : Bool
  /-- Raw SQL. -/
  default : Option String
  primaryKey : Bool
  deriving DecidableEq, Repr, Inhabited

structure Index where
  id : Option String
  name : String
  unique : Bool
  fieldIds : List String
  deriving DecidableEq, Repr, Inhabited

structure Table where
  id : String
  name : String
  isView : Bool
  fields : List Field
  indexes : List Index
  deriving DecidableEq, Repr, Inhabited

/-- One end of a relationship. -/
structure FieldRef where
  table : String
  field : String
  deriving DecidableEq, Repr, Inhabited

structure Relationship where
  id : Option String
  name : String
  source : FieldRef
  target : FieldRef
  deriving DecidableEq, Repr, Inhabited

structure Diagram where
  id : Option String
  name : Option String
  dialect : Option Dialect
  tables : List Table
  relationships : List Relationship
  deriving DecidableEq, Repr, Inhabited

def Table.field? (t : Table) (id : String) : Option Field :=
  t.fields.find? (·.id == id)

namespace Diagram

/-- The first table or view with this identifier. -/
def table? (d : Diagram) (id : String) : Option Table :=
  d.tables.find? (·.id == id)

/-- The first table with this identifier that is no view. -/
def baseTable? (d : Diagram) (id : String) : Option Table :=
  d.tables.find? fun t => t.id == id && !t.isView

def baseTables (d : Diagram) : List Table :=
  d.tables.filter (!·.isView)

end Diagram

end SchemaScript
