import SchemaScript.Diagram.Basic
import SchemaScript.Json.Basic

/-! Diagrams as JSON values: every member under its camel-case key, absent ones as null. -/

namespace SchemaScript

def Field.toJson (f : Field) : Json := .object
  [("id", .string f.id), ("name", .string f.name), ("type", .string f.type),
    ("characterMaximumLength", .ofOption .int f.length), ("precision", .ofOption .int f.precision),
    ("scale", .ofOption .int f.scale), ("nullable", .bool f.nullable),
    ("default", .ofOption .string f.default), ("primaryKey", .bool f.primaryKey)]

def Index.toJson (i : Index) : Json := .object
  [("id", .ofOption .string i.id), ("name", .string i.name), ("unique", .bool i.unique),
    ("fieldIds", .strings i.fieldIds)]

def Table.toJson (t : Table) : Json := .object
  [("id", .string t.id), ("name", .string t.name), ("isView", .bool t.isView),
    ("fields", .array (t.fields.map Field.toJson)),
    ("indexes", .array (t.indexes.map Index.toJson))]

def Relationship.toJson (r : Relationship) : Json := .object
  [("id", .ofOption .string r.id), ("name", .string r.name),
    ("sourceTableId", .string r.source.table), ("sourceFieldId", .string r.source.field),
    ("targetTableId", .string r.target.table), ("targetFieldId", .string r.target.field)]

def Diagram.toJson (d : Diagram) : Json := .object
  [("id", .ofOption .string d.id), ("name", .ofOption .string d.name),
    ("databaseType", .ofOption (.string ·.name) d.dialect),
    ("tables", .array (d.tables.map Table.toJson)),
    ("relationships", .array (d.relationships.map Relationship.toJson))]

end SchemaScript
