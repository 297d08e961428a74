import SchemaScript.Diagram.Text
import SchemaScript.Draft.Basic

/-! Drafts from JSON values and from diagrams, and their JSON texts. A draft is checked only when its
text is read again. -/

namespace SchemaScript

namespace Draft

mutual

def ofJson : Json → Draft
  | .null => null
  | .bool b => flag b
  | .int i => int i
  | .float x => float x
  | .string s => text s
  | .array items => list (ofItems items)
  | .object members => object (ofMembers members)

def ofItems : List Json → List Draft
  | [] => []
  | v :: vs => ofJson v :: ofItems vs

def ofMembers : List (String × Json) → List (String × Draft)
  | [] => []
  | (key, v) :: vs => (key, ofJson v) :: ofMembers vs

end

def camelChars : List Char → List Char
  | '_' :: c :: cs => c.toUpper :: camelChars cs
  | c :: cs => c :: camelChars cs
  | [] => []

/-- The camel-case spelling of a snake-case name. -/
def camelCase (name : String) : String := String.ofList (camelChars name.toList)

/-- What belongs at a place of a draft. -/
inductive Place where
  | anything
  | part (m : Model)
  | parts (m : Model)
  deriving DecidableEq, Repr

def Place.ofItems : Place → Place
  | parts m => part m
  | _ => anything

end Draft

open Draft (Place)

/-- The names of a model's members, and what belongs there. -/
def Model.members : Model → List (String × Place)
  | diagram =>
    [("id", .anything), ("name", .anything), ("database_type", .anything), ("tables", .parts table),
      ("relationships", .parts relationship)]
  | table =>
    [("id", .anything), ("name", .anything), ("is_view", .anything), ("fields", .parts field),
      ("indexes", .parts index)]
  | field =>
    ["id", "name", "type", "character_maximum_length", "precision", "scale", "nullable", "default",
      "primary_key"].map (·, .anything)
  | index => ["id", "name", "unique", "field_ids"].map (·, .anything)
  | relationship =>
    ["id", "name", "source_table_id", "source_field_id", "target_table_id",
      "target_field_id"].map (·, .anything)

namespace Draft

mutual

/-- A value as JSON. Where another model belongs, only the members of that model are written. -/
def toJsonAt (p : Place) : Draft → Json
  | null => .null
  | flag b => .bool b
  | int i => .int i
  | float x => .float x
  | text s => .string s
  | dialect d => .string d.name
  | list items => .array (toItems p.ofItems items)
  | object members => .object (toEntries members)
  | record m members _ =>
    .object (toMembers (match p with | .part n => n | _ => m).members members)

def toItems (p : Place) : List Draft → List Json
  | [] => []
  | a :: as => toJsonAt p a :: toItems p as

def toEntries : List (String × Draft) → List (String × Json)
  | [] => []
  | (key, a) :: as => (key, toJsonAt .anything a) :: toEntries as

def toMembers (known : List (String × Place)) : List (String × Draft) → List (String × Json)
  | [] => []
  | (name, a) :: as =>
    match known.lookup name with
    | some p => (camelCase name, toJsonAt p a) :: toMembers known as
    | none => toMembers known as

end

def toJson : Draft → Json := toJsonAt .anything

def ofOption (f : α → Draft) : Option α → Draft
  | none => null
  | some a => f a

def texts (ss : List String) : Draft := list (ss.map text)

end Draft

open Draft

def Field.draft (f : Field) : Draft := .record .field
  [("id", text f.id), ("name", text f.name), ("type", text f.type),
    ("character_maximum_length", ofOption int f.length), ("precision", ofOption int f.precision),
    ("scale", ofOption int f.scale), ("nullable", flag f.nullable),
    ("default", ofOption text f.default), ("primary_key", flag f.primaryKey)] []

def Index.draft (i : Index) : Draft := .record .index
  [("id", ofOption text i.id), ("name", text i.name), ("unique", flag i.unique),
    ("field_ids", texts i.fieldIds)] []

def Table.draft (t : Table) : Draft := .record .table
  [("id", text t.id), ("name", text t.name), ("is_view", flag t.isView),
    ("fields", list (t.fields.map Field.draft)), ("indexes", list (t.indexes.map Index.draft))] []

def Relationship.draft (r : Relationship) : Draft := .record .relationship
  [("id", ofOption text r.id), ("name", text r.name),
    ("source_table_id", text r.source.table), ("source_field_id", text r.source.field),
    ("target_table_id", text r.target.table), ("target_field_id", text r.target.field)] []

def Diagram.draft (d : Diagram) : Draft := .record .diagram
  [("id", ofOption text d.id), ("name", ofOption text d.name),
    ("database_type", ofOption Draft.dialect d.dialect),
    ("tables", list (d.tables.map Table.draft)),
    ("relationships", list (d.relationships.map Relationship.draft))] []

namespace Draft

/-- The draft as it is after saving and loading; it may be refused. -/
def reloaded (d : Draft) : Checked Draft := Diagram.draft <$> Diagram.ofText d.toJson.toText

end Draft

end SchemaScript
