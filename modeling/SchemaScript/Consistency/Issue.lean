import SchemaScript.Json.Basic
import SchemaScript.Text.Quoted

/-! Issues: what in a diagram the script would silently leave out or resolve in a way that may
surprise. Each has a code, a location, a message and the details the message is made of. -/

namespace SchemaScript

inductive Side where
  | source | target
  deriving DecidableEq, Repr

def Side.name : Side → String
  | .source => "source"
  | .target => "target"

inductive Issue where
  | duplicateTable (id : String) (count : Nat)
  | duplicateField (table id : String) (count : Nat)
  | emptyIndex (table index : String) (fieldIds : List String)
  | missingIndexFields (table index : String) (fieldIds : List String)
  | missingTable (relationship : String) (side : Side) (tableId : String)
  | viewReferenced (relationship : String) (side : Side) (table : String)
  | missingField (relationship : String) (side : Side) (table fieldId : String)
  deriving DecidableEq, Repr

namespace Issue

def code : Issue → String
  | duplicateTable .. => "DUPLICATE_TABLE_ID"
  | duplicateField .. => "DUPLICATE_FIELD_ID"
  | emptyIndex .. => "INDEX_EMPTY"
  | missingIndexFields .. => "INDEX_FIELD_MISSING"
  | missingTable .. => "REL_TABLE_MISSING"
  | viewReferenced .. => "REL_REFERENCES_VIEW"
  | missingField .. => "REL_FIELD_MISSING"

def location : Issue → String
  | duplicateTable id _ => id
  | duplicateField table id _ => table ++ "." ++ id
  | emptyIndex table index _ => table ++ "." ++ index
  | missingIndexFields table index _ => table ++ "." ++ index
  | missingTable relationship .. => relationship
  | viewReferenced relationship .. => relationship
  | missingField relationship .. => relationship

/-- What is said of an index some of whose fields are unknown, these shown as a list. -/
def unknownFields (table index fieldIds : String) : String :=
  table ++ ": index '" ++ index ++ "' references unknown fields " ++ fieldIds

def message : Issue → String
  | duplicateTable id count =>
    "table id '" ++ id ++ "' is used by " ++ toString count ++ " tables; only the first is referenced"
  | duplicateField table id count =>
    table ++ ": field id '" ++ id ++ "' is used by " ++ toString count ++ " fields"
  | emptyIndex table index _ =>
    table ++ ": index '" ++ index ++ "' has no resolvable fields and will not be emitted"
  | missingIndexFields table index fieldIds =>
    unknownFields table index (Text.quotedList fieldIds)
  | missingTable relationship side tableId =>
    "relationship '" ++ relationship ++ "': " ++ side.name ++ " table '" ++ tableId
      ++ "' does not exist"
  | viewReferenced relationship side table =>
    "relationship '" ++ relationship ++ "': " ++ side.name ++ " '" ++ table
      ++ "' is a view; no foreign key will be emitted"
  | missingField relationship side table fieldId =>
    "relationship '" ++ relationship ++ "': " ++ side.name ++ " field '" ++ fieldId
      ++ "' does not exist in '" ++ table ++ "'"

def details : Issue → Json
  | duplicateTable id count => .object [("table_id", .string id), ("count", .int count)]
  | duplicateField table id count =>
    .object [("table", .string table), ("field_id", .string id), ("count", .int count)]
  | emptyIndex table index fieldIds | missingIndexFields table index fieldIds =>
    .object [("table", .string table), ("index", .string index), ("field_ids", .strings fieldIds)]
  | missingTable relationship side tableId =>
    .object [("relationship", .string relationship), ("side", .string side.name),
      ("table_id", .string tableId)]
  | viewReferenced relationship side table =>
    .object [("relationship", .string relationship), ("side", .string side.name),
      ("table", .string table)]
  | missingField relationship side table fieldId =>
    .object [("relationship", .string relationship), ("side", .string side.name),
      ("table", .string table), ("field_id", .string fieldId)]

/-- The issue as one line of a report. -/
def line (i : Issue) : String := "[" ++ i.code ++ "] " ++ i.location ++ ": " ++ i.message

end Issue

end SchemaScript
