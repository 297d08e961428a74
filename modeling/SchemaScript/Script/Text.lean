import SchemaScript.Number.Whole
import SchemaScript.Script.Basic

/-! The text of a script. A column is a line of its table's statement, and every other statement is a
line of its own. An empty line follows each statement that creates a table, and another the indexes
of that table. A script has no text if one of its sizes has none. -/

namespace SchemaScript.Script

/-- A column from its parts; the size is shown in brackets, unless it has no parts. -/
def columnText (name type : String) (size : List String) (nullable : Bool) (default : Option String)
    (primaryKey : Bool) : String :=
  name ++ " " ++ type
    ++ (if size.isEmpty then "" else "(" ++ ", ".intercalate size ++ ")")
    ++ (if nullable then "" else " NOT NULL")
    ++ (match default with
      | some value => " DEFAULT " ++ value
      | none => "")
    ++ (if primaryKey then " PRIMARY KEY" else "")

def Column.render (c : Column) : Except NumberError String := do
  return columnText c.name c.type (← c.size.mapM printWhole) c.nullable c.default c.primaryKey

def IndexDef.text (table : String) (i : IndexDef) : String :=
  "CREATE " ++ (if i.unique then "UNIQUE " else "") ++ "INDEX " ++ i.name ++ " ON " ++ table ++ " ("
    ++ ", ".intercalate i.columns ++ ");\n"

def ForeignKey.text (k : ForeignKey) : String :=
  "ALTER TABLE " ++ k.sourceTable ++ " ADD CONSTRAINT " ++ k.name ++ " FOREIGN KEY ("
    ++ k.sourceColumn ++ ") REFERENCES " ++ k.targetTable ++ " (" ++ k.targetColumn ++ ");\n"

def createTableText (table : String) (columns : List String) : String :=
  "CREATE TABLE " ++ table ++ " (\n" ++ ",\n".intercalate (columns.map ("  " ++ ·)) ++ "\n);\n\n"

def Block.render (b : Block) : Except NumberError String := do
  let columns ← b.columns.mapM Column.render
  return createTableText b.table columns ++ String.join (b.indexes.map (IndexDef.text b.table)) ++ "\n"

def render (s : Script) : Except NumberError String := do
  let blocks ← s.blocks.mapM Block.render
  return String.join blocks ++ String.join (s.foreignKeys.map ForeignKey.text)

end SchemaScript.Script
