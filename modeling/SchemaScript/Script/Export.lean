import SchemaScript.Script.Text
import SchemaScript.Text.Lines
import SchemaScript.Widening.Basic

/-! Exporting a diagram: its foreign keys are widened first, if that is wanted, and the script is the
text of the widened diagram, if it has one. -/

namespace SchemaScript

def foreignKeyStart : List Char := "ALTER TABLE ".toList

/-- How many lines of a script start as a foreign key does. -/
def foreignKeyLines (sql : String) : Nat :=
  (Text.lines sql.toList).countP foreignKeyStart.isPrefixOf

namespace Script

/-- What is reported of parts that the script leaves out. -/
def skippedJournal (skipped : Nat) : List Entry :=
  if skipped = 0 then []
  else [.note .debug Journal.script
    ("Skipped " ++ toString skipped ++ " indexes/foreign keys with unresolved references")]

def exportedEntry (tables : Nat) (sql : String) : Entry :=
  .note .info Journal.script
    ("Exported " ++ toString tables ++ " tables and " ++ toString (foreignKeyLines sql)
      ++ " foreign keys")

end Script

namespace Diagram

def sql (d : Diagram) : Except NumberError String := d.script.render

/-- What writing the script reports, once it is written. -/
def scriptJournal (d : Diagram) : List Entry :=
  match d.sql with
  | .ok _ => if d.tables.isEmpty then [] else Script.skippedJournal d.skipped
  | .error _ => []

/-- What exporting the script reports, once it is written. -/
def exportJournal (d : Diagram) : List Entry :=
  match d.sql with
  | .ok sql => [Script.exportedEntry d.baseTables.length sql]
  | .error _ => []

end Diagram

/-- An exported script, the diagram as the export leaves it, and what was reported. -/
structure Exported where
  sql : Except NumberError String
  diagram : Diagram
  journal : List Entry
  deriving Repr

def Exported.ofWidened (d : Diagram) (before : List Entry) : Exported :=
  { sql := d.sql
    diagram := d
    journal := before ++ d.scriptJournal ++ d.exportJournal }

namespace Diagram

/-- A diagram without tables gives the empty script and reports nothing. -/
def exportScript (d : Diagram) (widenTypes untilStable : Bool) : Exported :=
  if d.tables.isEmpty then ⟨.ok "", d, []⟩
  else if widenTypes then
    let w := d.widen untilStable
    .ofWidened w.diagram w.journal
  else .ofWidened d []

end Diagram

end SchemaScript
