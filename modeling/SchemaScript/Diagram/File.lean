import SchemaScript.Diagram.Text
import SchemaScript.Files.Tree

/-! Diagrams in files. -/

namespace SchemaScript

inductive LoadError where
  | missing (p : Path)
  | blank (p : Path)
  | faults (p : Path) (fs : List Fault)
  | file (e : FileError)
  deriving DecidableEq, Repr

def LoadError.message : LoadError → String
  | .missing p => "Diagram file not found: " ++ p.text
  | .blank p => "Diagram file is empty: " ++ p.text
  | .faults p fs =>
    "Failed to load diagram from " ++ p.text ++ ": " ++ faultSummary fs Diagram.modelName
  | .file e => e.message

namespace FileTree

/-- Loads the diagram a path leads to. -/
def loadDiagram (t : FileTree) (directory : Location) (p : Path) : Except LoadError Diagram :=
  match t.contains directory p with
  | .error e => .error (.file e)
  | .ok false => .error (.missing p)
  | .ok true =>
    match t.read directory p with
    | .error e => .error (.file e)
    | .ok s =>
      if Text.isBlankText s then .error (.blank p)
      else
        match Diagram.ofText s with
        | .accepted d => .ok d
        | .refused fs => .error (.faults p fs)

/-- Saves a diagram, making the directories its path goes through. -/
def saveDiagram (t : FileTree) (directory : Location) (p : Path) (d : Diagram) :
    Except FileError FileTree := do
  let t ← t.ensureDirectories directory p.parent
  t.write directory p d.toText

end FileTree

end SchemaScript
