import SchemaScript.Dialect
import SchemaScript.Files.Tree
import SchemaScript.Journal
import SchemaScript.Prompt.Template
import SchemaScript.Prompt.Texts

/-! The prompt catalog, and the prompt that asks for a script in a dialect: what the task is, the
instructions on the dialect, and the script itself. The texts of the catalog are files, found by names
that are read as paths are. A dialect has instructions if the catalog has a file of its name. -/

namespace SchemaScript

/-- The name of the instructions on a dialect. -/
def Dialect.promptName (d : Dialect) : String := "dialects/" ++ Text.lower d.name ++ ".txt"

inductive PromptError where
  | missing (p : Path)
  | file (e : FileError)
  | template (e : TemplateError)
  deriving DecidableEq, Repr

def PromptError.message : PromptError → String
  | missing p => "Prompt file not found: " ++ p.text
  | file e => e.message
  | template e => e.message

structure Catalog where
  /-- The path of the catalog in reports. -/
  place : Path
  files : FileTree

namespace Catalog

def basePrompt : String := "export/base.txt"

def footerPrompt : String := "export/footer.txt"

/-- The directory of a catalog within its tree. -/
def top : Location := ["prompts"]

/-- The files that come with the program, by their names. -/
def texts : List (String × String) :=
  [(basePrompt, PromptText.base), (footerPrompt, PromptText.footer),
    ("dialects/mariadb.txt", PromptText.mariadb), ("dialects/mysql.txt", PromptText.mysql),
    ("dialects/postgresql.txt", PromptText.postgresql),
    ("dialects/sql_server.txt", PromptText.sqlServer), ("dialects/sqlite.txt", PromptText.sqlite)]

/-- The catalog that comes with the program. -/
def shipped : Catalog :=
  { place := ⟨"", top⟩
    files := ⟨(top, .directory) :: (top ++ ["dialects"], .directory) :: (top ++ ["export"], .directory)
      :: texts.map fun (name, text) => (top ++ (Path.ofText name).names, .file (.text text))⟩ }

/-- The text a name stands for, if it is the name of a file. A name that leads nowhere is no error. -/
def text? (c : Catalog) (name : String) : Except FileError (Option String) :=
  match c.files.find top (.ofText name) with
  | .ok (.file (.text s)) => .ok (some s)
  | .error .nameTooLong => .error .nameTooLong
  | _ => .ok none

def contains (c : Catalog) (name : String) : Except FileError Bool :=
  (·.isSome) <$> c.text? name

def path (c : Catalog) (name : String) : Path := c.place.join (.ofText name)

def load (c : Catalog) (name : String) : Except PromptError String :=
  match c.text? name with
  | .ok (some s) => .ok s
  | .ok none => .error (.missing (c.path name))
  | .error e => .error (.file e)

/-- What there is to say on a dialect, which may be nothing. -/
def instructions (c : Catalog) (d : Dialect) : Except PromptError String := do
  if ← (c.contains d.promptName).mapError .file then c.load d.promptName else return ""

/-- The names that the instructions on a dialect are loaded under. -/
def instructionNames (c : Catalog) (d : Dialect) : List String :=
  match c.contains d.promptName with
  | .ok true => [d.promptName]
  | _ => []

def loadedEntry (name : String) : Entry := .note .debug Journal.prompts ("Loaded prompt " ++ name)

def missingEntry (c : Catalog) (name : String) : Entry :=
  .note .error Journal.prompts ("No prompt '" ++ name ++ "' in " ++ c.place.text)

/-- What loading a prompt reports. -/
def loadJournal (c : Catalog) (name : String) : List Entry :=
  match c.text? name with
  | .ok (some _) => [loadedEntry name]
  | .ok none => [c.missingEntry name]
  | .error _ => []

end Catalog

namespace Template

def sortedNames (values : List (String × TemplateValue)) : List String :=
  (values.map (·.1)).mergeSort (· ≤ ·)

/-- What a failed filling reports: only the lack of a value. -/
def errorJournal (values : List (String × TemplateValue)) : TemplateError → List Entry
  | .unknownName name =>
    [.note .error Journal.prompts ("Prompt template needs placeholder " ++ Text.quoted name ++ ", got "
      ++ Text.quotedList (sortedNames values))]
  | _ => []

end Template

namespace Dialect

/-- The prompts that a request for this dialect is made of, in the order in which they are loaded. -/
def promptNames (d : Dialect) : List String :=
  [Catalog.basePrompt, Catalog.footerPrompt] ++ Catalog.shipped.instructionNames d

def dialectValue (d : Dialect) : String × TemplateValue := ("DATABASE_TYPE", .text d.name)

/-- The request for a script in a dialect, from the prompts of a catalog. -/
def promptFrom (c : Catalog) (d : Dialect) (sql : String) : Except PromptError String := do
  let base ← (Template.fill [d.dialectValue] (← c.load Catalog.basePrompt)).mapError .template
  let footer ← (Template.fill [d.dialectValue, ("SQL_SCRIPT", .text sql)]
    (← c.load Catalog.footerPrompt)).mapError .template
  return base ++ "\n" ++ (← c.instructions d) ++ "\n" ++ footer

def exportPrompt (d : Dialect) (sql : String) : Except PromptError String :=
  promptFrom .shipped d sql

end Dialect

end SchemaScript
