import SchemaScript.Text.Case

/-! The environment: named variables in the order in which they were first set. Their names are exact,
but a setting is looked up without regard to case, and of several spellings the last one in that order
counts. -/

namespace SchemaScript

structure Environment where
  vars : List (String × String)
  deriving DecidableEq, Repr, Inhabited

/-- Why a variable cannot be set. -/
inductive VariableError where
  | nullByte
  | illegalName
  deriving DecidableEq, Repr

def VariableError.message : VariableError → String
  | .nullByte => "embedded null byte"
  | .illegalName => "illegal environment variable name"

namespace Environment

def get? (e : Environment) (name : String) : Option String := e.vars.lookup name

/-- Gives a key a value, in its old place if it has one. -/
def upsert (key : String) (value : α) : List (String × α) → List (String × α)
  | [] => [(key, value)]
  | (k, v) :: rest => if k = key then (key, value) :: rest else (k, v) :: upsert key value rest

def set (e : Environment) (name value : String) : Environment := ⟨upsert name value e.vars⟩

def unset (e : Environment) (name : String) : Environment := ⟨e.vars.filter (·.1 != name)⟩

/-- Sets a variable to a value, or unsets it. -/
def assign (e : Environment) (name : String) : Option String → Environment
  | some value => e.set name value
  | none => e.unset name

/-- Null characters end names and values, and an equals sign ends a name. -/
def refusal? (name value : String) : Option VariableError :=
  if name.toList.contains '\x00' || value.toList.contains '\x00' then some .nullByte
  else if name.toList.contains '=' then some .illegalName
  else none

/-- Sets the variables that are not set already, be it to the empty text, up to the first one that
cannot be set. -/
def setAbsent (e : Environment) : List (String × String) → Environment × Option VariableError
  | [] => (e, none)
  | (name, value) :: rest =>
    match e.get? name, refusal? name value with
    | some _, _ => setAbsent e rest
    | none, some r => (e, some r)
    | none, none => setAbsent (e.set name value) rest

/-- The variables under the names by which settings are looked up. -/
def foldedVars (e : Environment) : List (String × String) :=
  e.vars.map fun (name, value) => (Text.lower name, value)

end Environment

end SchemaScript
