import SchemaScript.Files.Tree
import SchemaScript.Settings.Basic
import SchemaScript.Settings.EnvFile

/-! What the program finds where it runs: an environment, files and a working directory. Reading the
settings first applies the environment file of the working directory or, failing that, of one of the
three directories above it, and then makes the directory of the log file. Neither is undone if the
settings turn out to be faulty. What was read is kept, so that later changes of the environment do not
show until it is dropped. -/

namespace SchemaScript

structure Host where
  environment : Environment
  files : FileTree
  directory : Location
  /-- The settings, once they have been read. -/
  settings : Option Settings
  /-- What is to be said of the environment files that have been read. -/
  notices : List String
  deriving Repr, Inhabited

inductive SettingsError where
  | faults (fs : List Fault)
  | file (e : FileError)
  | environment (e : VariableError)
  deriving DecidableEq, Repr

def SettingsError.message : SettingsError → String
  | .faults fs => faultSummary fs Settings.modelName
  | .file e => e.message
  | .environment e => e.message

/-- Steps that change the host and may fail; a failure keeps the changes made before it. -/
abbrev OnHost := ExceptT SettingsError (StateM Host)

namespace Host

def envFileName : String := ".env"

/-- How many directories are searched for an environment file. -/
def searchDepth : Nat := 4

/-- The nearest environment file, from a directory upwards. A directory of that name counts. -/
def envFileFrom? (t : FileTree) : (depth : Nat) → Location → Option Location
  | 0, _ => none
  | depth + 1, l =>
    match t.node? (l ++ [envFileName]) with
    | some _ => some (l ++ [envFileName])
    | none => if l.isEmpty then none else envFileFrom? t depth l.dropLast

/-- The variable that switches environment files off. -/
def envFileSwitch : String := "PYTHON_DOTENV_DISABLED"

def affirmations : List String := ["1", "TRUE", "T", "YES", "Y"]

def envFileDisabled (e : Environment) : Bool :=
  (e.get? envFileSwitch).any fun value => affirmations.contains (Text.upper value)

/-- Sets what an environment file binds, unless that is switched off. -/
def bindEnvFile (c : Content) : OnHost Unit := do
  let h ← get
  if envFileDisabled h.environment then pure ()
  else
    match c.read with
    | .error e => throw (.file e)
    | .ok s =>
      let (environment, refusal) := EnvFile.apply h.environment s.toList
      set { h with environment, notices := h.notices ++ EnvFile.notices s.toList }
      match refusal with
      | some e => throw (.environment e)
      | none => pure ()

/-- Finds the environment file and sets what it binds; a directory of that name binds nothing. -/
def applyEnvFile : OnHost (Option Location) := do
  let h ← get
  match envFileFrom? h.files searchDepth h.directory with
  | none => return none
  | some l =>
    match h.files.node? l with
    | some (.file c) => bindEnvFile c
    | _ => pure ()
    return some l

/-- Runs an operation on the files. -/
def onFiles (f : FileTree → Location → Except FileError FileTree) : OnHost Unit := do
  let h ← get
  match f h.files h.directory with
  | .ok files => set { h with files }
  | .error e => throw (.file e)

end Host

namespace Settings

/-- Reads the settings, some of which may be given directly. Of the spellings of a name, the last in the
environment counts, and the first that is given directly. -/
def read (given : List (String × Json)) : OnHost Settings := do
  let _ ← Host.applyEnvFile
  let h ← get
  let vars := h.environment.foldedVars.map fun (name, value) => (name, Json.string value)
  match ofMembers (vars ++ (foldNames given).reverse) with
  | .refused fs => throw (.faults fs)
  | .accepted s => do
    match s.logFile with
    | some p => Host.onFiles fun t l => t.ensureDirectories l p.parent
    | none => pure ()
    return s

/-- The settings kept, or read now and kept. Nothing is kept of settings that could not be read. -/
def current : OnHost Settings := do
  match (← get).settings with
  | some s => return s
  | none =>
    let s ← read []
    modify fun h => { h with settings := some s }
    return s

end Settings

def Host.dropSettings (h : Host) : Host := { h with settings := none }

/-- The notices, each on a line of its own, and the host without them. -/
def Host.takeNotices (h : Host) : String × Host :=
  (String.join (h.notices.map (· ++ "\n")), { h with notices := [] })

end SchemaScript
