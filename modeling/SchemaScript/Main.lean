import SchemaScript.CommandLine.Run

/-! The program: it looks at the variables and files that a command can ask for, runs the command on
them, and carries out what the command has written. No service is reachable from here, so an
adaptation ends in a connection error. -/

namespace SchemaScript.Main

def variableNames : List String :=
  ["OPENAI_API_KEY", "MODEL_NAME", "GEMINI_API_KEY", "GEMINI_MODEL", "LLM_URL", "MODEL", "TEMPERATURE",
    "LLM_TIMEOUT", "LLM_MAX_RETRIES", "LLM_RETRY_DELAY", "DEFAULT_DATABASE_TYPE", "LOG_LEVEL",
    "LOG_FILE", Host.envFileSwitch]

def readEnvironment : IO Environment := do
  let mut e : Environment := ⟨[]⟩
  for name in variableNames do
    if let some value ← IO.getEnv name then e := e.set name value
  return e

/-- What is at a path of the machine. -/
def nodeAt? (path : String) : IO (Option Node) := do
  try
    let bytes ← IO.FS.readBinFile path
    return some (.file (.bytes bytes.toList))
  catch
    | .noFileOrDirectory .. => return none
    | _ => return some .directory

def pathOf (l : Location) : String := "/" ++ "/".intercalate l

/-- Adds what is at a location, and at those above it, to a tree. -/
def lookAt (t : FileTree) (l : Location) : IO FileTree := do
  let mut t := t
  for n in List.range l.length do
    let above := l.take (n + 1)
    if (t.node? above).isNone then
      if let some node ← nodeAt? (pathOf above) then t := t.put above node
  return t

/-- The host, as far as a command with these arguments can see it. -/
def readHost (arguments : List String) : IO Host := do
  let directory := (Path.ofText (← IO.currentDir).toString).names
  let environment ← readEnvironment
  let logFile := (environment.get? "LOG_FILE").toList
  let paths := (arguments ++ logFile).map fun a => ((Path.ofText a).absolute directory).names
  let envFiles := (List.range Host.searchDepth).map fun n =>
    directory.take (directory.length - n) ++ [Host.envFileName]
  let mut t := FileTree.empty
  for l in directory :: (paths ++ envFiles) do t ← lookAt t l
  return ⟨environment, t, directory, none, []⟩

/-- Writes what differs between two trees. -/
def writeChanges (before after : FileTree) : IO Unit := do
  for (l, n) in after.nodes.reverse do
    if before.node? l != some n then
      match n with
      | .directory => IO.FS.createDirAll (pathOf l)
      | .file c => IO.FS.writeBinFile (pathOf l) ⟨c.toBytes.toArray⟩

def offline : Services :=
  ⟨fun _ _ => .error ⟨.connection, "Connection error.", none⟩, false⟩

def escapeText : CommandLine.Escape → String
  | .logging e => e.message
  | .file e => e.message
  | .number e => e.message
  | .adapted (.target (.unknownDialect value)) => Dialect.unknownMessage value
  | .adapted (.target (.settings e)) => e.message
  | .adapted (.number e) => e.message
  | .adapted (.adapter e) => e.message

def run (arguments : List String) : IO UInt32 := do
  let h ← readHost arguments
  let (ending, t) := CommandLine.run offline h arguments
  writeChanges h.files t.session.host.files
  (← IO.getStdout).putStr t.stdout
  (← IO.getStderr).putStr t.stderr
  match ending with
  | .exit code => return code.toUInt32
  | .escaped e =>
    (← IO.getStderr).putStr (escapeText e ++ "\n")
    return 1

end SchemaScript.Main

def main (arguments : List String) : IO UInt32 := SchemaScript.Main.run arguments
