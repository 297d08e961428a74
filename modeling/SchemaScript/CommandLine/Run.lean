import SchemaScript.Adaptation.Export
import SchemaScript.CommandLine.Arguments
import SchemaScript.Consistency.Check
import SchemaScript.Diagram.File
import SchemaScript.Logging.Basic
import SchemaScript.Text.Escape

/-! Running a command. Scripts go to standard output or to a file, everything said about them to
standard error, where the log lines are as well. A run ends with an exit code, or with an error that
none of the commands handles. -/

namespace SchemaScript.CommandLine

inductive Escape where
  | logging (e : LoggingError)
  | file (e : FileError)
  | number (e : NumberError)
  | adapted (e : ExportError AdaptationError)
  deriving DecidableEq, Repr

inductive Ending where
  | exit (code : Nat)
  | escaped (e : Escape)
  deriving DecidableEq, Repr

structure Terminal where
  session : Session
  logger : Logger
  stdout : String
  stderr : String

/-- Hands entries to the logger. -/
def Terminal.log (t : Terminal) (es : List Entry) : Terminal :=
  let running : Running := es.foldl (fun r e => r.log e) ⟨t.session.host, t.logger, ""⟩
  { t with
    session := { t.session with host := running.host }
    stderr := t.stderr ++ running.console }

/-- Steps of a command, which may end it. -/
abbrev OnTerminal := ExceptT Ending (StateM Terminal)

/-- Both outputs are written without escape sequences. -/
def say (line : String) : OnTerminal Unit :=
  modify fun t => { t with stderr := t.stderr ++ Text.withoutSequences line ++ "\n" }

def print (s : String) : OnTerminal Unit :=
  modify fun t => { t with stdout := t.stdout ++ Text.withoutSequences s }

/-- Runs a step of the session, and shows its notices and logs what it has reported. -/
def onSession (x : OnSession α) : OnTerminal α := fun t =>
  let (a, session) := x t.session
  let (notices, host) := session.host.takeNotices
  let after := { t with session := { session with host }, stderr := t.stderr ++ notices }
  (.ok a, after.log (session.journal.drop t.session.journal.length))

def setUpLogging (level : Option String) : OnTerminal Unit := fun t =>
  let (r, running) := Running.setUpLogging ⟨level, none, none⟩ (Running.start t.session.host)
  let t := { t with
    session := { t.session with host := running.host }
    logger := running.logger
    stderr := t.stderr ++ running.console }
  match r with
  | .ok () => (.ok (), t)
  | .error e => (.error (.escaped (.logging e)), t)

/-- What a report says of a diagram that cannot be loaded. A file that cannot be read at all is not
reported. -/
def loadMessage : LoadError → Except FileError String
  | .file (.undecodable u) => .ok u.message
  | .file e => .error e
  | e => .ok e.message

def errorLine (message : String) : String := "Error: " ++ message

def fallbackLine : String := "Falling back to canonical SQL"

def writtenLine (p : Path) : String := "✓ SQL written to " ++ p.text

def load (file : String) : OnTerminal Diagram := do
  let h := (← get).session.host
  match h.files.loadDiagram h.directory (.ofText file) with
  | .ok d => return d
  | .error e =>
    match loadMessage e with
    | .ok message => do
      say (errorLine message)
      throw (.exit 1)
    | .error e => throw (.escaped (.file e))

def onFiles (f : FileTree → Location → Except FileError FileTree) : OnTerminal Unit := do
  let t ← get
  match f t.session.host.files t.session.host.directory with
  | .ok files => set { t with session.host.files := files }
  | .error e => throw (.escaped (.file e))

/-- Writes a script to a file, making the directories its path goes through, or prints it. -/
def deliver (sql : String) : Option String → OnTerminal Unit
  | none => print sql
  | some out => do
    let p := Path.ofText out
    onFiles fun t l => t.ensureDirectories l p.parent
    onFiles fun t l => t.write l p sql
    say (writtenLine p)

/-- Reports on an exported script, if there is one to go on with. -/
def reported (e : Exported) : OnTerminal String := do
  onSession (Session.report e.journal)
  match e.sql with
  | .ok sql => return sql
  | .error e => throw (.escaped (.number e))

def runCanonical (file : String) (o : Options) : OnTerminal Unit := do
  setUpLogging o.logLevel
  let d ← load file
  deliver (← reported (d.exportScript o.widen o.untilStable)) o.out

def checkDialect : Option String → OnTerminal Unit
  | none => pure ()
  | some name =>
    if (Dialect.parse? name).isSome then pure ()
    else do
      say (errorLine (Dialect.unknownMessage name))
      throw (.exit 2)

/-- The error of an adaptation that the command reports and may fall back from. Any other ends it, also
that there is no prompt to ask with. -/
def reportedFailure? : ExportError AdaptationError → Option AdaptationError
  | .adapter (.prompt _) => none
  | .adapter e => some e
  | _ => none

/-- Falling back exports the diagram as it was loaded, not as the failed adaptation left it. -/
def runAdapted (services : Services) (file : String) (o : Options) : OnTerminal Unit := do
  setUpLogging o.logLevel
  let d ← load file
  checkDialect o.dialect
  let adapter := Dialect.adapt (Session.clientChat services)
  let (r, _) ← onSession (d.exportAdapted adapter o.dialect o.untilStable)
  match r with
  | .ok sql => deliver sql o.out
  | .error e =>
    match reportedFailure? e with
    | none => throw (.escaped (.adapted e))
    | some e => do
      say (errorLine e.message)
      if o.fallback then
        say fallbackLine
        deliver (← reported (d.exportScript true o.untilStable)) o.out
      else throw (.exit 1)

def runCheck (file : String) : OnTerminal Unit := do
  setUpLogging (some "WARNING")
  let d ← load file
  onSession (Session.report d.checkJournal)
  if d.issues.isEmpty then print "✓ No issues found\n"
  else
    print (String.join (d.issues.map fun i => i.line ++ "\n"))
    throw (.exit 1)

def usage : String :=
  "Usage: diagram2sql [export | adapt | check] [OPTIONS] DIAGRAM_JSON\n"

def Command.steps (services : Services) : Command → OnTerminal Unit
  | .help => print usage
  | .run .toCanonical file o => runCanonical file o
  | .run .toDialect file o => runAdapted services file o
  | .run .check file _ => runCheck file

def run (services : Services) (h : Host) (arguments : List String) : Ending × Terminal :=
  let t : Terminal := ⟨.start h, .fresh, "", ""⟩
  match command? arguments with
  | none => (.exit 2, t)
  | some c =>
    let (r, t) := c.steps services t
    (match r with
      | .ok () => .exit 0
      | .error e => e, t)

end SchemaScript.CommandLine
