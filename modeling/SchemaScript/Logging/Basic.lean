import SchemaScript.Journal
import SchemaScript.Logging.Format
import SchemaScript.Settings.Host

/-! Where log entries go. The logger of the program has a threshold and handlers; each handler has a
threshold of its own, a format, and writes to standard error or to a file. Setting the logger up
replaces its handlers, and asking for a name sets it up first if it has none. -/

namespace SchemaScript

structure Handler where
  threshold : Nat
  format : String
  /-- The absolute path of a file, or standard error. -/
  file : Option Path
  deriving DecidableEq, Repr

structure Logger where
  threshold : Nat
  propagates : Bool
  handlers : List Handler
  deriving DecidableEq, Repr

namespace Logger

/-- The logger of a program that has not logged yet. -/
def fresh : Logger := ⟨Level.debug.number, false, []⟩

/-- The threshold that applies if the logger has none of its own. -/
def inheritedThreshold : Nat := Level.warning.number

def effectiveThreshold (l : Logger) : Nat :=
  if l.threshold = 0 then inheritedThreshold else l.threshold

def levelNumbers : List (String × Nat) :=
  [("NOTSET", 0), ("DEBUG", 10), ("INFO", 20), ("WARNING", 30), ("WARN", 30), ("ERROR", 40),
    ("CRITICAL", 50), ("FATAL", 50)]

/-- What a name can stand for instead of a level. This shows only when the logger is given one. -/
inductive NoLevel where
  | format | styles
  deriving DecidableEq, Repr

def NoLevel.message : NoLevel → String
  | format => "Unknown level: '%(levelname)s:%(name)s:%(message)s'"
  | styles => "Level not an integer or a valid string: \x7b"
      ++ "'%': (<class 'logging.PercentStyle'>, '%(levelname)s:%(name)s:%(message)s'), "
      ++ "'\x7b': (<class 'logging.StrFormatStyle'>, '\x7blevelname\x7d:\x7bname\x7d:\x7bmessage\x7d'), "
      ++ "'$': (<class 'logging.StringTemplateStyle'>, "
      ++ "'$\x7blevelname\x7d:$\x7bname\x7d:$\x7bmessage\x7d')\x7d"

def otherNames : List (String × NoLevel) := [("BASIC_FORMAT", .format), ("_STYLES", .styles)]

def defaultFormat : String :=
  "%(asctime)s - %(name)s - %(levelname)s - [%(filename)s:%(lineno)d] - %(message)s"

/-- The number of a level, or what else the name stands for. -/
def level? (name : String) : Option (Nat ⊕ NoLevel) :=
  ((levelNumbers.lookup name).map .inl) <|> ((otherNames.lookup name).map .inr)

/-- The name under which a part of the program logs. -/
def fullName (name : String) : String :=
  if name = Journal.root || (Journal.root ++ ".").toList.isPrefixOf name.toList then name
  else Journal.root ++ "." ++ name

/-- The fields of what an entry does not know, as its time and the line that wrote it. -/
def unknownFields : List String :=
  ["args", "asctime", "created", "exc_info", "exc_text", "filename", "funcName", "lineno", "module",
    "msecs", "pathname", "process", "processName", "relativeCreated", "stack_info", "thread",
    "threadName"]

/-- The fields of an entry that a format can name. -/
def field? (e : Entry) (name : String) : Option Format.FieldValue :=
  if unknownFields.contains name then some .unknown
  else
    [("levelname", .text e.level.name), ("name", .text e.origin), ("message", .text e.message),
      ("msg", .text e.message), ("levelno", .number e.level.number)].lookup name

/-- A failure is shown below the line of the entry. -/
def failureLine (line : List Char) : Option String → List Char
  | none => []
  | some message =>
    (if line.getLast? == some '\n' then [] else ['\n']) ++ "Failure: ".toList ++ message.toList

/-- What a handler writes for an entry. -/
def line? (format : String) (e : Entry) : Option String :=
  (Format.fill? (field? e) 0 format.toList).map fun cs =>
    String.ofList (cs ++ failureLine cs e.failure ++ ['\n'])

end Logger

inductive LoggingError where
  | settings (e : SettingsError)
  | unknownLevel (name : String)
  | notALevel (other : Logger.NoLevel)
  | invalidFormat (format : String)
  | file (e : FileError)
  deriving DecidableEq, Repr

def LoggingError.message : LoggingError → String
  | .settings e => e.message
  | .unknownLevel name => "module 'logging' has no attribute '" ++ name ++ "'"
  | .notALevel other => other.message
  | .invalidFormat format => "Invalid format '" ++ format ++ "' for '%' style"
  | .file e => e.message

/-- A program that runs: its host, its logger, and what it has written to standard error. -/
structure Running where
  host : Host
  logger : Logger
  console : String
  deriving Repr

abbrev OnRunning := ExceptT LoggingError (StateM Running)

/-- How logging is set up; what is not given comes from the settings or is the default. -/
structure LoggingChoice where
  level : Option String
  file : Option Path
  format : Option String
  deriving Repr, Inhabited

namespace Running

def start (h : Host) : Running := ⟨h, .fresh, ""⟩

/-- The settings of the host. Notices about its environment file go to standard error. -/
def settings : OnRunning Settings := fun r =>
  let (s, host) := Settings.current r.host
  let (notices, host) := host.takeNotices
  let after := { r with host, console := r.console ++ notices }
  match s with
  | .ok s => (.ok s, after)
  | .error e => (.error (.settings e), after)

def addHandler (h : Handler) : OnRunning Unit :=
  modify fun r => { r with logger := { r.logger with handlers := r.logger.handlers ++ [h] } }

/-- The file is opened at once, which makes it if it is not there. -/
def openFile (p : Path) : OnRunning Unit := do
  let r ← get
  match r.host.files.append [] p "" with
  | .ok files => set { r with host := { r.host with files } }
  | .error e => throw (.file e)

/-- An empty text chooses nothing. -/
def chosen (choice : Option String) (default : String) : String :=
  match choice with
  | some s => if s = "" then default else s
  | none => default

/-- Takes the handlers away and checks that a name stands for a level. -/
def freshThreshold (level : Nat ⊕ Logger.NoLevel) : OnRunning Nat := do
  modify fun r => { r with logger.handlers := [] }
  match level with
  | .inl n => return n
  | .inr other => throw (.notALevel other)

/-- A name that stands for nothing and an invalid format are found before anything changes; a file that
cannot be opened leaves the handler for standard error in place. -/
def setUpLogging (c : LoggingChoice) : OnRunning Unit := do
  let s ← settings
  let name := Text.upper (chosen c.level s.logLevel)
  let format := chosen c.format Logger.defaultFormat
  let level ← match Logger.level? name with
    | some level => pure level
    | none => throw (.unknownLevel name)
  if !Format.isValid format.toList then throw (.invalidFormat format)
  let threshold ← freshThreshold level
  modify fun r => { r with logger := ⟨threshold, false, [⟨threshold, format, none⟩]⟩ }
  match c.file <|> s.logFile with
  | some p =>
    let p := p.absolute (← get).host.directory
    openFile p
    addHandler ⟨threshold, format, some p⟩
  | none => pure ()

/-- The full name under which a part logs; there are handlers afterwards. -/
def loggerName (name : String) : OnRunning String := do
  if (← get).logger.handlers.isEmpty then setUpLogging default
  return Logger.fullName name

def handle (e : Entry) (r : Running) (h : Handler) : Running :=
  if e.level.number < h.threshold then r
  else
    match Logger.line? h.format e, h.file with
    | none, _ => r
    | some line, none => { r with console := r.console ++ line }
    | some line, some p =>
      match r.host.files.append [] p line with
      | .ok files => { r with host := { r.host with files } }
      | .error _ => r

/-- Hands an entry to the handlers. -/
def log (e : Entry) (r : Running) : Running :=
  if e.level.number < r.logger.effectiveThreshold then r else r.logger.handlers.foldl (handle e) r

end Running

end SchemaScript
