import SchemaScript.Settings.Environment
import SchemaScript.Text.Blank

/-! Environment files: lines that bind variables. A binding is a key, which `export` may precede, an
equals sign and a value, which is quoted or extends to the end of the line. A line that is none of
this is skipped from where it stops making sense. References to variables inside a value are replaced
when all bindings have been read. -/

namespace SchemaScript.EnvFile

def isNewline (c : Char) : Bool := c == '\n' || c == '\r'

/-- Blanks that do not end a line. -/
def isGap (c : Char) : Bool := Text.isBlank c && !isNewline c

/-- A stage of reading takes its part off the text; where it fails it gives the text left there. -/
abbrev Stage := StateT (List Char) (Except (List Char))

def skipExport (cs : List Char) : List Char :=
  let word := "export".toList
  if word.isPrefixOf cs && (cs.drop word.length).head?.any isGap then
    (cs.drop word.length).dropWhile isGap
  else cs

def isKeyChar (c : Char) : Bool := !(c == '=' || c == '#' || Text.isBlank c)

/-- Reads a key, which a comment does not have. -/
def readKey : Stage (Option String) := fun cs =>
  match cs with
  | '#' :: _ => .ok (none, cs)
  | '\'' :: rest =>
    let key := rest.takeWhile (· != '\'')
    match key, rest.dropWhile (· != '\'') with
    | _ :: _, _ :: rest => .ok (some (String.ofList key), rest)
    | _, _ => .error cs
  | cs =>
    let key := cs.takeWhile isKeyChar
    if key.isEmpty then .error cs else .ok (some (String.ofList key), cs.dropWhile isKeyChar)

/-- Reads up to the closing quote. A character after a backslash closes nothing. -/
def readQuoted (mark : Char) : List Char → Option (List Char × List Char)
  | [] => none
  | '\\' :: c :: cs => (readQuoted mark cs).map fun (body, rest) => ('\\' :: c :: body, rest)
  | c :: cs =>
    if c == mark then some ([], cs)
    else (readQuoted mark cs).map fun (body, rest) => (c :: body, rest)

/-- What may follow a backslash between single quotes, and what it stands for. -/
def singleEscapes : List (Char × Char) := [('\\', '\\'), ('\'', '\'')]

def doubleEscapes : List (Char × Char) :=
  [('\\', '\\'), ('\'', '\''), ('"', '"'), ('a', '\x07'), ('b', '\x08'), ('f', '\x0c'), ('n', '\n'),
    ('r', '\r'), ('t', '\t'), ('v', '\x0b')]

def unescape (escapes : List (Char × Char)) : List Char → List Char
  | [] => []
  | '\\' :: c :: cs =>
    match escapes.lookup c with
    | some e => e :: unescape escapes cs
    | none => '\\' :: unescape escapes (c :: cs)
  | c :: cs => c :: unescape escapes cs

/-- What is left of a line before a comment, which starts behind a blank. -/
def cutComment (afterBlank : Bool) : List Char → List Char
  | [] => []
  | c :: cs => if afterBlank && c == '#' then [] else c :: cutComment (Text.isBlank c) cs

def trimRight (cs : List Char) : List Char := (cs.reverse.dropWhile Text.isBlank).reverse

/-- Reads a value, which is quoted or extends to the end of the line. -/
def readValue (afterBlank : Bool) : Stage String := fun cs =>
  match cs with
  | '\'' :: rest =>
    match readQuoted '\'' rest with
    | some (body, rest) => .ok (String.ofList (unescape singleEscapes body), rest)
    | none => .error cs
  | '"' :: rest =>
    match readQuoted '"' rest with
    | some (body, rest) => .ok (String.ofList (unescape doubleEscapes body), rest)
    | none => .error cs
  | cs =>
    let line := cs.takeWhile (!isNewline ·)
    .ok (String.ofList (trimRight (cutComment afterBlank line)), cs.dropWhile (!isNewline ·))

/-- Reads the value behind an equals sign; a key alone has none. -/
def readAssigned : Stage (Option String) := fun cs =>
  match cs with
  | '=' :: rest => (some <$> readValue (rest.head?.any isGap)) (rest.dropWhile isGap)
  | cs => .ok (none, cs)

def skipComment (cs : List Char) : List Char :=
  match cs.dropWhile isGap with
  | '#' :: rest => rest.dropWhile (!isNewline ·)
  | _ => cs

/-- Nothing but a gap may be left on the line. -/
def readLineEnd : Stage Unit := fun cs =>
  match cs.dropWhile isGap with
  | [] => .ok ((), [])
  | '\r' :: '\n' :: rest => .ok ((), rest)
  | c :: rest => if isNewline c then .ok ((), rest) else .error cs

structure Binding where
  key : String
  value : Option String
  deriving DecidableEq, Repr

/-- Reads one binding from a text that does not start with a blank. -/
def readBinding : Stage (Option Binding) := do
  modify skipExport
  let key ← readKey
  modify (·.dropWhile isGap)
  let value ← readAssigned
  modify skipComment
  readLineEnd
  return key.map (⟨·, value⟩)

def skipLine (cs : List Char) : List Char := (cs.dropWhile (!isNewline ·)).drop 1

/-- What is read from a line, or several of them. -/
inductive Statement where
  | binding (b : Binding)
  | comment
  | faulty
  deriving DecidableEq, Repr

def readStatement (cs : List Char) : Statement × List Char :=
  match readBinding cs with
  | .ok (some b, rest) => (.binding b, rest)
  | .ok (none, rest) => (.comment, rest)
  | .error rest => (.faulty, skipLine rest)

/-- Reads statements to the end of the text, each with the number of characters left where the one before
it ends. Each takes a character, so the length of the text bounds their number. -/
def readStatements : (bound : Nat) → List Char → List (Nat × Statement)
  | 0, _ => []
  | bound + 1, cs =>
    match cs.dropWhile Text.isBlank with
    | [] => []
    | c :: rest =>
      let (s, rest) := readStatement (c :: rest)
      (cs.length, s) :: readStatements bound rest

/-- The mark of the byte order is not part of the text. -/
def dropByteOrderMark : List Char → List Char
  | '\ufeff' :: cs => cs
  | cs => cs

def statements (cs : List Char) : List (Nat × Statement) :=
  readStatements cs.length (dropByteOrderMark cs)

def bindings (cs : List Char) : List Binding :=
  (statements cs).filterMap fun
    | (_, .binding b) => some b
    | _ => none

/-- The number of the line on which so many characters are left. -/
def lineAt (cs : List Char) (left : Nat) : Nat := (cs.take (cs.length - left)).countP isNewline + 1

/-- What is said of each statement that makes no sense. It is said to start where the one before it
ends, blank lines included. -/
def notices (cs : List Char) : List String :=
  (statements cs).filterMap fun
    | (left, .faulty) =>
      some ("python-dotenv could not parse statement starting at line " ++ toString (lineAt cs left))
    | _ => none

/-- A reference to a variable: its name, what stands for it if it is not set, and how many characters
the reference takes behind its dollar sign. -/
structure Reference where
  name : String
  default : String
  length : Nat

/-- Reads the reference behind a dollar sign. -/
def reference? : List Char → Option Reference
  | '\x7b' :: cs =>
    let name := cs.takeWhile fun c => c != '\x7d' && c != ':'
    match cs.dropWhile fun c => c != '\x7d' && c != ':' with
    | '\x7d' :: _ => some ⟨String.ofList name, "", name.length + 2⟩
    | ':' :: '-' :: cs =>
      let default := cs.takeWhile (· != '\x7d')
      if default.length < cs.length then
        some ⟨String.ofList name, String.ofList default, name.length + default.length + 4⟩
      else none
    | _ => none
  | _ => none

/-- Replaces the references in a text, after `skip` characters that belong to one already replaced. -/
def expand (value? : String → Option String) : (skip : Nat) → List Char → List Char
  | _, [] => []
  | skip + 1, _ :: cs => expand value? skip cs
  | 0, c :: cs =>
    match if c == '$' then reference? cs else none with
    | some r => ((value? r.name).getD r.default).toList ++ expand value? r.length cs
    | none => c :: expand value? 0 cs

/-- What a reference sees: the environment first, then the bindings before it. A key bound to nothing
is seen as the empty text. -/
def visible (e : Environment) (earlier : List (String × Option String)) (name : String) :
    Option String :=
  match e.get? name with
  | some value => some value
  | none => (earlier.lookup name).map (·.getD "")

/-- The values of all keys. A repeated key keeps its place and takes the last value. -/
def valuesFrom (e : Environment) (earlier : List (String × Option String)) :
    List Binding → List (String × Option String)
  | [] => earlier
  | b :: bs =>
    let value := b.value.map fun v => String.ofList (expand (visible e earlier) 0 v.toList)
    valuesFrom e (Environment.upsert b.key value earlier) bs

/-- Sets what a file binds, except the variables that are set already. -/
def apply (e : Environment) (cs : List Char) : Environment × Option VariableError :=
  e.setAbsent ((valuesFrom e [] (bindings cs)).filterMap fun (key, value) => value.map (key, ·))

end SchemaScript.EnvFile
