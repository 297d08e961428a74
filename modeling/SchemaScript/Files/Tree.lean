import SchemaScript.Files.Path
import SchemaScript.Text.Lines
import SchemaScript.Text.Utf8

/-! A tree of files, as the program finds it and leaves it. A location is the list of names from the
top of the tree down; the top itself is always a directory. Paths are followed name by name from a
directory, and every operation either gives its result or the reason why the tree does not allow it. -/

namespace SchemaScript

inductive FileError where
  | notFound
  | isDirectory
  | notDirectory
  | alreadyExists
  | nameTooLong
  | nullByte
  | undecodable (bytes : Text.Undecodable)
  deriving DecidableEq, Repr

def FileError.message : FileError → String
  | .notFound => "No such file or directory"
  | .isDirectory => "Is a directory"
  | .notDirectory => "Not a directory"
  | .alreadyExists => "File exists"
  | .nameTooLong => "File name too long"
  | .nullByte => "embedded null byte"
  | .undecodable u => u.message

/-- What a file holds: a text, or bytes that need not be one. -/
inductive Content where
  | text (s : String)
  | bytes (bs : List UInt8)
  deriving DecidableEq, Repr

namespace Content

def toBytes : Content → List UInt8
  | text s => Text.utf8 s
  | bytes bs => bs

/-- The content as a text, with its line ends unified. -/
def read : Content → Except FileError String
  | text s => .ok (String.ofList (Text.unifyNewlines s.toList))
  | bytes bs =>
    match Text.decode bs with
    | .ok cs => .ok (String.ofList (Text.unifyNewlines cs))
    | .error u => .error (.undecodable u)

def append (c : Content) (s : String) : Content :=
  match c with
  | text t => text (t ++ s)
  | bytes bs => bytes (bs ++ Text.utf8 s)

end Content

inductive Node where
  | file (content : Content)
  | directory
  deriving DecidableEq, Repr

abbrev Location := List String

structure FileTree where
  nodes : List (Location × Node)
  deriving Repr, Inhabited

namespace FileTree

def empty : FileTree := ⟨[]⟩

def node? (t : FileTree) : Location → Option Node
  | [] => some .directory
  | l => t.nodes.lookup l

def put (t : FileTree) (l : Location) (n : Node) : FileTree :=
  ⟨(l, n) :: t.nodes.filter (·.1 != l)⟩

/-- Names of more bytes than this are refused. -/
def nameLimit : Nat := 255

/-- Paths of more bytes than this are refused. -/
def pathLimit : Nat := 4095

/-- Follows one name from a location, which has to be a directory. -/
def step (t : FileTree) (here : Location) (name : String) : Except FileError Location :=
  match t.node? here with
  | none => .error .notFound
  | some (.file _) => .error .notDirectory
  | some .directory =>
    if name = ".." then .ok here.dropLast
    else if nameLimit < name.utf8ByteSize then .error .nameTooLong
    else .ok (here ++ [name])

def follow (t : FileTree) (here : Location) (names : List String) : Except FileError Location :=
  names.foldlM t.step here

/-- Where a path leads from a directory; nothing need be there yet. The path is looked at as a whole
before it is followed. -/
def locate (t : FileTree) (directory : Location) (p : Path) : Except FileError Location :=
  if p.hasNull then .error .nullByte
  else if pathLimit < p.text.utf8ByteSize then .error .nameTooLong
  else t.follow (if p.isAbsolute then [] else directory) p.names

def find (t : FileTree) (directory : Location) (p : Path) : Except FileError Node := do
  let l ← t.locate directory p
  match t.node? l with
  | some n => .ok n
  | none => .error .notFound

/-- Whether something is there. A path that leads nowhere is no error. -/
def contains (t : FileTree) (directory : Location) (p : Path) : Except FileError Bool :=
  match t.find directory p with
  | .ok _ => .ok true
  | .error .nameTooLong => .error .nameTooLong
  | .error _ => .ok false

def read (t : FileTree) (directory : Location) (p : Path) : Except FileError String := do
  match ← t.find directory p with
  | .file c => c.read
  | .directory => .error .isDirectory

/-- Replaces the content of a file by what `f` makes of it, creating the file if it is not there. -/
def update (t : FileTree) (directory : Location) (p : Path) (f : Option Content → Content) :
    Except FileError FileTree := do
  let l ← t.locate directory p
  match t.node? l with
  | some .directory => .error .isDirectory
  | some (.file c) => .ok (t.put l (.file (f (some c))))
  | none =>
    match t.node? l.dropLast with
    | some .directory => .ok (t.put l (.file (f none)))
    | some (.file _) => .error .notDirectory
    | none => .error .notFound

def write (t : FileTree) (directory : Location) (p : Path) (s : String) : Except FileError FileTree :=
  t.update directory p fun _ => .text s

def append (t : FileTree) (directory : Location) (p : Path) (s : String) :
    Except FileError FileTree :=
  t.update directory p fun c => (c.getD (.text "")).append s

/-- Makes one directory, whose parent has to be there. -/
def makeDirectory (t : FileTree) (directory : Location) (p : Path) : Except FileError FileTree := do
  let l ← t.locate directory p
  match t.node? l with
  | some _ => .error .alreadyExists
  | none =>
    match t.node? l.dropLast with
    | some .directory => .ok (t.put l .directory)
    | some (.file _) => .error .notDirectory
    | none => .error .notFound

/-- Makes a directory unless it is there. Anything else in its place is an error. -/
def ensureDirectory (t : FileTree) (directory : Location) (p : Path) : Except FileError FileTree :=
  match t.makeDirectory directory p with
  | .error .notFound => .error .notFound
  | .error e =>
    match t.find directory p with
    | .ok .directory => .ok t
    | _ => .error e
  | .ok t => .ok t

/-- Makes a directory and those above it, given its names from the last to the first. Those above it
are made only if one of them is missing. -/
def ensureAbove (t : FileTree) (directory : Location) (root : String) :
    List String → Except FileError FileTree
  | [] => t.ensureDirectory directory ⟨root, []⟩
  | n :: above =>
    let p : Path := ⟨root, (n :: above).reverse⟩
    match t.ensureDirectory directory p with
    | .error .notFound => do
      let t ← t.ensureAbove directory root above
      t.ensureDirectory directory p
    | r => r

/-- Makes every directory a path goes through, the last included. -/
def ensureDirectories (t : FileTree) (directory : Location) (p : Path) : Except FileError FileTree :=
  t.ensureAbove directory p.root p.names.reverse

end FileTree

end SchemaScript
