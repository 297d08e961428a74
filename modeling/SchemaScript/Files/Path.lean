/-! Paths as written: a root, which is empty in a relative path, and names. Empty names and single dots
vanish when a path is read; a double dot is kept, because what it means depends on the directories
there are. -/

namespace SchemaScript

structure Path where
  root : String
  names : List String
  deriving DecidableEq, Repr, Inhabited

namespace Path

/-- The pieces of a text between slashes. -/
def pieces : List Char → List (List Char)
  | [] => [[]]
  | c :: cs =>
    if c == '/' then [] :: pieces cs
    else
      match pieces cs with
      | [] => [[c]]
      | p :: ps => (c :: p) :: ps

/-- Exactly two leading slashes are a root of their own. -/
def rootOf : List Char → String
  | '/' :: '/' :: '/' :: _ => "/"
  | '/' :: '/' :: _ => "//"
  | '/' :: _ => "/"
  | _ => ""

def ofText (s : String) : Path :=
  { root := rootOf s.toList
    names := ((pieces s.toList).map String.ofList).filter fun n => n != "" && n != "." }

/-- The path with neither root nor names is written as a dot. -/
def text (p : Path) : String :=
  if p.root = "" ∧ p.names = [] then "." else p.root ++ "/".intercalate p.names

def isAbsolute (p : Path) : Bool := p.root != ""

/-- No file can have a name with a null character. -/
def hasNull (p : Path) : Bool := p.names.any (·.toList.contains '\x00')

/-- The path `q` as seen from `p`. -/
def join (p q : Path) : Path :=
  if q.isAbsolute then q else { p with names := p.names ++ q.names }

def parent (p : Path) : Path := { p with names := p.names.dropLast }

/-- Takes each name back that a double dot follows. -/
def foldDots (names : List String) : List String :=
  (names.foldl (fun kept n => if n = ".." then kept.tail else n :: kept) []).reverse

/-- The path from the top that a path from a directory names, its double dots taken literally. -/
def absolute (directory : List String) (p : Path) : Path :=
  if p.isAbsolute then { p with names := foldDots p.names }
  else ⟨"/", foldDots (directory ++ p.names)⟩

end Path

end SchemaScript
