import SchemaScript.Json.Basic
import SchemaScript.Number.Decimal
import SchemaScript.Text.Quoted

/-! Writing JSON texts over several lines: every item of an array and every member of an object has a
line of its own, indented by two spaces more than the brackets around it. Of the characters of a
string only the quote, the backslash and the controls below U+0020 are escaped. -/

namespace SchemaScript.Json

def escapeChar (c : Char) : List Char :=
  match c with
  | '"' => ['\\', '"']
  | '\\' => ['\\', '\\']
  | '\x08' => ['\\', 'b']
  | '\t' => ['\\', 't']
  | '\n' => ['\\', 'n']
  | '\x0c' => ['\\', 'f']
  | '\r' => ['\\', 'r']
  | c => if c.toNat < 0x20 then '\\' :: 'u' :: Text.hexDigits 4 c.toNat else [c]

def printString (s : String) : List Char := '"' :: (s.toList.flatMap escapeChar ++ ['"'])

def printInt (i : Int) : List Char :=
  if i < 0 then '-' :: Nat.toDigits 10 i.natAbs else Nat.toDigits 10 i.natAbs

/-- Null stands for a number that is not finite. -/
def printFloat : Binary64 → List Char
  | .finite negative m e fits => (Binary64.finite negative m e fits).text.toList
  | _ => "null".toList

/-- Starts a line of the given depth. -/
def newline (depth : Nat) : List Char := '\n' :: List.replicate (2 * depth) ' '

/-- The items after the first, each behind a comma on a line of its own. -/
def printMore (depth : Nat) : List (List Char) → List Char
  | [] => []
  | item :: items => ',' :: (newline depth ++ item ++ printMore depth items)

/-- Writes items between two brackets of the given depth. -/
def printSequence (openMark closeMark : Char) (depth : Nat) : List (List Char) → List Char
  | [] => [openMark, closeMark]
  | item :: items =>
    openMark :: (newline (depth + 1) ++ item ++ printMore (depth + 1) items ++ newline depth
      ++ [closeMark])

mutual

def print (depth : Nat) : Json → List Char
  | .null => "null".toList
  | .bool b => (if b then "true" else "false").toList
  | .int i => printInt i
  | .float x => printFloat x
  | .string s => printString s
  | .array items => printSequence '[' ']' depth (printItems (depth + 1) items)
  | .object members => printSequence '\x7b' '\x7d' depth (printMembers (depth + 1) members)

def printItems (depth : Nat) : List Json → List (List Char)
  | [] => []
  | v :: vs => print depth v :: printItems depth vs

def printMembers (depth : Nat) : List (String × Json) → List (List Char)
  | [] => []
  | (key, v) :: members =>
    (printString key ++ ':' :: ' ' :: print depth v) :: printMembers depth members

end

def toText (v : Json) : String := String.ofList (print 0 v)

end SchemaScript.Json
