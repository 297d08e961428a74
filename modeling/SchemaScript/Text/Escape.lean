/-! Escape sequences, which tell a terminal how to show what follows. A sequence is the escape
character, an opening bracket, digits, semicolons and question marks, and a letter. What is not meant
for a terminal is written without them. -/

namespace SchemaScript.Text

def isParameter (c : Char) : Bool := c.isDigit || c == ';' || c == '?'

/-- What follows the sequence that starts with this escape character. -/
def afterSequence? : List Char → Option (List Char)
  | '[' :: cs =>
    match cs.dropWhile isParameter with
    | c :: rest => if c.isAlpha then some rest else none
    | [] => none
  | _ => none

/-- Drops the sequences of a text, after `skip` characters of one that is dropped already. What is left
is not looked at again. -/
def dropSequences : (skip : Nat) → List Char → List Char
  | _, [] => []
  | skip + 1, _ :: cs => dropSequences skip cs
  | 0, c :: cs =>
    match if c == '\x1b' then afterSequence? cs else none with
    | some rest => dropSequences (cs.length - rest.length) cs
    | none => c :: dropSequences 0 cs

def withoutSequences (s : String) : String := String.ofList (dropSequences 0 s.toList)

end SchemaScript.Text
