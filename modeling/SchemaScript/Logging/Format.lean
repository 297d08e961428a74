import SchemaScript.Number.Places
import SchemaScript.Text.CharClass
import SchemaScript.Text.Digit
import SchemaScript.Text.Quoted

/-! Formats of log lines. A format is a text with conversions in it: a percent sign, the name of a field
in parentheses, flags, a width and a precision, each of them optional, and the letter of the
conversion. A doubled percent sign stands for one. A format without any conversion is refused, since
its lines would all be alike.

Two grammars are at work. Whether a format has a conversion is decided by the stricter one, in which a
field is a word; lines are then written by the one that reads any field. -/

namespace SchemaScript.Format

def isFlag (c : Char) : Bool := c == '#' || c == '0' || c == '+' || c == ' ' || c == '-'

def isKind (c : Char) : Bool := "diouxefgcrsa%DIOUXEFGCRSAİıſ".toList.contains c

/-- Takes a star or digits off the front; `none` if there is neither. -/
def skipCount? : List Char → Option (List Char)
  | '*' :: cs => some cs
  | c :: cs => if Text.isDecimalDigit c then some (cs.dropWhile Text.isDecimalDigit) else none
  | [] => none

def skipPrecision : List Char → List Char
  | '.' :: cs => (skipCount? cs).getD ('.' :: cs)
  | cs => cs

/-- Whether a conversion starts behind this percent sign. -/
def startsConversion : List Char → Bool
  | '(' :: cs =>
    match cs.dropWhile Text.isWordChar with
    | ')' :: rest =>
      let rest := rest.dropWhile isFlag
      cs.head?.any Text.isWordChar && (skipPrecision ((skipCount? rest).getD rest)).head?.any isKind
    | _ => false
  | _ => false

/-- Whether a conversion stands anywhere in the format. -/
def isValid : List Char → Bool
  | [] => false
  | c :: cs => (c == '%' && startsConversion cs) || isValid cs

structure Conversion where
  field : Option String
  flags : List Char
  width : Nat
  precision : Option Nat
  kind : Char
  deriving Repr

/-- Reads a field up to the parenthesis that closes it; parentheses inside it come in pairs. -/
def readField : (depth : Nat) → List Char → Option (List Char × List Char)
  | _, [] => none
  | 0, ')' :: cs => some ([], cs)
  | depth + 1, ')' :: cs => (readField depth cs).map fun (f, rest) => (')' :: f, rest)
  | depth, '(' :: cs => (readField (depth + 1) cs).map fun (f, rest) => ('(' :: f, rest)
  | depth, c :: cs => (readField depth cs).map fun (f, rest) => (c :: f, rest)

def readOptionalField : List Char → Option (Option String × List Char)
  | '(' :: cs => (readField 0 cs).map fun (f, rest) => (some (String.ofList f), rest)
  | cs => some (none, cs)

/-- The digits of a precision may be missing behind its point. -/
def readPrecision : List Char → Option Nat × List Char
  | '.' :: cs => (some (Text.numberOfDigits (cs.takeWhile Char.isDigit)), cs.dropWhile Char.isDigit)
  | cs => (none, cs)

/-- A letter of length before the letter of the conversion says nothing. -/
def skipLength : List Char → List Char
  | c :: cs => if c == 'h' || c == 'l' || c == 'L' then cs else c :: cs
  | [] => []

/-- Reads the conversion behind a percent sign. -/
def readConversion (cs : List Char) : Option (Conversion × List Char) := do
  let (field, cs) ← readOptionalField cs
  let flags := cs.takeWhile isFlag
  let cs := cs.dropWhile isFlag
  let width := Text.numberOfDigits (cs.takeWhile Char.isDigit)
  let (precision, cs) := readPrecision (cs.dropWhile Char.isDigit)
  match skipLength cs with
  | kind :: rest => some (⟨field, flags, width, precision, kind⟩, rest)
  | [] => none

/-- The value of a field. Some values are not known; they show as nothing. -/
inductive FieldValue where
  | text (s : String)
  | number (n : Nat)
  | unknown
  deriving DecidableEq, Repr

namespace Conversion

def has (v : Conversion) (flag : Char) : Bool := v.flags.contains flag

/-- Fills up to the width: behind `cs` if it stands at the left, before `front` otherwise, or between
the two with zeros. -/
def pad (v : Conversion) (zeros : Bool) (front cs : List Char) : List Char :=
  let missing := v.width - (front.length + cs.length)
  if v.has '-' then front ++ cs ++ List.replicate missing ' '
  else if zeros then front ++ List.replicate missing '0' ++ cs
  else List.replicate missing ' ' ++ front ++ cs

/-- Writes a text, cut to the precision. -/
def layOutText (v : Conversion) (s : String) : List Char :=
  v.pad false [] (s.toList.take (v.precision.getD s.length))

/-- The digits of a whole number, as many as the precision asks for at least. -/
def wholeDigits (v : Conversion) (base n : Nat) : List Char :=
  let ds := Nat.toDigits base n
  List.replicate (v.precision.getD 0 - ds.length) '0' ++ ds

/-- The mark of the base and the digits of a number. -/
def digits? (v : Conversion) (n : Nat) : Option (List Char × List Char) :=
  let places := v.precision.getD 6
  match v.kind with
  | 'd' | 'i' | 'u' => some ([], v.wholeDigits 10 n)
  | 'o' => some (['0', 'o'], v.wholeDigits 8 n)
  | 'x' => some (['0', 'x'], v.wholeDigits 16 n)
  | 'X' => some (['0', 'X'], (v.wholeDigits 16 n).map Char.toUpper)
  | 'f' | 'F' => some ([], Binary64.withPlaces (v.has '#') places n 1)
  | 'e' => some ([], Binary64.withExponent (v.has '#') places n 1)
  | 'E' => some ([], (Binary64.withExponent (v.has '#') places n 1).map Char.toUpper)
  | 'g' => some ([], Binary64.withDigits (v.has '#') places n 1)
  | 'G' => some ([], (Binary64.withDigits (v.has '#') places n 1).map Char.toUpper)
  | _ => none

/-- Writes a number; a plus sign or a blank may stand before it. -/
def layOutNumber? (v : Conversion) (n : Nat) : Option (List Char) :=
  match v.kind with
  | 's' | 'r' | 'a' => some (v.layOutText (toString n))
  | 'c' => some (v.pad false [] [Char.ofNat n])
  | _ => (v.digits? n).map fun (mark, ds) =>
    let sign := if v.has '+' then ['+'] else if v.has ' ' then [' '] else []
    v.pad (v.has '0') (sign ++ if v.has '#' then mark else []) ds

def layOut? (v : Conversion) : FieldValue → Option (List Char)
  | .number n => v.layOutNumber? n
  | .unknown => some (v.layOutText "")
  | .text s =>
    match v.kind with
    | 's' => some (v.layOutText s)
    | 'r' => some (v.layOutText (Text.quoted s))
    | 'a' => some (v.layOutText (Text.asciiOnly (Text.quoted s)))
    | 'c' => if s.length = 1 then some (v.pad false [] s.toList) else none
    | _ => none

def write? (value? : String → Option FieldValue) (v : Conversion) : Option (List Char) :=
  if v.kind == '%' then some ['%']
  else do v.layOut? (← value? (← v.field))

end Conversion

/-- Fills in the fields, after `skip` characters that belong to a conversion already filled in. A
conversion that makes no sense, or names no field, spoils the line. -/
def fill? (value? : String → Option FieldValue) : (skip : Nat) → List Char → Option (List Char)
  | _, [] => some []
  | skip + 1, _ :: cs => fill? value? skip cs
  | 0, c :: cs =>
    if c == '%' then
      match readConversion cs with
      | some (v, rest) => do
        return (← v.write? value?) ++ (← fill? value? (cs.length - rest.length) cs)
      | none => none
    else (fill? value? 0 cs).map (c :: ·)

end SchemaScript.Format
