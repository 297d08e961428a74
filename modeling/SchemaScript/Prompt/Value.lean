import SchemaScript.Number.Whole
import SchemaScript.Text.Digit
import SchemaScript.Text.Quoted

/-! The values that templates are filled with. They are texts and whole numbers; what can be reached
from these by naming an attribute are their operations and their kind as well, which have little use
but to be named in an error. -/

namespace SchemaScript

inductive ValueKind where
  | text | number | operation | kind
  deriving DecidableEq, Repr

def ValueKind.name : ValueKind → String
  | text => "str"
  | number => "int"
  | operation => "builtin_function_or_method"
  | kind => "type"

inductive TemplateValue where
  | text (s : String)
  | number (i : Int)
  | operation (name : String) (owner : ValueKind)
  | kind (k : ValueKind)
  deriving DecidableEq, Repr

inductive TemplateError where
  | unknownName (name : String)
  | noPosition (index : Nat)
  | noAttribute (k : ValueKind) (name : String)
  | noKindAttribute (k : ValueKind) (name : String)
  | noItems (k : ValueKind)
  | noKindItems (k : ValueKind)
  | itemByName
  | noItem
  | emptyAttribute
  | openBracket
  | afterBracket
  | tooManyDigits
  | openAlone
  | closeAlone
  | openInName
  | unclosed
  | unclosedLayout
  | nestedTooDeep
  | conversionMissing
  | conversionEnd
  | unknownConversion (c : Char)
  | noLayout (k : ValueKind)
  | badLayout (layout : String) (k : ValueKind)
  | missingPrecision
  | bothSeparators
  | separatorWith (separator kind : Char)
  | unknownKind (c : Char) (k : ValueKind)
  | notForText (feature : String)
  | notForNumber (feature : String)
  | notForCharacter (feature : String)
  | noCharacter
  | characterTooLarge
  | numberTooLarge
  | number (e : NumberError)
  deriving DecidableEq, Repr

namespace TemplateError

/-- A character in a message, or its code point if it is not among those that show. -/
def shownChar (last : Char) (c : Char) : String :=
  if ' ' < c ∧ c ≤ last then c.toString
  else "\\x" ++ String.ofList (Nat.toDigits 16 c.toNat)

def message : TemplateError → String
  | unknownName name => Text.quoted name
  | noPosition index =>
    "Replacement index " ++ toString index ++ " out of range for positional args tuple"
  | noAttribute k name => "'" ++ k.name ++ "' object has no attribute '" ++ name ++ "'"
  | noKindAttribute k name => "type object '" ++ k.name ++ "' has no attribute '" ++ name ++ "'"
  | noItems k => "'" ++ k.name ++ "' object is not subscriptable"
  | noKindItems k => "type '" ++ k.name ++ "' is not subscriptable"
  | itemByName => "string indices must be integers, not 'str'"
  | noItem => "string index out of range"
  | emptyAttribute => "Empty attribute in format string"
  | openBracket => "Missing ']' in format string"
  | afterBracket => "Only '.' or '[' may follow ']' in format field specifier"
  | tooManyDigits => "Too many decimal digits in format string"
  | openAlone => "Single '\x7b' encountered in format string"
  | closeAlone => "Single '\x7d' encountered in format string"
  | openInName => "unexpected '\x7b' in field name"
  | unclosed => "expected '\x7d' before end of string"
  | unclosedLayout => "unmatched '\x7b' in format spec"
  | nestedTooDeep => "Max string recursion exceeded"
  | conversionMissing => "end of string while looking for conversion specifier"
  | conversionEnd => "expected ':' after conversion specifier"
  | unknownConversion c => "Unknown conversion specifier " ++ shownChar '~' c
  | noLayout k => "unsupported format string passed to " ++ k.name ++ ".__format__"
  | badLayout layout k =>
    "Invalid format specifier '" ++ layout ++ "' for object of type '" ++ k.name ++ "'"
  | missingPrecision => "Format specifier missing precision"
  | bothSeparators => "Cannot specify both ',' and '_'."
  | separatorWith separator kind =>
    "Cannot specify '" ++ separator.toString ++ "' with '" ++ shownChar '\x7f' kind ++ "'."
  | unknownKind c k =>
    "Unknown format code '" ++ shownChar '\x7f' c ++ "' for object of type '" ++ k.name ++ "'"
  | notForText feature => feature ++ " not allowed in string format specifier"
  | notForNumber feature => feature ++ " not allowed in integer format specifier"
  | notForCharacter feature => feature ++ " not allowed with integer format specifier 'c'"
  | noCharacter => "%c arg not in range(0x110000)"
  | characterTooLarge => "Python int too large to convert to C long"
  | numberTooLarge => "int too large to convert to float"
  | number e => e.message

end TemplateError

namespace TemplateValue

def kindOf : TemplateValue → ValueKind
  | text _ => .text
  | number _ => .number
  | operation .. => .operation
  | kind _ => .kind

def plain : TemplateValue → Except TemplateError String
  | text s => .ok s
  | number i => (printWhole i).mapError .number
  | operation name owner => .ok ("<built-in method " ++ name ++ " of " ++ owner.name ++ " object>")
  | kind k => .ok ("<class '" ++ k.name ++ "'>")

def quoted : TemplateValue → Except TemplateError String
  | text s => .ok (Text.quoted s)
  | v => v.plain

def textOperations : List String :=
  ["capitalize", "casefold", "center", "count", "encode", "endswith", "expandtabs", "find", "format",
    "format_map", "index", "isalnum", "isalpha", "isascii", "isdecimal", "isdigit", "isidentifier",
    "islower", "isnumeric", "isprintable", "isspace", "istitle", "isupper", "join", "ljust", "lower",
    "lstrip", "maketrans", "partition", "removeprefix", "removesuffix", "replace", "rfind", "rindex",
    "rjust", "rpartition", "rsplit", "rstrip", "split", "splitlines", "startswith", "strip",
    "swapcase", "title", "translate", "upper", "zfill"]

def numberOperations : List String :=
  ["as_integer_ratio", "bit_count", "bit_length", "conjugate", "from_bytes", "to_bytes"]

/-- A whole number is also a fraction over one, and a complex number. -/
def numberParts (i : Int) : List (String × Int) :=
  [("real", i), ("imag", 0), ("numerator", i), ("denominator", 1)]

/-- What naming an attribute leads to. -/
def member (name : String) (v : TemplateValue) : Except TemplateError TemplateValue :=
  if name = "__class__" then .ok (.kind v.kindOf)
  else
    match v with
    | text _ =>
      if textOperations.contains name then .ok (.operation name .text)
      else .error (.noAttribute .text name)
    | number i =>
      match (numberParts i).lookup name with
      | some n => .ok (.number n)
      | none =>
        if numberOperations.contains name then .ok (.operation name .number)
        else .error (.noAttribute .number name)
    | operation own _ =>
      if name = "__name__" then .ok (.text own) else .error (.noAttribute .operation name)
    | kind k =>
      if name = "__name__" then .ok (.text k.name) else .error (.noKindAttribute k name)

/-- The item at a position, or under a name; only texts have items, and only at positions. -/
def item (position : Option Nat) (v : TemplateValue) : Except TemplateError TemplateValue :=
  match v, position with
  | text s, some n =>
    match s.toList[n]? with
    | some c => .ok (.text c.toString)
    | none => .error .noItem
  | text _, none => .error .itemByName
  | kind k, _ => .error (.noKindItems k)
  | v, _ => .error (.noItems v.kindOf)

end TemplateValue

/-- Digits at the front of a text as a number, which must not exceed 63 bits. -/
def readCount (cs : List Char) : Except TemplateError (Option Nat × List Char) :=
  let ds := cs.takeWhile Text.isDecimalDigit
  let n := Text.numberOfDigits ds
  if ds.isEmpty then .ok (none, cs)
  else if n < Nat.pow 2 63 then .ok (some n, cs.dropWhile Text.isDecimalDigit)
  else .error .tooManyDigits

end SchemaScript
