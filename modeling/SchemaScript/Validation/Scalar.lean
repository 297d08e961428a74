import SchemaScript.Validation.Checked
import SchemaScript.Number.Decimal
import SchemaScript.Json.Reader

/-! Reading scalar values leniently: an integer may be written as a text or as a number without
fraction, a flag as one of a few words, a default as a number. -/

namespace SchemaScript

namespace Numeral

/-- A sign and what follows it, `true` for a minus. -/
def splitSign : List Char → Bool × List Char
  | '-' :: cs => (true, cs)
  | '+' :: cs => (false, cs)
  | cs => (false, cs)

def startsSigned (cs : List Char) : Bool := cs.head?.any fun c => c == '-' || c == '+'

/-- What zeros and underscores leave, `last` being the one before. A point keeps the one before it, and
so does the end. A minus sign may stand behind zeros. -/
def skipZeros (last : Char) : List Char → Option (List Char)
  | [] => some [last]
  | c :: cs =>
    if c == '0' || c == '_' then skipZeros c cs
    else if c.isDigit || c == '-' then some (c :: cs)
    else if c == '.' then some (last :: c :: cs)
    else none

/-- The text without the zeros at its front; it has to start with a digit. -/
def dropLeadingZeros : List Char → Option (List Char)
  | [] => none
  | c :: cs => if c == '0' then skipZeros c cs else if c.isDigit then some (c :: cs) else none

def isZeroFraction (cs : List Char) : Bool := !cs.isEmpty && cs.all (· == '0')

/-- The text without a fraction of zeros. -/
def dropZeroFraction (cs : List Char) : List Char :=
  if isZeroFraction ((cs.dropWhile (· != '.')).drop 1) then cs.takeWhile (· != '.') else cs

/-- Underscores are neither first nor last, and no two of them are neighbours. -/
def underscoresApart : List Char → Bool
  | [] => true
  | '_' :: '_' :: _ => false
  | _ :: cs => underscoresApart cs

def joinsDigits (cs : List Char) : Bool :=
  cs.head? != some '_' && cs.getLast? != some '_' && underscoresApart cs

/-- The text without its underscores, if none of them is out of place. -/
def dropUnderscores (cs : List Char) : List Char :=
  if joinsDigits cs then cs.filter (· != '_') else cs

/-- An integer is written with an optional sign, underscores between its digits and, perhaps, a fraction
of zeros. What is left without these is a minus sign or none, and digits. -/
def integerDigits? (cs : List Char) : Option (Bool × List Char) :=
  let (negative, magnitude) := splitSign cs
  if startsSigned cs && startsSigned magnitude then none
  else do
    let digits := dropUnderscores (dropZeroFraction (← dropLeadingZeros magnitude))
    match negative, digits with
    | false, '-' :: ds => some (true, ds)
    | true, '-' :: _ => none
    | _, ds => some (negative, ds)

def isSpecial (word : String) (cs : List Char) : Bool :=
  cs.map Char.toLower == word.toList

/-- A decimal number without underscores: digits with at most one point among or around them, at
least one digit, and an optional exponent; or infinity, or not a number. -/
def plainDecimal? (cs : List Char) : Option Binary64 :=
  let (negative, cs) := splitSign cs
  if isSpecial "inf" cs || isSpecial "infinity" cs then some (.infinite negative)
  else if isSpecial "nan" cs then some .notANumber
  else
    let whole := cs.takeWhile Char.isDigit
    let rest := cs.dropWhile Char.isDigit
    let (fraction, rest) :=
      match rest with
      | '.' :: r => (r.takeWhile Char.isDigit, r.dropWhile Char.isDigit)
      | r => ([], r)
    if whole.isEmpty && fraction.isEmpty then none
    else
      match Json.readExponent rest with
      | some (exponent, []) =>
        some (.ofDecimal negative (Json.digitsValue (whole ++ fraction))
          (exponent.getD 0 - fraction.length))
      | _ => none

/-- A decimal number. White space around it is dropped only if it has no underscores. -/
def decimal? (cs : List Char) : Option Binary64 :=
  match plainDecimal? (Text.trimBy Text.isWhiteSpace cs) with
  | some x => some x
  | none => if joinsDigits cs then plainDecimal? (cs.filter (· != '_')) else none

end Numeral

namespace Checked

def string : Json → Checked String
  | .string s => accepted s
  | _ => mismatch .notString

def orNull (read : Json → Checked α) : Json → Checked (Option α)
  | .null => accepted none
  | v => map some (read v)

def list (read : Json → Checked α) : Json → Checked (List α)
  | .array vs => items read 0 vs
  | _ => mismatch .notList

/-- Whether a text starts, at once or behind a minus sign, with an integer of too many digits. -/
def startsTooLarge (cs : List Char) : Bool :=
  let ds := (if cs.head? == some '-' then cs.drop 1 else cs).takeWhile Char.isDigit
  digitLimit < ds.length && ds.head? != some '0'

/-- Digits alone, the first of them zero only if it is the only one. -/
def integerOfDigits (negative : Bool) (ds : List Char) : Checked Int :=
  if ds.isEmpty || digitLimit < ds.length || !ds.all Char.isDigit
      || (ds.head? == some '0' && ds.length != 1) then
    mismatch .integerText
  else
    let n : Int := Json.digitsValue ds
    accepted (if negative then -n else n)

/-- Too many digits are reported as such only where nothing has to be dropped to see them. -/
def integerText (s : String) : Checked Int :=
  if startsTooLarge s.toList then mismatch .integerTooLarge
  else
    match Numeral.integerDigits? (Text.trimBy Text.isWhiteSpace s.toList) with
    | some (negative, ds) => integerOfDigits negative ds
    | none => mismatch .integerText

/-- A number read as an integer must be one, and fit into 64 bits. -/
def integerNumber : Binary64 → Checked Int
  | .finite negative m e fits =>
    match (Binary64.finite negative m e fits).toInt? with
    | none => mismatch .fractional
    | some i => if -Int.pow 2 63 < i ∧ i < Int.pow 2 63 then accepted i else mismatch .integerTooLarge
  | _ => mismatch .notFinite

def integer : Json → Checked Int
  | .int i => accepted i
  | .bool b => accepted (if b then 1 else 0)
  | .float x => integerNumber x
  | .string s => integerText s
  | _ => mismatch .notInteger

def flagWords : List (String × Bool) :=
  [("0", false), ("off", false), ("f", false), ("false", false), ("n", false), ("no", false),
    ("1", true), ("on", true), ("t", true), ("true", true), ("y", true), ("yes", true)]

def flagText (s : String) : Checked Bool :=
  match flagWords.lookup (String.ofList (s.toList.map Char.toLower)) with
  | some b => accepted b
  | none => mismatch .flagText

def flagInteger (i : Int) : Checked Bool :=
  if i = 0 then accepted false else if i = 1 then accepted true else mismatch .flagText

/-- A missing or null flag is off. -/
def flag : Json → Checked Bool
  | .null => accepted false
  | .bool b => accepted b
  | .int i => if -Int.pow 2 63 ≤ i ∧ i < Int.pow 2 63 then flagInteger i else mismatch .notFlag
  | .float x =>
    match integerNumber x with
    | accepted i => flagInteger i
    | refused _ => mismatch .notFlag
  | .string s => flagText s
  | _ => mismatch .notFlag

/-- A column default is raw SQL; flags and numbers stand for the literals that write them. -/
def defaultText : Json → Checked (Option String)
  | .bool b => accepted (some (if b then "TRUE" else "FALSE"))
  | .int i =>
    match printWhole i with
    | .ok s => accepted (some s)
    | .error e => mismatch (.number e)
  | .float x => accepted (some x.text)
  | v => orNull string v

def dialect : Json → Checked Dialect
  | .string s =>
    match Dialect.parse? s with
    | some d => accepted d
    | none => mismatch (.unknownDialect s)
  | _ => mismatch .notDialect

def number : Json → Checked Binary64
  | .float x => accepted x
  | .int i =>
    match Binary64.ofInt i with
    | .infinite _ => mismatch .notNumber
    | x => accepted x
  | .bool b => accepted (.ofInt (if b then 1 else 0))
  | .string s =>
    match Numeral.decimal? s.toList with
    | some x => accepted x
    | none => mismatch .numberText
  | _ => mismatch .notNumber

end Checked

end SchemaScript
