import SchemaScript.Number.Places
import SchemaScript.Prompt.Value

/-! Layouts say how a value is written: how it is filled up to a width and where it stands in it, which
sign a number shows, how its digits are separated, how many digits or characters there are, and in
which form the value is written. A layout is read in that order, every part being optional. -/

namespace SchemaScript

inductive Alignment where
  | left | right | centre
  /-- The filling stands between the sign and the digits. -/
  | inside
  deriving DecidableEq, Repr

structure Layout where
  fill : Char
  alignment : Alignment
  sign : Option Char
  /-- Whether a zero may not be negative. -/
  plainZero : Bool
  alternate : Bool
  width : Nat
  separator : Option Char
  precision : Option Nat
  /-- The letter of the form, if it is not the usual one. -/
  form : Option Char
  deriving DecidableEq, Repr

namespace Layout

def alignment? : Char → Option Alignment
  | '<' => some .left
  | '>' => some .right
  | '^' => some .centre
  | '=' => some .inside
  | _ => none

/-- Fill and alignment at the front of a layout. -/
def readAlignment : List Char → (Option Char × Option Alignment) × List Char
  | [] => ((none, none), [])
  | f :: cs =>
    match (cs.head?).bind alignment?, alignment? f with
    | some a, _ => ((some f, some a), cs.drop 1)
    | none, some a => ((none, some a), cs)
    | none, none => ((none, none), f :: cs)

/-- Takes a character of a class off the front. -/
def readMark (p : Char → Bool) : List Char → Option Char × List Char
  | c :: cs => if p c then (some c, cs) else (none, c :: cs)
  | [] => (none, [])

def isSign (c : Char) : Bool := c == '+' || c == '-' || c == ' '

def readSeparator (cs : List Char) : Except TemplateError (Option Char × List Char) :=
  match cs with
  | ',' :: '_' :: _ | '_' :: ',' :: _ => .error .bothSeparators
  | ',' :: cs => .ok (some ',', cs)
  | '_' :: cs => .ok (some '_', cs)
  | cs => .ok (none, cs)

def readPrecision : List Char → Except TemplateError (Option Nat × List Char)
  | '.' :: cs => do
    match ← readCount cs with
    | (none, _) => .error .missingPrecision
    | read => return read
  | cs => .ok (none, cs)

def readForm (k : ValueKind) (whole : List Char) : List Char → Except TemplateError (Option Char)
  | [] => .ok none
  | [c] => .ok (some c)
  | _ => .error (.badLayout (String.ofList whole) k)

/-- The forms in which digits can be separated by a comma. An underscore can separate digits of the
other number forms too. The null character is no form at all, but it is found out later. -/
def separableForms : List Char := ['d', 'e', 'f', 'g', 'E', 'G', '%', 'F', '\x00']

def checkSeparator (separator : Option Char) (form : Char) : Except TemplateError Unit :=
  match separator with
  | none => .ok ()
  | some s =>
    if separableForms.contains form || (s == '_' && ['b', 'o', 'x', 'X'].contains form) then .ok ()
    else .error (.separatorWith s form)

/-- The form and the alignment that a kind of value has by itself. -/
def usual : ValueKind → Char × Alignment
  | .number => ('d', .right)
  | _ => ('s', .left)

/-- Reads a layout for a kind of value. A zero before the width fills with zeros, in a number that is
not aligned otherwise behind its sign. -/
def read (k : ValueKind) (whole : List Char) : Except TemplateError Layout := do
  let ((fill, alignment), cs) := readAlignment whole
  let (sign, cs) := readMark isSign cs
  let (plainZero, cs) := readMark (· == 'z') cs
  let (alternate, cs) := readMark (· == '#') cs
  let (zero, cs) := if fill.isNone then readMark (· == '0') cs else (none, cs)
  let (width, cs) ← readCount cs
  let (separator, cs) ← readSeparator cs
  let (precision, cs) ← readPrecision cs
  let form ← readForm k whole cs
  checkSeparator separator (form.getD (usual k).1)
  let byItself := if zero.isSome && (usual k).2 = .right then .inside else (usual k).2
  return {
    fill := fill.getD (zero.getD ' ')
    alignment := alignment.getD byItself
    sign
    plainZero := plainZero.isSome
    alternate := alternate.isSome
    width := width.getD 0
    separator, precision, form }

/-- What of a layout makes no sense for a text. -/
def textFault? (l : Layout) : Option TemplateError :=
  if l.sign == some ' ' then some (.notForText "Space")
  else if l.sign.isSome then some (.notForText "Sign")
  else if l.plainZero then some (.notForText "Negative zero coercion (z)")
  else if l.alternate then some (.notForText "Alternate form (#)")
  else if l.alignment = .inside then some (.notForText "'=' alignment")
  else none

/-- Fills up to the width, between `front` and `cs` if that is where the filling stands. -/
def pad (l : Layout) (front cs : List Char) : List Char :=
  let missing := l.width - (front.length + cs.length)
  let filling (n : Nat) : List Char := List.replicate n l.fill
  match l.alignment with
  | .left => front ++ cs ++ filling missing
  | .right => filling missing ++ front ++ cs
  | .centre => filling (missing / 2) ++ front ++ cs ++ filling (missing - missing / 2)
  | .inside => front ++ filling missing ++ cs

/-- Writes a text: cut to the precision, then filled up. -/
def text (l : Layout) (s : String) : Except TemplateError (List Char) :=
  match l.form.getD 's', l.textFault? with
  | 's', some e => .error e
  | 's', none => .ok (l.pad [] (s.toList.take (l.precision.getD s.length)))
  | c, _ => .error (.unknownKind c .text)

/-- Separates digits, given from the last to the first, into groups, and goes on with zeros up to a
width. -/
def group (size : Nat) (separator : List Char) : (bound : Nat) → (width : Int) → List Char → List Char
  | 0, _, ds => ds
  | bound + 1, width, ds =>
    let n := min size (max (max ds.length width.toNat) 1)
    let first := ds.take n ++ List.replicate (n - ds.length) '0'
    let ds := ds.drop n
    let width := width - n
    if ds.isEmpty && width ≤ 0 then first
    else first ++ separator ++ group size separator bound (width - separator.length) ds

/-- How many digits the groups have. -/
def groupSize (l : Layout) : Nat :=
  if ['b', 'o', 'x', 'X'].contains (l.form.getD 'd') then 4 else 3

/-- The digits in groups; where zeros fill up behind the sign, they are digits too. -/
def groupDigits (l : Layout) (others : Nat) (ds : List Char) : List Char :=
  match l.separator, ds with
  | none, ds => ds
  | some _, [] => []
  | some s, ds =>
    let width : Int := if l.fill == '0' && l.alignment = .inside then l.width - others else 0
    (group l.groupSize [s] (ds.length + l.width + 1) width ds.reverse).reverse

/-- The sign a number shows. -/
def signChars (l : Layout) (negative : Bool) : List Char :=
  if negative then ['-']
  else
    match l.sign with
    | some '+' => ['+']
    | some ' ' => [' ']
    | _ => []

/-- Puts a number together: sign, mark of the base, digits before the point, and the rest. -/
def assemble (l : Layout) (negative : Bool) (mark ds rest : List Char) : List Char :=
  let front := l.signChars negative ++ mark
  l.pad front (l.groupDigits (front.length + rest.length) ds ++ rest)

/-- What of a layout makes no sense for a whole number. -/
def wholeFault? (l : Layout) : Option TemplateError :=
  if l.precision.isSome then some (.notForNumber "Precision")
  else if l.plainZero then some (.notForNumber "Negative zero coercion (z)")
  else none

/-- The mark, the base and the case of the forms of whole numbers. -/
def base? : Char → Option (String × Nat × Bool)
  | 'b' => some ("0b", 2, false)
  | 'o' => some ("0o", 8, false)
  | 'x' => some ("0x", 16, false)
  | 'X' => some ("0X", 16, true)
  | 'd' | 'n' => some ("", 10, false)
  | _ => none

/-- Writes a whole number; only in base ten it may have too many digits. -/
def whole (l : Layout) (i : Int) (mark : String) (base : Nat) (upper : Bool) :
    Except TemplateError (List Char) :=
  let ds := Nat.toDigits base i.natAbs
  if base = 10 ∧ digitLimit < digitCount i then .error (.number .tooManyDigits)
  else
    .ok (l.assemble (i < 0) (if l.alternate then mark.toList else [])
      (if upper then ds.map Char.toUpper else ds) [])

/-- The character with a number. -/
def character (l : Layout) (i : Int) : Except TemplateError (List Char) :=
  if l.sign.isSome then .error (.notForCharacter "Sign")
  else if l.alternate then .error (.notForCharacter "Alternate form (#)")
  else if i < -Int.pow 2 63 ∨ Int.pow 2 63 ≤ i then .error .characterTooLarge
  else if i < 0 ∨ 0x110000 ≤ i then .error .noCharacter
  else .ok (l.pad [] [Char.ofNat i.toNat])

/-- The magnitude of a number in one of the forms with a point or an exponent. -/
def magnitude (l : Layout) (form : Char) (num den : Nat) : List Char :=
  let precision := l.precision.getD 6
  match form with
  | 'f' => Binary64.withPlaces l.alternate precision num den
  | 'e' => Binary64.withExponent l.alternate precision num den
  | _ => Binary64.withDigits l.alternate precision num den

/-- Writes a number in one of the forms with a point or an exponent; the percent form is that of a
hundred times the number. -/
def fraction (l : Layout) (form : Char) (i : Int) : Except TemplateError (List Char) :=
  match Binary64.ofInt i with
  | .finite negative m e fits =>
    let (n, d) := Binary64.ratio m e
    match if form == '%' then Binary64.ofRatio negative (n * 100) d else .finite negative m e fits with
    | .finite negative m e _ =>
      let (n, d) := Binary64.ratio m e
      let cs := l.magnitude (if form == '%' then 'f' else form.toLower) n d
      let cs := (if form.isUpper then cs.map Char.toUpper else cs) ++ (if form == '%' then ['%'] else [])
      .ok (l.assemble negative [] (cs.takeWhile Char.isDigit) (cs.dropWhile Char.isDigit))
    | _ => .ok (l.assemble negative [] [] "inf%".toList)
  | _ => .error .numberTooLarge

def number (l : Layout) (i : Int) : Except TemplateError (List Char) :=
  let form := l.form.getD 'd'
  match base? form, l.wholeFault? with
  | some _, some e => .error e
  | some (mark, base, upper), none => l.whole i mark base upper
  | none, fault =>
    if form == 'c' then
      match fault with
      | some e => .error e
      | none => l.character i
    else if ['e', 'E', 'f', 'F', 'g', 'G', '%'].contains form then l.fraction form i
    else .error (.unknownKind form .number)

/-- Writes a value. An empty layout is that of the value by itself. -/
def apply (layout : List Char) (v : TemplateValue) : Except TemplateError (List Char) :=
  if layout.isEmpty then String.toList <$> v.plain
  else
    match v with
    | .text s => do (← read .text layout).text s
    | .number i => do (← read .number layout).number i
    | v => .error (.noLayout v.kindOf)

end Layout

end SchemaScript
