import SchemaScript.Prompt.Layout

/-! Templates. A template is a text with placeholders in braces; a doubled brace stands for one. A
placeholder has the name of a value, and optionally a conversion and a layout. The name can lead on to
attributes and items of the value, and the layout can hold placeholders of its own. A template is cut
into pieces from left to right; a piece that makes no sense is the last one, and counts only if all
placeholders before it can be filled. -/

namespace SchemaScript

structure Placeholder where
  name : String
  conversion : Option Char
  layout : List Char
  deriving DecidableEq, Repr

inductive Piece where
  | char (c : Char)
  | placeholder (p : Placeholder)
  | fault (e : TemplateError)
  deriving DecidableEq, Repr

namespace Placeholder

/-- What ends the name of a placeholder. -/
def endsName (c : Char) : Bool := c == '\x7d' || c == ':' || c == '!' || c == '\x7b'

/-- The layout up to the closing brace; braces inside it come in pairs. -/
def readLayout : (depth : Nat) → List Char → Option (List Char × List Char)
  | _, [] => none
  | depth, '\x7b' :: cs => (readLayout (depth + 1) cs).map fun (l, rest) => ('\x7b' :: l, rest)
  | 0, '\x7d' :: cs => some ([], cs)
  | depth + 1, '\x7d' :: cs => (readLayout depth cs).map fun (l, rest) => ('\x7d' :: l, rest)
  | depth, c :: cs => (readLayout depth cs).map fun (l, rest) => (c :: l, rest)

def withLayout (name : String) (conversion : Option Char) (cs : List Char) :
    Except TemplateError (Placeholder × List Char) :=
  match readLayout 0 cs with
  | some (layout, rest) => .ok (⟨name, conversion, layout⟩, rest)
  | none => .error .unclosedLayout

def withConversion (name : String) : List Char → Except TemplateError (Placeholder × List Char)
  | [] => .error .conversionMissing
  | c :: '\x7d' :: cs => .ok (⟨name, some c, []⟩, cs)
  | c :: ':' :: cs => withLayout name (some c) cs
  | _ :: _ :: _ => .error .conversionEnd
  | [_] => .error .unclosedLayout

/-- Splits the name off. Nothing ends it between brackets. -/
def splitName : (inBrackets : Bool) → List Char → List Char × List Char
  | _, [] => ([], [])
  | inBrackets, c :: cs =>
    if !inBrackets && endsName c then ([], c :: cs)
    else
      let (name, rest) := splitName (if inBrackets then c != ']' else c == '[') cs
      (c :: name, rest)

/-- Reads a placeholder behind its opening brace. -/
def read (cs : List Char) : Except TemplateError (Placeholder × List Char) :=
  let name := String.ofList (splitName false cs).1
  match (splitName false cs).2 with
  | '\x7d' :: rest => .ok (⟨name, none, []⟩, rest)
  | ':' :: rest => withLayout name none rest
  | '!' :: rest => withConversion name rest
  | [] => .error .unclosed
  | _ => .error .openInName

/-- A step from a value to one of its attributes or items. -/
inductive Access where
  | member (name : String)
  | item (name : String)
  deriving DecidableEq, Repr

/-- What ends the name of an attribute, or of the value itself. -/
def endsMember (c : Char) : Bool := c == '.' || c == '['

/-- Reads a step off the front of what follows the name of a value. -/
def readAccess : List Char → Except TemplateError (Access × List Char)
  | '.' :: cs =>
    let name := cs.takeWhile (!endsMember ·)
    if name.isEmpty then .error .emptyAttribute
    else .ok (.member (String.ofList name), cs.dropWhile (!endsMember ·))
  | '[' :: cs =>
    match cs.takeWhile (· != ']'), cs.dropWhile (· != ']') with
    | _, [] => .error .openBracket
    | [], _ => .error .emptyAttribute
    | name, rest => .ok (.item (String.ofList name), rest.drop 1)
  | _ => .error .afterBracket

/-- The position that a name of digits alone stands for. -/
def position? (name : String) : Except TemplateError (Option Nat) := do
  match ← readCount name.toList with
  | (some n, []) => return some n
  | _ => return none

def follow (v : TemplateValue) : Access → Except TemplateError TemplateValue
  | .member name => v.member name
  | .item name => do v.item (← position? name)

/-- Takes the steps that a text asks for, each of which has a character at least. -/
def followAll : (bound : Nat) → List Char → TemplateValue → Except TemplateError TemplateValue
  | 0, _, v => .ok v
  | _, [], v => .ok v
  | bound + 1, cs, v => do
    let (step, rest) ← readAccess cs
    followAll bound rest (← follow v step)

/-- A name without characters or of digits alone is a position, and there are no values by position. -/
def value (values : List (String × TemplateValue)) (p : Placeholder) :
    Except TemplateError TemplateValue := do
  let cs := p.name.toList
  let first := cs.takeWhile (!endsMember ·)
  let name := String.ofList first
  let position ← position? name
  match if first.isEmpty then some 0 else position, values.lookup name with
  | some n, _ => .error (.noPosition n)
  | none, some v => followAll cs.length (cs.drop first.length) v
  | none, none => .error (.unknownName name)

/-- The value in the form that a conversion gives it. -/
def convert (v : TemplateValue) : Option Char → Except TemplateError TemplateValue
  | none => .ok v
  | some 's' => do return .text (← v.plain)
  | some 'r' => do return .text (← v.quoted)
  | some 'a' => do return .text (Text.asciiOnly (← v.quoted))
  | some c => .error (.unknownConversion c)

/-- Fills a placeholder, given how the placeholders in its layout are filled. -/
def fill (fillLayout : List Char → Except TemplateError (List Char))
    (values : List (String × TemplateValue)) (p : Placeholder) : Except TemplateError (List Char) := do
  let v ← convert (← p.value values) p.conversion
  Layout.apply (← if p.layout.contains '\x7b' then fillLayout p.layout else .ok p.layout) v

end Placeholder

namespace Template

/-- The pieces of a template, after `skip` characters that belong to the piece before. -/
def piecesFrom : (skip : Nat) → List Char → List Piece
  | _, [] => []
  | skip + 1, _ :: cs => piecesFrom skip cs
  | 0, c :: cs =>
    if c == '\x7b' then
      if cs.isEmpty then [.fault .openAlone]
      else if cs.head? == some '\x7b' then .char c :: piecesFrom 1 cs
      else
        match Placeholder.read cs with
        | .ok (p, rest) => .placeholder p :: piecesFrom (cs.length - rest.length) cs
        | .error e => [.fault e]
    else if c == '\x7d' then
      if cs.head? == some '\x7d' then .char c :: piecesFrom 1 cs else [.fault .closeAlone]
    else .char c :: piecesFrom 0 cs

def fillPieces (fillOne : Placeholder → Except TemplateError (List Char)) :
    List Piece → Except TemplateError (List Char)
  | [] => .ok []
  | .char c :: ps => (c :: ·) <$> fillPieces fillOne ps
  | .placeholder p :: ps => do return (← fillOne p) ++ (← fillPieces fillOne ps)
  | .fault e :: _ => .error e

/-- Fills a text whose layouts hold placeholders up to a depth. -/
def fillNested (values : List (String × TemplateValue)) :
    (depth : Nat) → List Char → Except TemplateError (List Char)
  | 0, _ => .error .nestedTooDeep
  | depth + 1, cs => fillPieces (Placeholder.fill (fillNested values depth) values) (piecesFrom 0 cs)

/-- Placeholders can stand in layouts, but not in the layouts of those. -/
def depth : Nat := 2

/-- The template with the values in place of their names. -/
def fill (values : List (String × TemplateValue)) (template : String) :
    Except TemplateError String :=
  String.ofList <$> fillNested values depth template.toList

end Template

end SchemaScript
