import SchemaScript.Diagram.FromJson
import SchemaScript.Number.Decimal
import SchemaScript.Text.Quoted

/-! Drafts: diagrams while they are edited. A member of a draft may be given any value, whatever its
model asks for, so a draft is a tree of plain values and of records of the models. Operations on
drafts take the values as they find them: a value counts as true or false, equals another or not, and
shows as a text, whatever it is. -/

namespace SchemaScript

/-- The models of the parts of a diagram. -/
inductive Model where
  | diagram | table | field | index | relationship
  deriving DecidableEq, Repr

def Model.name : Model → String
  | diagram => Diagram.modelName
  | table => Table.modelName
  | field => Field.modelName
  | index => Index.modelName
  | relationship => Relationship.modelName

/-- A dialect in the texts of values. -/
def Dialect.label (d : Dialect) : String := "DatabaseType." ++ d.name

inductive Draft where
  | null
  | flag (b : Bool)
  | int (i : Int)
  | float (x : Binary64)
  | text (s : String)
  | dialect (d : Dialect)
  | list (items : List Draft)
  | object (members : List (String × Draft))
  /-- The members have snake-case names and come in the order of the model. Notes are what else a record
  was given; only a path leads to them. -/
  | record (model : Model) (members notes : List (String × Draft))
  deriving Repr, Inhabited

namespace Draft

/-- The name of a value's kind in messages. -/
def kind : Draft → String
  | null => "NoneType"
  | flag _ => "bool"
  | int _ => "int"
  | float _ => "float"
  | text _ => "str"
  | dialect _ => "DatabaseType"
  | list _ => "list"
  | object _ => "dict"
  | record m .. => m.name

/-- Whether a value counts as true: zeros and what is empty do not. -/
def holds : Draft → Bool
  | null => false
  | flag b => b
  | int i => i != 0
  | float x => x.toInt? != some 0
  | text s => s != ""
  | dialect _ => true
  | list items => !items.isEmpty
  | object members => !members.isEmpty
  | record .. => true

/-- The number a value is, a whole one as an integer. Flags are 0 and 1. -/
def number? : Draft → Option (Int ⊕ Binary64)
  | flag b => some (.inl (if b then 1 else 0))
  | int i => some (.inl i)
  | float x =>
    match x.toInt? with
    | some i => some (.inl i)
    | none => some (.inr x)
  | _ => none

/-- The text a value is; a dialect is its name. -/
def text? : Draft → Option String
  | text s => some s
  | dialect d => some d.name
  | _ => none

mutual

/-- Whether two values are equal. Numbers are by value, and members in any order. -/
def same : Draft → Draft → Bool
  | null, null => true
  | list as, list bs => sameItems as bs
  | object as, object bs => as.length == bs.length && sameMembers as bs
  | record m as _, record n bs _ => m == n && as.length == bs.length && sameMembers as bs
  | a, b =>
    (a.number?.isSome && a.number? == b.number?) || (a.text?.isSome && a.text? == b.text?)

def sameItems : List Draft → List Draft → Bool
  | [], [] => true
  | a :: as, b :: bs => same a b && sameItems as bs
  | _, _ => false

/-- Whether each member has an equal one of its name among the others. -/
def sameMembers : List (String × Draft) → List (String × Draft) → Bool
  | [], _ => true
  | (name, a) :: as, bs =>
    (match bs.lookup name with
      | some b => same a b
      | none => false) && sameMembers as bs

end

mutual

/-- A value as it shows inside another. -/
def shown : Draft → Except NumberError String
  | null => .ok "None"
  | flag b => .ok (if b then "True" else "False")
  | int i => printWhole i
  | float x => .ok x.text
  | text s => .ok (Text.quoted s)
  | dialect d => .ok ("<" ++ d.label ++ ": " ++ Text.quoted d.name ++ ">")
  | list items => do return "[" ++ ", ".intercalate (← shownItems items) ++ "]"
  | object members => do return "\x7b" ++ ", ".intercalate (← shownEntries members) ++ "\x7d"
  | record m members _ => do return m.name ++ "(" ++ ", ".intercalate (← shownMembers members) ++ ")"

def shownItems : List Draft → Except NumberError (List String)
  | [] => .ok []
  | a :: as => do return (← shown a) :: (← shownItems as)

def shownEntries : List (String × Draft) → Except NumberError (List String)
  | [] => .ok []
  | (key, a) :: as => do return (Text.quoted key ++ ": " ++ (← shown a)) :: (← shownEntries as)

def shownMembers : List (String × Draft) → Except NumberError (List String)
  | [] => .ok []
  | (name, a) :: as => do return (name ++ "=" ++ (← shown a)) :: (← shownMembers as)

end

/-- A value as it shows in a text of its own: a text stands without quotes. -/
def plain : Draft → Except NumberError String
  | text s => .ok s
  | dialect d => .ok d.label
  | record _ members _ => do return " ".intercalate (← shownMembers members)
  | d => d.shown

end Draft

end SchemaScript
