import SchemaScript.Number.Binary64

/-! JSON values. A number written with a point or an exponent is a binary64 number, any other is an
integer of any size. An object keeps its members in the order they were written, repeated keys
included; a look-up takes the last of them. -/

namespace SchemaScript

inductive Json where
  | null
  | bool (b : Bool)
  | int (i : Int)
  | float (x : Binary64)
  | string (s : String)
  | array (items : List Json)
  | object (members : List (String × Json))
  deriving Repr, Inhabited

namespace Json

/-- The value of the last member with this key. -/
def member? (key : String) (members : List (String × Json)) : Option Json :=
  members.reverse.lookup key

def get? (key : String) : Json → Option Json
  | .object members => member? key members
  | _ => none

def strings (ss : List String) : Json := .array (ss.map .string)

def ofOption (f : α → Json) : Option α → Json
  | none => .null
  | some a => f a

end Json

end SchemaScript
