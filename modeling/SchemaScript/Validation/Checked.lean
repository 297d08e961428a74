import SchemaScript.Validation.Fault
import SchemaScript.Json.Basic

/-! Reading a value with every fault reported. `Checked` is applicative and no monad: the parts of a
value are read independently of each other, and the faults of all of them are collected in order. -/

namespace SchemaScript

inductive Checked (α : Type) where
  | accepted (value : α)
  | refused (faults : List Fault)
  deriving Repr

namespace Checked

def map (f : α → β) : Checked α → Checked β
  | accepted a => accepted (f a)
  | refused fs => refused fs

def ap : Checked (α → β) → Checked α → Checked β
  | accepted f, accepted a => accepted (f a)
  | accepted _, refused gs => refused gs
  | refused fs, accepted _ => refused fs
  | refused fs, refused gs => refused (fs ++ gs)

instance : Applicative Checked where
  pure := accepted
  map := map
  seq f a := ap f (a ())

def mismatch (m : Mismatch) : Checked α := refused [⟨[], m⟩]

/-- Places the faults of a part inside the whole. -/
def under (step : Step) : Checked α → Checked α
  | accepted a => accepted a
  | refused fs => refused (fs.map fun f => { f with path := step :: f.path })

def toOption : Checked α → Option α
  | accepted a => some a
  | refused _ => none

/-- Reads the items of a list, the first of them numbered `i`. -/
def items (read : Json → Checked α) (i : Nat) : List Json → Checked (List α)
  | [] => accepted []
  | v :: vs => ap (map List.cons ((read v).under (.item i))) (items read (i + 1) vs)

end Checked

/-- The two spellings of a member's key. -/
structure Key where
  camel : String
  snake : String
  deriving DecidableEq, Repr

namespace Key

/-- A key of one word has one spelling. -/
def word (s : String) : Key := ⟨s, s⟩

/-- The member under either spelling, with the spelling found. The camel-case one wins. -/
def find? (key : Key) (members : List (String × Json)) : Option (String × Json) :=
  match Json.member? key.camel members with
  | some v => some (key.camel, v)
  | none => (Json.member? key.snake members).map (key.snake, ·)

def required (key : Key) (read : Json → Checked α) (members : List (String × Json)) : Checked α :=
  match key.find? members with
  | some (spelling, v) => (read v).under (.key spelling)
  | none => .refused [⟨[.key key.camel], .missing⟩]

def withDefault (key : Key) (default : α) (read : Json → Checked α)
    (members : List (String × Json)) : Checked α :=
  match key.find? members with
  | some (spelling, v) => (read v).under (.key spelling)
  | none => .accepted default

end Key

end SchemaScript
