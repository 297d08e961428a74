import SchemaScript.Diagram.Basic
import SchemaScript.Journal
import SchemaScript.Widening.Weight

/-! Widening of foreign keys. Each relationship whose two ends resolve is a link between two slots of
the diagram, and the column of the lighter type takes over the heavier type. A pass goes over the
links once, in order, each link seeing what the ones before it have done; passes can be repeated
until one of them changes nothing, at most one more of them than there are relationships.

The ends of links resolve differently from other look-ups: among tables with the same identifier the
last one counts, views included, and within it the first field with the identifier. -/

namespace SchemaScript

/-- A place of a field: the position of its table, and its own position there. -/
structure Slot where
  table : Nat
  field : Nat
  deriving DecidableEq, Repr

structure Link where
  relationship : String
  source : Slot
  target : Slot
  deriving DecidableEq, Repr

structure TypeChange where
  table : String
  field : String
  oldType : String
  newType : String
  relationship : String
  deriving DecidableEq, Repr

/-- The position of the last element that satisfies `p`. -/
def lastIdx? (p : α → Bool) : List α → Option Nat
  | [] => none
  | a :: as =>
    match lastIdx? p as with
    | some i => some (i + 1)
    | none => if p a then some 0 else none

namespace Diagram

def slot? (d : Diagram) (r : FieldRef) : Option Slot := do
  let i ← lastIdx? (·.id == r.table) d.tables
  let t ← d.tables[i]?
  let j ← t.fields.findIdx? (·.id == r.field)
  some ⟨i, j⟩

def link? (d : Diagram) (r : Relationship) : Option Link := do
  let s ← d.slot? r.source
  let t ← d.slot? r.target
  some ⟨r.name, s, t⟩

def links (d : Diagram) : List Link := d.relationships.filterMap d.link?

def tableAt? (d : Diagram) (s : Slot) : Option Table := d.tables[s.table]?

def fieldAt? (d : Diagram) (s : Slot) : Option Field := do
  let t ← d.tableAt? s
  t.fields[s.field]?

/-- The type of the field in a slot, and no type if the slot holds none. -/
def typeAt (d : Diagram) (s : Slot) : String := ((d.fieldAt? s).map (·.type)).getD ""

def setType (d : Diagram) (s : Slot) (type : String) : Diagram :=
  { d with
    tables := d.tables.modify s.table fun t =>
      { t with fields := t.fields.modify s.field fun f => { f with type } } }

/-- The slot whose type a link changes, and its new type. -/
def widening? (d : Diagram) (l : Link) : Option (Slot × String) :=
  let source := typeWeight (d.typeAt l.source)
  let target := typeWeight (d.typeAt l.target)
  if target < source then some (l.target, d.typeAt l.source)
  else if source < target then some (l.source, d.typeAt l.target)
  else none

def change (d : Diagram) (l : Link) (s : Slot) (type : String) : TypeChange :=
  { table := ((d.tableAt? s).map (·.name)).getD ""
    field := ((d.fieldAt? s).map (·.name)).getD ""
    oldType := d.typeAt s
    newType := type
    relationship := l.relationship }

end Diagram

/-- A diagram after widening, the changes that led there, and how many passes were made. It is not
settled if its widening was cut off while passes still changed types. -/
structure Widened where
  diagram : Diagram
  changes : List TypeChange
  passes : Nat
  settled : Bool
  deriving DecidableEq, Repr

namespace Diagram

def widenAlong (d : Diagram) : List Link → Widened
  | [] => ⟨d, [], 1, true⟩
  | l :: ls =>
    match d.widening? l with
    | none => d.widenAlong ls
    | some (s, type) =>
      let w := (d.setType s type).widenAlong ls
      { w with changes := d.change l s type :: w.changes }

def widenOnce (d : Diagram) : Widened := d.widenAlong d.links

/-- Repeats passes along the same links until one changes nothing, `limit` times at most. -/
def widenRepeatedly (d : Diagram) (ls : List Link) : (limit : Nat) → Widened
  | 0 => ⟨d, [], 0, false⟩
  | limit + 1 =>
    let pass := d.widenAlong ls
    if pass.changes.isEmpty then pass
    else
      let rest := pass.diagram.widenRepeatedly ls limit
      { rest with changes := pass.changes ++ rest.changes, passes := rest.passes + 1 }

def widenUntilStable (d : Diagram) : Widened :=
  d.widenRepeatedly d.links (d.relationships.length + 1)

def widen (d : Diagram) (untilStable : Bool) : Widened :=
  if untilStable then d.widenUntilStable else d.widenOnce

end Diagram

def TypeChange.entry (c : TypeChange) : Entry :=
  .note .debug Journal.widening ("Aligned " ++ c.table ++ "." ++ c.field ++ ": " ++ c.oldType ++ " -> "
    ++ c.newType ++ " (relationship '" ++ c.relationship ++ "')")

/-- What is reported of a whole widening that made so many changes. -/
def wideningJournal (changes : Nat) : List Entry :=
  if changes = 0 then []
  else [.note .info Journal.widening
    ("Aligned " ++ toString changes ++ " foreign key column types")]

/-- What is reported of a widening that was cut off. -/
def unsettledEntry (passes : Nat) : Entry :=
  .note .warning Journal.widening
    ("Type alignment did not settle after " ++ toString passes ++ " passes")

/-- What a widening reports: each change, whether it was cut off, and how many changes there were. -/
def Widened.journal (w : Widened) : List Entry :=
  w.changes.map TypeChange.entry ++ (if w.settled then [] else [unsettledEntry w.passes])
    ++ wideningJournal w.changes.length

end SchemaScript
