import SchemaScript.Draft.Access
import SchemaScript.Widening.Basic

/-! What relationships of a draft lead to. Fields are found by identifiers that may be any values, as
long as these can be looked up by; otherwise they resolve as they do in diagrams. -/

namespace SchemaScript

/-- A field that relationships can refer to, under the identifiers that lead to it. -/
structure DraftSlot where
  tableId : Draft
  fieldId : Draft
  tableName : Draft
  slot : Slot
  deriving Repr

/-- The path to a field. -/
def Slot.path (s : Slot) : List DraftStep :=
  [.member "tables", .place s.table, .member "fields", .place s.field]

structure DraftChange where
  table : Draft
  field : Draft
  oldType : Draft
  newType : Draft
  relationship : Draft
  deriving Repr

/-- The change as it shows in reports. -/
def DraftChange.typeChange (c : DraftChange) : Except DraftError TypeChange := do
  return { table := ← c.table.display
           field := ← c.field.display
           oldType := ← c.oldType.display
           newType := ← c.newType.display
           relationship := ← c.relationship.display }

namespace Draft

/-- What does not hold weighs nothing; anything else has to be a text. -/
def weight (type : Draft) : Except DraftError Nat :=
  match type with
  | text s => .ok (typeWeight s)
  | d => if d.holds then .error (.noMember d.kind "lower") else .ok 0

def numbered (ds : List Draft) : List (Nat × Draft) := ds.zipIdx.map Prod.swap

/-- Puts a value under a key, in the place of the value that is under an equal one. -/
def setKey (known : List (Draft × α)) (key : Draft) (a : α) : List (Draft × α) :=
  if known.any (·.1.same key) then known.map fun p => (p.1, if p.1.same key then a else p.2)
  else known ++ [(key, a)]

/-- A numbered table under its identifier. -/
def keyed (t : Nat × Draft) : Except DraftError (Draft × Nat × Draft) := do
  return (← (← t.2.member "id").asKey, t)

/-- The tables by their identifiers, each with its position; of equal identifiers the last counts. -/
def tablesById (d : Draft) : Except DraftError (List (Draft × Nat × Draft)) := do
  let named ← (numbered (← d.membersOf "tables")).mapM keyed
  return named.foldl (fun known t => setKey known t.1 t.2) []

def slotsOf (t : Draft) (i : Nat) : Except DraftError (List DraftSlot) := do
  (numbered (← t.membersOf "fields")).mapM fun (j, f) => do
    let tableId ← t.member "id"
    let fieldId ← f.member "id"
    let tableName ← t.member "name"
    return { tableId, fieldId := ← fieldId.asKey, tableName, slot := ⟨i, j⟩ }

def slots (d : Draft) : Except DraftError (List DraftSlot) := do
  return (← (← d.tablesById).mapM fun (_, i, t) => t.slotsOf i).flatten

/-- The slot one end of a relationship leads to; in a table the first field with an identifier counts. -/
def slotAt? (slots : List DraftSlot) (tableId fieldId : Draft) :
    Except DraftError (Option DraftSlot) := do
  let tableId ← tableId.asKey
  let fieldId ← fieldId.asKey
  return slots.find? fun s => s.tableId.same tableId && s.fieldId.same fieldId

end Draft

end SchemaScript
