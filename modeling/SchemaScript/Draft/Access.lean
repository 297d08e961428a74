import SchemaScript.Draft.Basic

/-! Reaching into drafts. Every access can fail, as any value may be where a record or a list should
be. Positions count from the end if they are negative. -/

namespace SchemaScript

inductive DraftError where
  | noMember (kind name : String)
  | noRecordMember (m : Model) (name : String)
  | fixedMember (name : String)
  | noField (m : Model) (name : String)
  | notIterable (kind : String)
  | notHashable (kind : String)
  | notIndexed (kind : String)
  | notText (position : Nat) (kind : String)
  | noItem
  | noCharacter
  | noKey (i : Int)
  | noItemToRemove
  | nothingToRemove
  | indexTooLarge
  | positionTooLarge
  | number (e : NumberError)
  deriving DecidableEq, Repr

def DraftError.message : DraftError → String
  | noMember kind name => "'" ++ kind ++ "' object has no attribute '" ++ name ++ "'"
  | noRecordMember m name => "'" ++ m.name ++ "' object has no attribute " ++ Text.quoted name
  | fixedMember name => "<enum 'Enum'> cannot set attribute '" ++ name ++ "'"
  | noField m name => "\"" ++ m.name ++ "\" object has no field \"" ++ name ++ "\""
  | notIterable kind => "'" ++ kind ++ "' object is not iterable"
  | notHashable kind => "unhashable type: '" ++ kind ++ "'"
  | notIndexed kind => "'" ++ kind ++ "' object is not subscriptable"
  | notText position kind =>
    "sequence item " ++ toString position ++ ": expected str instance, " ++ kind ++ " found"
  | noItem => "list index out of range"
  | noCharacter => "string index out of range"
  | noKey i => toString i
  | noItemToRemove => "pop index out of range"
  | nothingToRemove => "pop from empty list"
  | indexTooLarge => "cannot fit 'int' into an index-sized integer"
  | positionTooLarge => "Python int too large to convert to C ssize_t"
  | number e => e.message

/-- A step from a value to a part of it. A place is where an item has been found before. -/
inductive DraftStep where
  | member (name : String)
  | item (i : Int)
  | place (n : Nat)
  deriving DecidableEq, Repr

/-- The place of a position in a list of `n` items. -/
def placeIn (n : Nat) (i : Int) : Option Nat :=
  let j := if i < 0 then n + i else i
  if 0 ≤ j ∧ j < n then some j.toNat else none

/-- Whether a position does not fit into 64 bits. -/
def isHuge (i : Int) : Bool := i < -Int.pow 2 63 || Int.pow 2 63 ≤ i

/-- The item at a position; `missing` says that there is none. -/
def itemOf (missing : DraftError) (i : Int) (as : List α) : Except DraftError α :=
  if isHuge i then .error .indexTooLarge
  else
    match (placeIn as.length i).bind (as[·]?) with
    | some a => .ok a
    | none => .error missing

/-- Inserts at a position, at the end if there is none. One outside of the list is moved to its
nearer end. -/
def insertAt (at? : Option Int) (a : α) (as : List α) : List α :=
  let n : Nat :=
    match at? with
    | none => as.length
    | some i => if i < 0 then (as.length + i).toNat else i.toNat
  as.take n ++ a :: as.drop n

namespace Draft

/-- The members of a dialect; they cannot be set. -/
def dialectMembers (d : Dialect) : List (String × Draft) :=
  [("name", text d.name), ("value", text d.name)]

def member (name : String) : Draft → Except DraftError Draft
  | record m members notes =>
    match (members ++ notes).lookup name with
    | some d => .ok d
    | none => .error (.noRecordMember m name)
  | dialect d =>
    match (dialectMembers d).lookup name with
    | some part => .ok part
    | none => .error (.noMember (dialect d).kind name)
  | d => .error (.noMember d.kind name)

/-- The text a value shows as. -/
def display (d : Draft) : Except DraftError String := d.plain.mapError .number

def memberText (d : Draft) (name : String) : Except DraftError String := do
  (← d.member name).display

def letters (s : String) : List Draft := s.toList.map fun c => text c.toString

/-- What a value holds when it is gone through: a list its items, a text its characters and an object
its keys. -/
def elements : Draft → Except DraftError (List Draft)
  | list items => .ok items
  | text s => .ok (letters s)
  | dialect d => .ok (letters d.name)
  | object members => .ok (members.map fun p => text p.1)
  | d => .error (.notIterable d.kind)

/-- The elements of a member. -/
def membersOf (d : Draft) (name : String) : Except DraftError (List Draft) := do
  (← d.member name).elements

def item (i : Int) : Draft → Except DraftError Draft
  | list items => itemOf .noItem i items
  | text s => itemOf .noCharacter i (letters s)
  | dialect d => itemOf .noCharacter i (letters d.name)
  | object _ => .error (.noKey i)
  | d => .error (.notIndexed d.kind)

def itemAt (n : Nat) : Draft → Except DraftError Draft
  | list items => (items[n]?).elim (.error .noItem) .ok
  | d => .error (.notIndexed d.kind)

/-- A value that can be looked up by; lists, objects and records cannot. -/
def asKey (d : Draft) : Except DraftError Draft :=
  match d with
  | list _ | object _ | record .. => .error (.notHashable d.kind)
  | d => .ok d

/-- The texts of values that have to be texts, the first of them numbered `i`. -/
def textsFrom (i : Nat) : List Draft → Except DraftError (List String)
  | [] => .ok []
  | text s :: ds => (s :: ·) <$> textsFrom (i + 1) ds
  | d :: _ => .error (.notText i d.kind)

/-- The first element that passes, with its position. The elements behind it are not looked at. -/
def firstWhere (p : Draft → Except DraftError Bool) :
    List Draft → Except DraftError (Option (Nat × Draft))
  | [] => .ok none
  | d :: ds => do
    if ← p d then return some (0, d)
    return (← firstWhere p ds).map fun (i, d) => (i + 1, d)

/-- The first field of a table with this identifier. -/
def field? (t id : Draft) : Except DraftError (Option (Nat × Draft)) :=
  match t with
  | record .table .. => do
    firstWhere (fun f => do return (← f.member "id").same id) (← t.membersOf "fields")
  | t => .error (.noMember t.kind "get_field")

/-- The first table of a diagram with this identifier; views may be left out. -/
def table? (d id : Draft) (includeViews : Bool) : Except DraftError (Option (Nat × Draft)) := do
  let passes (t : Draft) : Except DraftError Bool := do
    if !(← t.member "id").same id then return false
    if includeViews then return true
    return !(← t.member "is_view").holds
  firstWhere passes (← d.membersOf "tables")

/-- The identifiers and types of the fields, table by table. -/
def types (d : Draft) : Except DraftError (List (List (Draft × Draft))) := do
  (← d.membersOf "tables").mapM fun t => do
    (← t.membersOf "fields").mapM fun f => do
      return (← f.member "id", ← f.member "type")

def part (d : Draft) : DraftStep → Except DraftError Draft
  | .member name => d.member name
  | .item i => d.item i
  | .place n => d.itemAt n

/-- Puts a new value under a name that is there. -/
def replaceMember (name : String) (new : Draft) (members : List (String × Draft)) :
    List (String × Draft) :=
  members.map fun (k, v) => (k, if k == name then new else v)

/-- Puts a new part in the place of the one a step leads to. -/
def setPart (d : Draft) (s : DraftStep) (part : Draft) : Draft :=
  match s, d with
  | .member name, record m members notes =>
    record m (replaceMember name part members) (replaceMember name part notes)
  | .item i, list items =>
    match placeIn items.length i with
    | some n => list (items.set n part)
    | none => d
  | .place n, list items => list (items.set n part)
  | _, _ => d

/-- The part a path leads to. -/
def follow (d : Draft) : List DraftStep → Except DraftError Draft
  | [] => .ok d
  | s :: ss => do (← d.part s).follow ss

/-- Changes the part a path leads to. -/
def modifyAt (d : Draft) (f : Draft → Except DraftError Draft) :
    List DraftStep → Except DraftError Draft
  | [] => f d
  | s :: ss => do
    let changed ← (← d.part s).modifyAt f ss
    return d.setPart s changed

/-- Gives a member a new value, unchecked. Names with an underscore in front are open to any value; these
are the notes. -/
def assign (name : String) (value : Draft) (d : Draft) : Except DraftError Draft :=
  match d with
  | record m members notes =>
    if name.toList.head? == some '_' then
      .ok (record m members ((name, value) :: notes.filter (·.1 != name)))
    else if (members.lookup name).isSome then .ok (d.setPart (.member name) value)
    else .error (.noField m name)
  | dialect e =>
    if ((dialectMembers e).lookup name).isSome then .error (.fixedMember name) else .ok d
  | d => .error (.noMember d.kind name)

def insert (at? : Option Int) (new : Draft) : Draft → Except DraftError Draft
  | list items =>
    if at?.any isHuge then .error .positionTooLarge else .ok (list (insertAt at? new items))
  | d => .error (.noMember d.kind "insert")

def remove (i : Int) : Draft → Except DraftError Draft
  | list items =>
    if isHuge i then .error .positionTooLarge
    else if items.isEmpty then .error .nothingToRemove
    else
      match placeIn items.length i with
      | some n => .ok (list (items.eraseIdx n))
      | none => .error .noItemToRemove
  | object _ => .error (.noKey i)
  | d => .error (.noMember d.kind "pop")

end Draft

end SchemaScript
