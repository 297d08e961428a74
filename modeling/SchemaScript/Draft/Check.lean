import SchemaScript.Consistency.Check
import SchemaScript.Draft.Access

/-! Checking drafts. The issues are those of diagrams; they keep the values of the draft as they are, and
show them in their messages. -/

namespace SchemaScript

structure DraftIssue where
  code : String
  location : Draft
  message : String
  details : List (String × Draft)
  deriving Repr

namespace Draft

/-- How often each key occurs, in order of first occurrence. -/
def tally (keys : List Draft) : List (Draft × Nat) :=
  keys.foldl
    (fun counts key =>
      if counts.any (·.1.same key) then
        counts.map fun p => (p.1, if p.1.same key then p.2 + 1 else p.2)
      else counts ++ [(key, 1)])
    []

/-- The identifiers that occur more than once, with their counts. -/
def repeatedIds (ds : List Draft) : Except DraftError (List (Draft × Nat)) := do
  let ids ← ds.mapM fun d => do (← d.member "id").asKey
  return (tally ids).filter fun p => 1 < p.2

def duplicateTables (d : Draft) : Except DraftError (List DraftIssue) := do
  (← repeatedIds (← d.membersOf "tables")).mapM fun (id, count) => do
    let i := Issue.duplicateTable (← id.display) count
    return { code := i.code
             location := id
             message := i.message
             details := [("table_id", id), ("count", int count)] }

def duplicateFields (t : Draft) : Except DraftError (List DraftIssue) := do
  (← repeatedIds (← t.membersOf "fields")).mapM fun (id, count) => do
    let table ← t.member "name"
    let i := Issue.duplicateField (← table.display) (← id.display) count
    return { code := i.code
             location := text i.location
             message := i.message
             details := [("table", table), ("field_id", id), ("count", int count)] }

/-- The entries of an index that no field of the table has. -/
def missingFieldIds (t : Draft) (ids : List Draft) : Except DraftError (List Draft) :=
  ids.filterM fun id => do return (← t.field? id).isNone

def indexIssue? (t i : Draft) : Except DraftError (Option DraftIssue) := do
  let ids ← i.membersOf "field_ids"
  let missing ← t.missingFieldIds ids
  let table ← t.member "name"
  let index ← i.member "name"
  let tableText ← table.display
  let indexText ← index.display
  let issue (kind : Issue) (message : String) : DraftIssue :=
    { code := kind.code
      location := text kind.location
      message
      details := [("table", table), ("index", index), ("field_ids", list missing)] }
  if missing.length = ids.length then
    let kind := Issue.emptyIndex tableText indexText []
    return some (issue kind kind.message)
  else if missing.isEmpty then return none
  else
    let shown ← (list missing).shown.mapError .number
    return some (issue (.missingIndexFields tableText indexText [])
      (Issue.unknownFields tableText indexText shown))

def indexIssues (t : Draft) : Except DraftError (List DraftIssue) := do
  if (← t.member "is_view").holds then return []
  return (← (← t.membersOf "indexes").mapM t.indexIssue?).filterMap id

/-- The issues of one end of a relationship, at this table and field. -/
def endIssues (d r : Draft) (side : Side) (tableId fieldId : Draft) :
    Except DraftError (List DraftIssue) := do
  let name ← r.member "name"
  let issue (i : Issue) (details : List (String × Draft)) : DraftIssue :=
    { code := i.code
      location := name
      message := i.message
      details := ("relationship", name) :: ("side", text side.name) :: details }
  match ← d.table? tableId true with
  | none =>
    let i := Issue.missingTable (← name.display) side (← tableId.display)
    return [issue i [("table_id", tableId)]]
  | some (_, t) =>
    let table ← t.member "name"
    let views ← if (← t.member "is_view").holds then do
        let i := Issue.viewReferenced (← name.display) side (← table.display)
        pure [issue i [("table", table)]]
      else pure []
    let missing ← if (← t.field? fieldId).isNone then do
        let i := Issue.missingField (← name.display) side (← table.display) (← fieldId.display)
        pure [issue i [("table", table), ("field_id", fieldId)]]
      else pure []
    return views ++ missing

def relationshipIssues (d r : Draft) : Except DraftError (List DraftIssue) := do
  let sourceTable ← r.member "source_table_id"
  let sourceField ← r.member "source_field_id"
  let targetTable ← r.member "target_table_id"
  let targetField ← r.member "target_field_id"
  return (← d.endIssues r .source sourceTable sourceField)
    ++ (← d.endIssues r .target targetTable targetField)

def issues (d : Draft) : Except DraftError (List DraftIssue) := do
  let tables ← d.membersOf "tables"
  let repeatedTables ← d.duplicateTables
  let repeatedFields ← tables.mapM duplicateFields
  let indexes ← tables.mapM indexIssues
  let ends ← (← d.membersOf "relationships").mapM d.relationshipIssues
  return repeatedTables ++ repeatedFields.flatten ++ indexes.flatten ++ ends.flatten

end Draft

end SchemaScript
