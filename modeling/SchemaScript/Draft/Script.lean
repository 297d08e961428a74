import SchemaScript.Draft.Access
import SchemaScript.Script.Text

/-! The script of a draft. Every value shows as it is, unless a number has too many digits; only the
columns of an index have to have texts for names. What does not resolve is left out, as it is for diagrams, and what cannot be read at all
makes the script fail. -/

namespace SchemaScript.Draft

/-- The length counts first; a scale counts only beside a precision. Numbers that do not hold are not
given. -/
def columnSize (f : Draft) : Except DraftError (List Draft) := do
  let length ← f.member "character_maximum_length"
  let precision ← f.member "precision"
  let scale ← f.member "scale"
  return if length.holds then [length]
    else if precision.holds && scale.holds then [precision, scale]
    else if precision.holds then [precision]
    else []

/-- The text of a value that holds. -/
def givenText (d : Draft) : Except DraftError (Option String) :=
  if d.holds then some <$> d.display else .ok none

def columnText (f : Draft) : Except DraftError String := do
  let name ← f.memberText "name"
  let type ← f.memberText "type"
  let size ← (← f.columnSize).mapM display
  let nullable ← f.member "nullable"
  let default ← (← f.member "default").givenText
  let primaryKey ← f.member "primary_key"
  return Script.columnText name type size nullable.holds default primaryKey.holds

def createTableText (t : Draft) : Except DraftError String := do
  let columns ← (← t.membersOf "fields").mapM columnText
  return Script.createTableText (← t.memberText "name") columns

/-- The name of the field with an identifier. -/
def fieldName? (t id : Draft) : Except DraftError (Option Draft) := do
  match ← t.field? id with
  | none => return none
  | some (_, f) => some <$> f.member "name"

/-- The names of the fields that an index of a table resolves to. -/
def columnsOf (t i : Draft) : Except DraftError (List Draft) := do
  return (← (← i.membersOf "field_ids").mapM t.fieldName?).filterMap id

def indexText? (t i : Draft) : Except DraftError (Option String) := do
  let columns ← t.columnsOf i
  if columns.isEmpty then return none
  let unique ← i.member "unique"
  let name ← i.memberText "name"
  let table ← t.memberText "name"
  let index : Script.IndexDef := ⟨unique.holds, name, ← textsFrom 0 columns⟩
  return some (index.text table)

def foreignKeyText? (d r : Draft) : Except DraftError (Option String) := do
  let source ← d.table? (← r.member "source_table_id") false
  let target ← d.table? (← r.member "target_table_id") false
  match source, target with
  | some (_, s), some (_, t) =>
    let sourceField ← s.field? (← r.member "source_field_id")
    let targetField ← t.field? (← r.member "target_field_id")
    match sourceField, targetField with
    | some (_, f), some (_, g) =>
      let sourceTable ← s.memberText "name"
      let name ← r.memberText "name"
      let sourceColumn ← f.memberText "name"
      let targetTable ← t.memberText "name"
      let targetColumn ← g.memberText "name"
      let key : Script.ForeignKey := ⟨name, sourceTable, sourceColumn, targetTable, targetColumn⟩
      return some key.text
    | _, _ => return none
  | _, _ => return none

/-- The statements of a table and its indexes, `none` for each index left out; a view has none. -/
def blockTexts (t : Draft) : Except DraftError (List (Option String)) := do
  if (← t.member "is_view").holds then return []
  let table ← t.createTableText
  let indexes ← (← t.membersOf "indexes").mapM t.indexText?
  return some table :: (indexes ++ [some "\n"])

/-- All statements, `none` for each that is left out. -/
def statements (d : Draft) : Except DraftError (List (Option String)) := do
  if !(← d.member "tables").holds then return []
  let blocks ← (← d.membersOf "tables").mapM blockTexts
  let keys ← (← d.membersOf "relationships").mapM d.foreignKeyText?
  return blocks.flatten ++ keys

/-- How many tables are no views. -/
def baseTableCount (d : Draft) : Except DraftError Nat := do
  let views ← (← d.membersOf "tables").mapM fun t => do return (← t.member "is_view").holds
  return views.countP (!·)

end SchemaScript.Draft
