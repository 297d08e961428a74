import SchemaScript.Consistency.Issue
import SchemaScript.Diagram.Basic
import SchemaScript.Journal

/-! Checking a diagram: repeated identifiers first, then the indexes of tables, then both ends of
every relationship. -/

namespace SchemaScript

/-- What is reported of a check that found so many issues. -/
def Issue.countEntry (issues : Nat) : Entry :=
  if issues = 0 then .note .info Journal.consistency "Diagram validation passed"
  else .note .warning Journal.consistency
    ("Diagram validation found " ++ toString issues ++ " issues")

/-- The entries that occur more than once, in order of first occurrence, with their counts. -/
def repeated (ids : List String) : List (String × Nat) :=
  (ids.eraseDups.map fun id => (id, ids.count id)).filter fun p => 1 < p.2

namespace Table

def duplicateFields (t : Table) : List Issue :=
  (repeated (t.fields.map (·.id))).map fun (id, count) => .duplicateField t.name id count

def missingFieldIds (t : Table) (i : Index) : List String :=
  i.fieldIds.filter fun id => (t.field? id).isNone

def indexIssue? (t : Table) (i : Index) : Option Issue :=
  let missing := t.missingFieldIds i
  if missing.length = i.fieldIds.length then some (.emptyIndex t.name i.name missing)
  else if missing.isEmpty then none
  else some (.missingIndexFields t.name i.name missing)

end Table

namespace Diagram

def duplicateIssues (d : Diagram) : List Issue :=
  ((repeated (d.tables.map (·.id))).map fun (id, count) => .duplicateTable id count)
    ++ d.tables.flatMap Table.duplicateFields

def indexIssues (d : Diagram) : List Issue :=
  d.baseTables.flatMap fun t => t.indexes.filterMap t.indexIssue?

/-- The issues of one end. An end at a view is reported, and its field is looked for all the same. -/
def endIssues (d : Diagram) (relationship : String) (side : Side) (r : FieldRef) : List Issue :=
  match d.table? r.table with
  | none => [.missingTable relationship side r.table]
  | some t =>
    (if t.isView then [.viewReferenced relationship side t.name] else [])
      ++ (if (t.field? r.field).isNone then [.missingField relationship side t.name r.field] else [])

def relationshipIssues (d : Diagram) (r : Relationship) : List Issue :=
  d.endIssues r.name .source r.source ++ d.endIssues r.name .target r.target

def issues (d : Diagram) : List Issue :=
  d.duplicateIssues ++ d.indexIssues ++ d.relationships.flatMap d.relationshipIssues

/-- What checking reports. -/
def checkJournal (d : Diagram) : List Entry := [Issue.countEntry d.issues.length]

end Diagram

end SchemaScript
