import SchemaScript.Draft.Check
import SchemaScript.Draft.Convert
import SchemaScript.Draft.Script
import SchemaScript.Draft.Widening
import SchemaScript.Script.Export

/-! The workbench: a draft that is edited, copies of it, and what was reported. A step that fails keeps
what it has done so far, so a widening that fails at one relationship leaves the fields that the ones
before it have widened. -/

namespace SchemaScript

structure Workbench where
  draft : Draft
  copies : List Draft
  journal : List Entry
  deriving Repr

abbrev OnBench := ExceptT DraftError (StateM Workbench)

namespace Workbench

def start (d : Diagram) : Workbench := ⟨d.draft, [], []⟩

def report (es : List Entry) : OnBench Unit :=
  modify fun b => { b with journal := b.journal ++ es }

def look (f : Draft → Except DraftError α) : OnBench α := do
  MonadExcept.ofExcept (f (← get).draft)

def change (f : Draft → Except DraftError Draft) : OnBench Unit := do
  let d ← look f
  modify fun b => { b with draft := d }

/-- Gives the field in a slot a new type. -/
def retype (r : Draft) (s : DraftSlot) (newType : Draft) : OnBench DraftChange := do
  let f ← look (·.follow s.slot.path)
  let field ← MonadExcept.ofExcept (f.member "name")
  let oldType ← MonadExcept.ofExcept (f.member "type")
  let relationship ← MonadExcept.ofExcept (r.member "name")
  let c : DraftChange := { table := s.tableName, field, oldType, newType, relationship }
  change (·.modifyAt (Draft.assign "type" newType) s.slot.path)
  report [(← MonadExcept.ofExcept c.typeChange).entry]
  return c

/-- Widens the lighter one of two fields that a relationship joins. -/
def widenPair (r : Draft) (source target : DraftSlot) : OnBench (List DraftChange) := do
  let sourceType ← look fun d => do (← d.follow source.slot.path).member "type"
  let targetType ← look fun d => do (← d.follow target.slot.path).member "type"
  let sourceWeight ← MonadExcept.ofExcept sourceType.weight
  let targetWeight ← MonadExcept.ofExcept targetType.weight
  if targetWeight < sourceWeight then return [← retype r target sourceType]
  else if sourceWeight < targetWeight then return [← retype r source targetType]
  else return []

def widenAlong (slots : List DraftSlot) (r : Draft) : OnBench (List DraftChange) := do
  let ends : Except DraftError (Option DraftSlot × Option DraftSlot) := do
    let source ← Draft.slotAt? slots (← r.member "source_table_id") (← r.member "source_field_id")
    let target ← Draft.slotAt? slots (← r.member "target_table_id") (← r.member "target_field_id")
    return (source, target)
  match ← MonadExcept.ofExcept ends with
  | (some source, some target) => widenPair r source target
  | _ => return []

/-- One pass over the relationships. -/
def widenOnce (slots : List DraftSlot) : OnBench (List DraftChange) := do
  let rs ← look (·.membersOf "relationships")
  return (← rs.mapM (widenAlong slots)).flatten

/-- Repeats passes until one changes nothing, `limit` times at most after those `made` before. -/
def widenRepeatedly (slots : List DraftSlot) : (made limit : Nat) → OnBench (List DraftChange)
  | made, 0 => do
    report [unsettledEntry made]
    return []
  | made, limit + 1 => do
    let pass ← widenOnce slots
    if pass.isEmpty then return []
    return pass ++ (← widenRepeatedly slots (made + 1) limit)

/-- A draft without tables or without relationships stays as it is. -/
def widen (untilStable : Bool) : OnBench (List DraftChange) := do
  let tables ← look (·.member "tables")
  let relationships ← look (·.member "relationships")
  if !(tables.holds && relationships.holds) then return []
  let slots ← look Draft.slots
  let changes ←
    if untilStable then
      widenRepeatedly slots 0 ((← look (·.membersOf "relationships")).length + 1)
    else widenOnce slots
  report (wideningJournal changes.length)
  return changes

/-- The script. -/
def render : OnBench String := do
  let statements ← look Draft.statements
  report (Script.skippedJournal (statements.countP Option.isNone))
  return String.join (statements.filterMap id)

/-- The script after widening, if that is wanted. A draft without tables gives the empty script. -/
def exportScript (widenTypes untilStable : Bool) : OnBench String := do
  if !(← look (·.member "tables")).holds then return ""
  if widenTypes then discard (widen untilStable)
  let sql ← render
  report [Script.exportedEntry (← look Draft.baseTableCount) sql]
  return sql

def check : OnBench (List DraftIssue) := do
  let issues ← look Draft.issues
  report [Issue.countEntry issues.length]
  return issues

/-- Changes a list, and counts what it then holds. -/
def changeList (path : List DraftStep) (f : Draft → Except DraftError Draft) : OnBench Nat := do
  change (·.modifyAt f path)
  return (← look fun d => do (← d.follow path).elements).length

/-- Inserts a new part into a list. The list has to be there even if the part is refused. -/
def insert (path : List DraftStep) (at? : Option Int) (new : Checked Draft) :
    OnBench (Checked Nat) := do
  let _ ← look (·.follow path)
  match new with
  | .refused fs => return .refused fs
  | .accepted d => return .accepted (← changeList path (Draft.insert at? d))

/-- Saves the draft and goes on with what is loaded again; tells whether it is the same. -/
def reload : OnBench (Checked Bool) := do
  let d := (← get).draft
  match d.reloaded with
  | .refused fs => return .refused fs
  | .accepted loaded =>
    modify fun b => { b with draft := loaded }
    return .accepted (loaded.same d)

/-- Keeps a copy of the draft. -/
def saveCopy : OnBench Nat := do
  modify fun b => { b with copies := b.copies ++ [b.draft] }
  return (← get).copies.length

def copy (i : Int) : OnBench Draft := do
  MonadExcept.ofExcept (itemOf .noItem i (← get).copies)

/-- Goes on with a copy. -/
def useCopy (i : Int) : OnBench Unit := do
  let d ← copy i
  modify fun b => { b with draft := d }

def equalsCopy (i : Int) : OnBench Bool := do
  let d ← copy i
  return (← get).draft.same d

end Workbench

end SchemaScript
