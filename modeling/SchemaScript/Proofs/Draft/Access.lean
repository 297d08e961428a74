import Mathlib.Data.List.Basic
import SchemaScript.Draft.Access
import SchemaScript.Draft.Convert

/-! Reaching into the draft of a diagram. As long as nothing is edited, every member is there and holds
what the diagram holds, shown as it is, and the look-ups find the drafts of what the diagram finds. -/

namespace SchemaScript

theorem Except.ok_bind (a : α) (f : α → Except ε β) : (.ok a >>= f) = f a := rfl

theorem Except.pure_eq (a : α) : (pure a : Except ε α) = .ok a := rfl

/-- Going through images gives the images of what going through the originals gives, if each step does. -/
theorem mapM_map_eq_mapError {f : β → Except δ γ} {g : α → β} {h : α → Except ε γ} {e : ε → δ}
    (hstep : ∀ a, f (g a) = (h a).mapError e) (as : List α) :
    (as.map g).mapM f = (as.mapM h).mapError e := by
  induction as with
  | nil => rfl
  | cons a as ih =>
    rw [List.map_cons, List.mapM_cons, List.mapM_cons, hstep, ih]
    cases h a with
    | error x => rfl
    | ok c => cases as.mapM h <;> rfl

theorem mapM_map_eq_ok {f : β → Except ε γ} {g : α → β} {h : α → γ}
    (hstep : ∀ a, f (g a) = .ok (h a)) (as : List α) : (as.map g).mapM f = .ok (as.map h) := by
  induction as with
  | nil => rfl
  | cons a as ih => rw [List.map_cons, List.mapM_cons, hstep, ih]; rfl

namespace Draft

@[simp] theorem same_text (a b : String) : same (text a) (text b) = (a == b) := by
  simp [same, number?, text?]

@[simp] theorem display_text (s : String) : (text s).display = .ok s := rfl

theorem holds_list_map (g : α → Draft) (as : List α) : (list (as.map g)).holds = !as.isEmpty := by
  cases as <;> rfl

theorem textsFrom_map_text (i : Nat) (ss : List String) : textsFrom i (ss.map text) = .ok ss := by
  induction ss generalizing i with
  | nil => rfl
  | cons s ss ih =>
    rw [List.map_cons, textsFrom, ih]
    rfl

/-- The first draft that passes is the draft of the first that passes. -/
theorem firstWhere_map {p : Draft → Except DraftError Bool} {q : α → Bool} {g : α → Draft}
    (hp : ∀ a, p (g a) = .ok (q a)) (as : List α) :
    firstWhere p (as.map g) = .ok ((as.find? q).map fun a => (as.findIdx q, g a)) := by
  induction as with
  | nil => rfl
  | cons a as ih =>
    rw [List.map_cons, firstWhere, hp, ih, List.find?_cons, List.findIdx_cons]
    cases q a with
    | true => rfl
    | false => cases as.find? q <;> rfl

end Draft

open Draft

namespace Field

variable (f : Field)

@[simp] theorem member_id_draft : f.draft.member "id" = .ok (text f.id) := rfl

@[simp] theorem member_name_draft : f.draft.member "name" = .ok (text f.name) := rfl

@[simp] theorem member_type_draft : f.draft.member "type" = .ok (text f.type) := rfl

@[simp] theorem memberText_name_draft : f.draft.memberText "name" = .ok f.name := rfl

end Field

namespace Table

variable (t : Table)

@[simp] theorem member_id_draft : t.draft.member "id" = .ok (text t.id) := rfl

@[simp] theorem member_name_draft : t.draft.member "name" = .ok (text t.name) := rfl

@[simp] theorem memberText_name_draft : t.draft.memberText "name" = .ok t.name := rfl

@[simp] theorem member_isView_draft : t.draft.member "is_view" = .ok (flag t.isView) := rfl

@[simp] theorem membersOf_fields_draft : t.draft.membersOf "fields" = .ok (t.fields.map Field.draft) :=
  rfl

@[simp] theorem membersOf_indexes_draft :
    t.draft.membersOf "indexes" = .ok (t.indexes.map Index.draft) := rfl

/-- The first field with an identifier, and its position. -/
@[simp] theorem field?_draft (id : String) : t.draft.field? (text id) =
    .ok ((t.field? id).map fun f => (t.fields.findIdx (·.id == id), f.draft)) := by
  have hstep (f : Field) : (do return (← f.draft.member "id").same (text id)) =
      (.ok (f.id == id) : Except DraftError Bool) := by simp
  exact firstWhere_map hstep t.fields

end Table

namespace Index

variable (i : Index)

@[simp] theorem member_name_draft : i.draft.member "name" = .ok (text i.name) := rfl

@[simp] theorem membersOf_fieldIds_draft : i.draft.membersOf "field_ids" = .ok (i.fieldIds.map text) :=
  rfl

end Index

namespace Relationship

variable (r : Relationship)

@[simp] theorem member_name_draft : r.draft.member "name" = .ok (text r.name) := rfl

@[simp] theorem memberText_name_draft : r.draft.memberText "name" = .ok r.name := rfl

@[simp] theorem member_sourceTable_draft :
    r.draft.member "source_table_id" = .ok (text r.source.table) := rfl

@[simp] theorem member_sourceField_draft :
    r.draft.member "source_field_id" = .ok (text r.source.field) := rfl

@[simp] theorem member_targetTable_draft :
    r.draft.member "target_table_id" = .ok (text r.target.table) := rfl

@[simp] theorem member_targetField_draft :
    r.draft.member "target_field_id" = .ok (text r.target.field) := rfl

end Relationship

namespace Diagram

variable (d : Diagram)

@[simp] theorem member_tables_draft : d.draft.member "tables" = .ok (list (d.tables.map Table.draft)) :=
  rfl

@[simp] theorem member_relationships_draft :
    d.draft.member "relationships" = .ok (list (d.relationships.map Relationship.draft)) := rfl

@[simp] theorem membersOf_tables_draft : d.draft.membersOf "tables" = .ok (d.tables.map Table.draft) :=
  rfl

@[simp] theorem membersOf_relationships_draft :
    d.draft.membersOf "relationships" = .ok (d.relationships.map Relationship.draft) := rfl

/-- The first table with an identifier, and its position; views may be left out. -/
theorem table?_draft (id : String) (includeViews : Bool) : d.draft.table? (text id) includeViews =
    .ok ((d.tables.find? fun t => t.id == id && (includeViews || !t.isView)).map fun t =>
      (d.tables.findIdx fun t => t.id == id && (includeViews || !t.isView), t.draft)) := by
  refine firstWhere_map (fun t => ?_) d.tables
  cases hid : t.id == id <;> cases includeViews <;> cases hview : t.isView <;>
    simp [Except.ok_bind, Except.pure_eq, hid, hview, holds]

end Diagram

end SchemaScript
