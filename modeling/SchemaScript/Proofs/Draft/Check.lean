import SchemaScript.Draft.Check
import SchemaScript.Proofs.Diagram.Renaming
import SchemaScript.Proofs.Draft.Access

/-! Checking the draft of a diagram. It finds the issues of the diagram, in the same order, with the same
messages and details; no access fails. -/

namespace SchemaScript

open Draft (text int list display)

/-- Choosing among images chooses the images of what the originals give. -/
theorem filterM_map_eq_ok {p : β → Except ε Bool} {g : α → β} {q : α → Bool}
    (hp : ∀ a, p (g a) = .ok (q a)) (as : List α) :
    (as.map g).filterM p = .ok ((as.filter q).map g) := by
  have hrest (as : List α) (chosen : List β) :
      (as.map g).filterAuxM p chosen = .ok (((as.filter q).map g).reverse ++ chosen) := by
    induction as generalizing chosen with
    | nil => rfl
    | cons a as ih =>
      rw [List.map_cons, List.filterAuxM, hp, Except.ok_bind, ih]
      cases hq : q a <;> simp [hq]
  rw [List.filterM, hrest]
  simp

namespace Draft

/-- Every identifier is counted under its first occurrence. -/
theorem tally_map_text (ids : List String) :
    tally (ids.map text) = ids.eraseDups.map fun id => (text id, ids.count id) := by
  induction ids using List.reverseRecOn with
  | nil => rfl
  | append_singleton ids id ih =>
    have hstep : tally ((ids ++ [id]).map text) =
        if (tally (ids.map text)).any (·.1.same (text id)) then
          (tally (ids.map text)).map fun p => (p.1, if p.1.same (text id) then p.2 + 1 else p.2)
        else tally (ids.map text) ++ [(text id, 1)] := by
      rw [List.map_append, tally, List.foldl_append]
      rfl
    have hany : (tally (ids.map text)).any (·.1.same (text id)) = decide (id ∈ ids) := by
      simp [ih, List.any_map, Function.comp_def, List.any_beq']
    have hcount (k : String) :
        (ids ++ [id]).count k = if k = id then ids.count k + 1 else ids.count k := by
      by_cases hk : k = id
      · simp [hk, List.count_append]
      · simp [hk, List.count_append, Ne.symm hk]
    rw [hstep, hany, ih, eraseDups_concat]
    by_cases hid : id ∈ ids
    · simp [hid, hcount, Function.comp_def]
    · have hnew : ids.count id = 0 := List.count_eq_zero.mpr hid
      have hold (k : String) (hk : k ∈ ids) : k ≠ id := fun h => hid (h ▸ hk)
      simpa [hid, hcount, hnew] using hold

theorem repeatedIds_map {g : α → Draft} {key : α → String}
    (hkey : ∀ a, (g a).member "id" = .ok (text (key a))) (as : List α) :
    repeatedIds (as.map g) = .ok ((repeated (as.map key)).map fun p => (text p.1, p.2)) := by
  have hid (a : α) : (do (← (g a).member "id").asKey) = (.ok (text (key a)) : Except DraftError Draft) := by
    rw [hkey]
    rfl
  have hids : (as.map g).mapM (fun d => do (← d.member "id").asKey) =
      (.ok ((as.map key).map text) : Except DraftError (List Draft)) := by
    rw [mapM_map_eq_ok hid, List.map_map]
    rfl
  unfold repeatedIds repeated
  rw [hids, Except.ok_bind, tally_map_text, List.filter_map, List.filter_map, List.map_map]
  rfl

theorem shown_texts (ss : List String) : (list (ss.map text)).shown = .ok (Text.quotedList ss) := by
  have hitems : shownItems (ss.map text) = .ok (ss.map Text.quoted) := by
    induction ss with
    | nil => rfl
    | cons s ss ih =>
      rw [List.map_cons, shownItems, ih]
      rfl
  rw [shown, hitems]
  rfl

theorem ofItems_strings (ss : List String) : ofItems (ss.map .string) = ss.map text := by
  induction ss with
  | nil => rfl
  | cons s ss ih =>
    rw [List.map_cons, ofItems, ih]
    rfl

end Draft

/-- The issue with its location and its details as they are in a draft. -/
def Issue.draft (i : Issue) : DraftIssue :=
  { code := i.code
    location := text i.location
    message := i.message
    details := match i.details with
      | .object members => Draft.ofMembers members
      | _ => [] }

namespace Table

variable (t : Table)

theorem duplicateFields_draft : t.draft.duplicateFields = .ok (t.duplicateFields.map Issue.draft) := by
  unfold Draft.duplicateFields duplicateFields
  rw [membersOf_fields_draft, Except.ok_bind, Draft.repeatedIds_map Field.member_id_draft, Except.ok_bind,
    List.map_map]
  exact mapM_map_eq_ok (by intro _; rfl) _

theorem missingFieldIds_draft (i : Index) :
    t.draft.missingFieldIds (i.fieldIds.map text) = .ok ((t.missingFieldIds i).map text) := by
  refine filterM_map_eq_ok (fun id => ?_) i.fieldIds
  rw [field?_draft]
  cases t.field? id <;> rfl

theorem indexIssue?_draft (i : Index) :
    t.draft.indexIssue? i.draft = .ok ((t.indexIssue? i).map Issue.draft) := by
  have hdetails (ids : List String) : Draft.ofMembers
      [("table", .string t.name), ("index", .string i.name), ("field_ids", .strings ids)] =
        [("table", text t.name), ("index", text i.name), ("field_ids", list (ids.map text))] := by
    rw [← Draft.ofItems_strings]
    rfl
  unfold Draft.indexIssue? indexIssue?
  simp only [Index.membersOf_fieldIds_draft, Except.ok_bind, missingFieldIds_draft, member_name_draft,
    Index.member_name_draft, Draft.display_text, List.length_map, List.isEmpty_map, Draft.shown_texts,
    ← hdetails]
  by_cases hempty : (t.missingFieldIds i).length = i.fieldIds.length
  · rw [if_pos hempty, if_pos hempty]
    rfl
  · rw [if_neg hempty, if_neg hempty]
    by_cases hnone : (t.missingFieldIds i).isEmpty
    · rw [if_pos hnone, if_pos hnone]
      rfl
    · rw [if_neg hnone, if_neg hnone]
      rfl

theorem indexIssues_draft : t.draft.indexIssues =
    .ok ((if t.isView then [] else t.indexes.filterMap t.indexIssue?).map Issue.draft) := by
  unfold Draft.indexIssues
  rw [member_isView_draft, Except.ok_bind, membersOf_indexes_draft, Except.ok_bind,
    mapM_map_eq_ok t.indexIssue?_draft]
  cases t.isView with
  | true => rfl
  | false => simp [Draft.holds, List.filterMap_map, List.map_filterMap]

end Table

namespace Diagram

variable (d : Diagram)

theorem endIssues_draft (r : Relationship) (side : Side) (e : FieldRef) :
    d.draft.endIssues r.draft side (text e.table) (text e.field) =
      .ok ((d.endIssues r.name side e).map Issue.draft) := by
  have htable : d.draft.table? (text e.table) true = .ok ((d.table? e.table).map fun t =>
      (d.tables.findIdx fun t => t.id == e.table, t.draft)) := by
    simpa [table?] using d.table?_draft e.table true
  unfold Draft.endIssues endIssues
  rw [Relationship.member_name_draft, Except.ok_bind, htable, Except.ok_bind]
  cases d.table? e.table with
  | none => rfl
  | some t =>
    simp only [Option.map_some, Table.member_name_draft, Table.member_isView_draft, Except.ok_bind,
      Table.field?_draft]
    cases t.isView <;> cases t.field? e.field <;> rfl

theorem relationshipIssues_draft (r : Relationship) :
    d.draft.relationshipIssues r.draft = .ok ((d.relationshipIssues r).map Issue.draft) := by
  unfold Draft.relationshipIssues relationshipIssues
  simp only [Relationship.member_sourceTable_draft, Relationship.member_sourceField_draft,
    Relationship.member_targetTable_draft, Relationship.member_targetField_draft, Except.ok_bind,
    endIssues_draft, List.map_append]
  rfl

theorem duplicateTables_draft : d.draft.duplicateTables = .ok (
    ((repeated (d.tables.map (·.id))).map fun (id, count) => Issue.duplicateTable id count).map
      Issue.draft) := by
  unfold Draft.duplicateTables
  rw [membersOf_tables_draft, Except.ok_bind, Draft.repeatedIds_map Table.member_id_draft, Except.ok_bind,
    List.map_map]
  exact mapM_map_eq_ok (by intro _; rfl) _

/-- Checking the draft of a diagram finds what checking the diagram finds. -/
theorem issues_draft : d.draft.issues = .ok (d.issues.map Issue.draft) := by
  have hindexes : d.indexIssues = d.tables.flatMap fun t =>
      if t.isView then [] else t.indexes.filterMap t.indexIssue? := by
    unfold indexIssues baseTables
    induction d.tables with
    | nil => rfl
    | cons t ts ih => cases hview : t.isView <;> simp [hview, ih]
  unfold Draft.issues issues duplicateIssues
  rw [membersOf_tables_draft, membersOf_relationships_draft, Except.ok_bind, duplicateTables_draft,
    Except.ok_bind, mapM_map_eq_ok Table.duplicateFields_draft, Except.ok_bind,
    mapM_map_eq_ok Table.indexIssues_draft, Except.ok_bind, Except.ok_bind,
    mapM_map_eq_ok d.relationshipIssues_draft, Except.ok_bind, hindexes]
  simp [Except.pure_eq, List.flatMap_def, Function.comp_def]

end Diagram

end SchemaScript
