import SchemaScript.Proofs.Consistency.DroppedIndexes
import SchemaScript.Proofs.Diagram.Renaming
import SchemaScript.Proofs.Widening.Arrangement

/-! Repeated identifiers. The check reports each of them once, with how often it is used, in the order in
which they first occur. While it reports none of a table, it does not matter that look-ups take the first
table with an identifier and the ends of relationships the last one: both lead to the same place. Fields
may share identifiers all the same, for both take the first field of a table. -/

namespace SchemaScript

/-- The entries are the identifiers that occur at least twice, with their counts, in the order of first
occurrence; so none of them is entered twice. -/
structure ListsRepeats (ids : List String) (entries : List (String × Nat)) : Prop where
  exact : ∀ id count, (id, count) ∈ entries ↔ count = ids.count id ∧ 2 ≤ count
  ordered : entries.Pairwise fun p q => ids.idxOf p.1 < ids.idxOf q.1

theorem pairwise_idxOf_eraseDups (ids : List String) :
    ids.eraseDups.Pairwise fun a b => ids.idxOf a < ids.idxOf b := by
  induction ids using List.reverseRecOn with
  | nil => exact List.Pairwise.nil
  | append_singleton ids id ih =>
    have hearlier {a : String} (ha : a ∈ ids.eraseDups) :
        (ids ++ [id]).idxOf a = ids.idxOf a ∧ ids.idxOf a < ids.length := by
      rw [List.mem_eraseDups] at ha
      exact ⟨List.idxOf_append_of_mem ha, List.idxOf_lt_length_of_mem ha⟩
    have hold : ids.eraseDups.Pairwise fun a b => (ids ++ [id]).idxOf a < (ids ++ [id]).idxOf b := by
      refine ih.imp_of_mem fun ha hb hab => ?_
      rwa [(hearlier ha).1, (hearlier hb).1]
    rw [eraseDups_concat]
    by_cases hid : id ∈ ids
    · simpa [hid] using hold
    · rw [if_neg hid, List.pairwise_append]
      refine ⟨hold, List.pairwise_singleton .., ?_⟩
      intro a ha b hb
      obtain rfl := List.mem_singleton.mp hb
      rw [(hearlier ha).1, List.idxOf_append_of_notMem hid]
      have := (hearlier ha).2
      omega

theorem listsRepeats_repeated (ids : List String) : ListsRepeats ids (repeated ids) := by
  constructor
  · intro id count
    simp only [repeated, List.mem_filter, List.mem_map, List.mem_eraseDups, Prod.mk.injEq,
      decide_eq_true_eq]
    constructor
    · rintro ⟨⟨_, -, rfl, rfl⟩, hcount⟩
      exact ⟨rfl, hcount⟩
    · rintro ⟨rfl, hcount⟩
      exact ⟨⟨id, List.count_pos_iff.mp (by omega), rfl, rfl⟩, hcount⟩
  · refine List.Pairwise.filter _ ?_
    rw [List.pairwise_map]
    exact pairwise_idxOf_eraseDups ids

example : repeated ["b", "a", "c", "a", "b", "b"] = [("b", 3), ("a", 2)] := by decide

theorem nodup_of_repeated_eq_nil {ids : List String} (h : repeated ids = []) : ids.Nodup := by
  rw [List.nodup_iff_count_le_one]
  intro id
  by_contra hcount
  have hmem := ((listsRepeats_repeated ids).exact id (ids.count id)).mpr ⟨rfl, by omega⟩
  simp [h] at hmem

namespace Diagram

/-- The repeated identifiers of tables. -/
def duplicateTables (d : Diagram) : List Issue :=
  (repeated (d.tables.map (·.id))).map fun (id, count) => .duplicateTable id count

theorem code_of_mem_duplicateTables {d : Diagram} {i : Issue} (h : i ∈ d.duplicateTables) :
    i.code = "DUPLICATE_TABLE_ID" := by
  obtain ⟨_, -, rfl⟩ := List.mem_map.mp h
  rfl

theorem code_of_mem_duplicateFields {d : Diagram} {i : Issue}
    (h : i ∈ d.tables.flatMap Table.duplicateFields) : i.code = "DUPLICATE_FIELD_ID" := by
  obtain ⟨t, -, h⟩ := List.mem_flatMap.mp h
  obtain ⟨_, -, rfl⟩ := List.mem_map.mp h
  rfl

theorem filter_duplicateTable_issues (d : Diagram) :
    d.issues.filter (·.code == "DUPLICATE_TABLE_ID") = d.duplicateTables := by
  have htables : d.duplicateTables.filter (·.code == "DUPLICATE_TABLE_ID") = d.duplicateTables := by
    rw [List.filter_eq_self]
    intro i hi
    simp [code_of_mem_duplicateTables hi]
  have hfields : (d.tables.flatMap Table.duplicateFields).filter (·.code == "DUPLICATE_TABLE_ID") =
      [] := by
    rw [List.filter_eq_nil_iff]
    intro i hi
    simp [code_of_mem_duplicateFields hi]
  rw [filter_issues (k := .repeats) (by rintro (_ | _) <;> simp [Issue.code, Issue.family]),
    issuesOf, duplicateIssues, List.filter_append, hfields, List.append_nil]
  exact htables

theorem filter_duplicateField_issues (d : Diagram) :
    d.issues.filter (·.code == "DUPLICATE_FIELD_ID") = d.tables.flatMap Table.duplicateFields := by
  have htables : d.duplicateTables.filter (·.code == "DUPLICATE_FIELD_ID") = [] := by
    rw [List.filter_eq_nil_iff]
    intro i hi
    simp [code_of_mem_duplicateTables hi]
  have hfields : (d.tables.flatMap Table.duplicateFields).filter (·.code == "DUPLICATE_FIELD_ID") =
      d.tables.flatMap Table.duplicateFields := by
    rw [List.filter_eq_self]
    intro i hi
    simp [code_of_mem_duplicateFields hi]
  rw [filter_issues (k := .repeats) (by rintro (_ | _) <;> simp [Issue.code, Issue.family]),
    issuesOf, duplicateIssues, List.filter_append, hfields]
  exact congrArg (· ++ d.tables.flatMap Table.duplicateFields) htables

/-- No two tables share an identifier if none is reported. -/
theorem nodup_ids_of_unreported {d : Diagram} (h : ∀ i ∈ d.issues, i.code ≠ "DUPLICATE_TABLE_ID") :
    (d.tables.map (·.id)).Nodup := by
  apply nodup_of_repeated_eq_nil
  have hnone : d.duplicateTables = [] := by
    rw [← filter_duplicateTable_issues, List.filter_eq_nil_iff]
    intro i hi
    simpa using h i hi
  exact List.map_eq_nil_iff.mp hnone

/-- Looking up the table and in it the field finds both, and it finds them in this slot. -/
structure FoundAt (d : Diagram) (r : FieldRef) (s : Slot) (t : Table) (f : Field) : Prop where
  table : d.table? r.table = some t
  field : t.field? r.field = some f
  tableAt : d.tableAt? s = some t
  fieldAt : d.fieldAt? s = some f
  tableIdx : d.tables.findIdx? (·.id == r.table) = some s.table
  fieldIdx : t.fields.findIdx? (·.id == r.field) = some s.field

/-- Where identifiers of tables are distinct, the only table with one is also the first. -/
theorem findIdx?_tables {d : Diagram} (hid : (d.tables.map (·.id)).Nodup) {i : Nat} {t : Table}
    (ht : d.tables[i]? = some t) : d.tables.findIdx? (·.id == t.id) = some i := by
  obtain ⟨hi, rfl⟩ := List.getElem?_eq_some_iff.mp ht
  rw [List.findIdx?_eq_some_iff_getElem]
  refine ⟨hi, by simp, fun j hj => ?_⟩
  have hne := List.nodup_iff_getElem?_ne_getElem?.mp hid j i hj (by simpa using hi)
  simpa [List.getElem?_map, List.getElem?_eq_getElem hi, List.getElem?_eq_getElem (hj.trans hi)]
    using hne

theorem Resolves.exists_foundAt {d : Diagram} (hid : (d.tables.map (·.id)).Nodup) {r : FieldRef}
    {s : Slot} (h : d.Resolves r s) : ∃ t f, d.FoundAt r s t f := by
  obtain ⟨t, f, ht, hf, htable, hfield⟩ := h.lookup hid
  have htid : t.id = r.table := by simpa using List.find?_some ht
  have hfid : f.id = r.field := by simpa using List.find?_some hf
  refine ⟨t, f, ht, hf, htable, hfield, htid ▸ findIdx?_tables hid htable, ?_⟩
  have hat (j : Nat) : d.fieldAt? ⟨s.table, j⟩ = t.fields[j]? := fieldAt?_eq htable j
  obtain ⟨hs, rfl⟩ := List.getElem?_eq_some_iff.mp ((hat s.field).symm.trans hfield)
  rw [List.findIdx?_eq_some_iff_getElem]
  refine ⟨hs, by simpa using hfid, fun j hj => ?_⟩
  have hearlier := (hat j).trans (List.getElem?_eq_getElem (hj.trans hs))
  simpa using h.first j _ hj hearlier

/-- While tables have distinct identifiers, the end of a relationship leads to a field exactly if looking
it up does, and to the same one. -/
theorem slot?_eq_some_iff_foundAt {d : Diagram} (hid : (d.tables.map (·.id)).Nodup) {r : FieldRef} :
    ((∃ s, d.slot? r = some s) ↔ ∃ t f, d.table? r.table = some t ∧ t.field? r.field = some f) ∧
      ∀ s, d.slot? r = some s → ∃ t f, d.FoundAt r s t f := by
  have hfound (s : Slot) (hs : d.slot? r = some s) : ∃ t f, d.FoundAt r s t f :=
    (slot?_eq_some_iff.mp hs).exists_foundAt hid
  refine ⟨⟨?_, ?_⟩, hfound⟩
  · rintro ⟨s, hs⟩
    obtain ⟨t, f, h⟩ := hfound s hs
    exact ⟨t, f, h.table, h.field⟩
  · rintro ⟨t, f, ht, hf⟩
    have htid : t.id = r.table := by simpa using List.find?_some ht
    obtain ⟨s, hs, -⟩ := exists_resolves hid (List.mem_of_find?_eq_some ht) htid hf
    exact ⟨s, slot?_eq_some_iff.mpr hs⟩

/-- The repeated identifiers reported are those that are used at least twice, of tables first and then of
the fields of each table, with their counts and in the order of first occurrence. While no table is
reported, widening finds a field exactly where looking up its table and the field finds it. -/
theorem duplicateIssues_list_repeats (d : Diagram) :
    (∃ tables, ListsRepeats (d.tables.map (·.id)) tables ∧
      d.issues.filter (·.code == "DUPLICATE_TABLE_ID") =
        tables.map fun (id, count) => .duplicateTable id count) ∧
    (∃ fields : Table → List (String × Nat),
      (∀ t, ListsRepeats (t.fields.map (·.id)) (fields t)) ∧
      d.issues.filter (·.code == "DUPLICATE_FIELD_ID") =
        d.tables.flatMap fun t => (fields t).map fun (id, count) => .duplicateField t.name id count) ∧
    ((∀ i ∈ d.issues, i.code ≠ "DUPLICATE_TABLE_ID") → ∀ r,
      ((∃ s, d.slot? r = some s) ↔ ∃ t f, d.table? r.table = some t ∧ t.field? r.field = some f) ∧
        ∀ s, d.slot? r = some s → ∃ t f, d.FoundAt r s t f) := by
  refine ⟨⟨_, listsRepeats_repeated _, d.filter_duplicateTable_issues⟩,
    ⟨fun t : Table => repeated (t.fields.map Field.id), fun _ => listsRepeats_repeated _,
      d.filter_duplicateField_issues⟩, ?_⟩
  intro h r
  exact slot?_eq_some_iff_foundAt (nodup_ids_of_unreported h)

end Diagram

end SchemaScript
