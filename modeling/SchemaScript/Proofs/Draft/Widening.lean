import Mathlib.Data.List.Induction
import SchemaScript.Draft.Widening
import SchemaScript.Proofs.Draft.Access
import SchemaScript.Proofs.Widening.Slots

/-! What relationships lead to in the draft of a diagram. The map of tables keeps the last table of each
identifier, and the list of slots the fields of these tables in their order; so an end of a relationship
leads to the slot it leads to in the diagram, and the path of that slot to the draft of its field. -/

namespace SchemaScript

open Draft (text list)

/-! The last table of each identifier -/

/-- The last element that passes, with its position. -/
def lastWhere (p : α → Bool) (as : List α) : Option (Nat × α) :=
  (lastIdx? p as).bind fun i => as[i]?.map fun a => (i, a)

theorem lastIdx?_concat (p : α → Bool) (as : List α) (a : α) :
    lastIdx? p (as ++ [a]) = if p a then some as.length else lastIdx? p as := by
  induction as with
  | nil => cases h : p a <;> simp [lastIdx?, h]
  | cons b as ih =>
    rw [List.cons_append, lastIdx?, ih, lastIdx?]
    cases p a <;> simp

theorem lastWhere_concat (p : α → Bool) (as : List α) (a : α) :
    lastWhere p (as ++ [a]) = if p a then some (as.length, a) else lastWhere p as := by
  rw [lastWhere, lastIdx?_concat]
  cases hp : p a with
  | true => simp
  | false =>
    cases hlast : lastIdx? p as with
    | none => simp [lastWhere, hlast]
    | some i =>
      obtain ⟨⟨b, hb, -⟩, -⟩ := lastIdx?_eq_some hlast
      have hi := (List.getElem?_eq_some_iff.mp hb).1
      simp [lastWhere, hlast, List.getElem?_append_left hi]

theorem lastWhere_eq_some {p : α → Bool} {as : List α} {i : Nat} {a : α}
    (h : lastWhere p as = some (i, a)) : as[i]? = some a := by
  obtain ⟨j, -, hj⟩ := Option.bind_eq_some_iff.mp h
  obtain ⟨b, hb, hpair⟩ := Option.map_eq_some_iff.mp hj
  cases hpair
  exact hb

theorem findSome?_ite (p : α → Bool) (f : α → Option β) (as : List α) :
    as.findSome? (fun a => if p a then f a else none) = (as.filter p).findSome? f := by
  induction as with
  | nil => rfl
  | cons a as ih => cases hp : p a <;> simp [hp, List.findSome?_cons, ih]

/-- Puts a table in the place of the one with its identifier, at the end if there is none. -/
def putTable (known : List (Nat × Table)) (p : Nat × Table) : List (Nat × Table) :=
  if known.any (·.2.id == p.2.id) then known.map fun q => if q.2.id == p.2.id then p else q
  else known ++ [p]

/-- The last table of each identifier, with its position, in the order of the first ones. -/
def Diagram.lastTables (d : Diagram) : List (Nat × Table) :=
  (d.tables.zipIdx.map Prod.swap).foldl putTable []

theorem filter_putTable {known : List (Nat × Table)} {p : Nat × Table} {id : String}
    (h : (known.filter (·.2.id == id)).length ≤ 1) :
    (putTable known p).filter (·.2.id == id) =
      if p.2.id == id then [p] else known.filter (·.2.id == id) := by
  unfold putTable
  by_cases hany : known.any (·.2.id == p.2.id) = true
  · have hkey : (known.map fun q => if q.2.id == p.2.id then p else q).filter (·.2.id == id) =
        (known.filter (·.2.id == id)).map fun q => if q.2.id == p.2.id then p else q := by
      rw [List.filter_map]
      congr 1
      refine List.filter_congr fun q _ => ?_
      by_cases hq : q.2.id = p.2.id <;> simp [hq]
    rw [if_pos hany, hkey]
    by_cases hid : p.2.id = id
    · subst hid
      obtain ⟨q, hq, hqp⟩ := List.any_eq_true.mp hany
      obtain ⟨r, hone⟩ := List.length_eq_one_iff.mp
        (Nat.le_antisymm h (List.length_pos_of_mem (List.mem_filter.mpr ⟨hq, hqp⟩)))
      have hr : r ∈ known.filter (·.2.id == p.2.id) := hone ▸ List.mem_singleton_self r
      rw [hone, List.map_singleton, if_pos (List.mem_filter.mp hr).2, if_pos (beq_self_eq_true _)]
    · have hkeep (q) (hq : q ∈ known.filter (·.2.id == id)) :
          (if q.2.id == p.2.id then p else q) = q := by
        have hqid : q.2.id = id := by simpa using (List.mem_filter.mp hq).2
        simp [hqid, Ne.symm hid]
      rw [List.map_congr_left hkeep, List.map_id', if_neg (by simpa using hid)]
  · have hnone (hid : p.2.id = id) : known.filter (·.2.id == id) = [] := by
      simpa [hid, List.filter_eq_nil_iff] using hany
    rw [if_neg hany, List.filter_append]
    by_cases hid : p.2.id = id
    · rw [hnone hid]
      simp [hid]
    · simp [hid]

theorem filter_lastTables (d : Diagram) (id : String) :
    d.lastTables.filter (·.2.id == id) = (lastWhere (·.id == id) d.tables).toList := by
  unfold Diagram.lastTables
  induction d.tables using List.reverseRecOn with
  | nil => rfl
  | append_singleton ts t ih =>
    have hlength (o : Option (Nat × Table)) : o.toList.length ≤ 1 := by cases o <;> simp
    rw [List.zipIdx_append, List.map_append, List.foldl_append, lastWhere_concat]
    simp only [List.zipIdx_singleton, List.map_singleton, List.foldl_cons, List.foldl_nil]
    rw [filter_putTable (by rw [ih]; exact hlength _), ih]
    cases hid : t.id == id <;> simp [hid]

/-! The slots of a draft -/

namespace Draft

/-- A table under its identifier, as the map of tables holds it. -/
def entry (p : Nat × Table) : Draft × Nat × Draft := (text p.2.id, p.1, p.2.draft)

theorem setKey_map_entry (known : List (Nat × Table)) (p : Nat × Table) :
    setKey (known.map entry) (text p.2.id) (p.1, p.2.draft) = (putTable known p).map entry := by
  unfold setKey putTable
  have hany : (known.map entry).any (·.1.same (text p.2.id)) = known.any (·.2.id == p.2.id) := by
    simp [entry, List.any_map, Function.comp_def]
  rw [hany]
  split
  · rw [List.map_map, List.map_map]
    refine List.map_congr_left fun q _ => ?_
    by_cases hq : q.2.id = p.2.id <;> simp [entry, hq]
  · simp [entry]

theorem tablesById_draft (d : Diagram) : d.draft.tablesById = .ok (d.lastTables.map entry) := by
  have hnumbered : numbered (d.tables.map Table.draft) =
      (d.tables.zipIdx.map Prod.swap).map fun p => (p.1, p.2.draft) := by
    simp [numbered, List.zipIdx_map, Function.comp_def]
  have hkeyed (p : Nat × Table) : keyed (p.1, p.2.draft) = .ok (entry p) := rfl
  have hfold (ps known : List (Nat × Table)) :
      (ps.map entry).foldl (fun known t => setKey known t.1 t.2) (known.map entry) =
        (ps.foldl putTable known).map entry := by
    induction ps generalizing known with
    | nil => rfl
    | cons p ps ih =>
      rw [List.map_cons, List.foldl_cons, List.foldl_cons, ← ih, ← setKey_map_entry]
      rfl
  unfold tablesById
  rw [Diagram.membersOf_tables_draft, Except.ok_bind, hnumbered, mapM_map_eq_ok hkeyed, Except.ok_bind]
  exact congrArg Except.ok (hfold _ [])

end Draft

namespace Table

variable (t : Table)

/-- The slots of the fields of a table at a position. -/
def slotsAt (i : Nat) : List DraftSlot :=
  t.fields.zipIdx.map fun p => ⟨text t.id, text p.1.id, text t.name, ⟨i, p.2⟩⟩

theorem slotsOf_draft (i : Nat) : t.draft.slotsOf i = .ok (t.slotsAt i) := by
  have hnumbered : Draft.numbered (t.fields.map Field.draft) =
      t.fields.zipIdx.map fun p => (p.2, p.1.draft) := by
    simp [Draft.numbered, List.zipIdx_map, Function.comp_def]
  unfold Draft.slotsOf slotsAt
  rw [membersOf_fields_draft, Except.ok_bind, hnumbered]
  exact mapM_map_eq_ok (by intro _; rfl) _

/-- The slot of the first field that an end of a relationship can lead to in this table. -/
def slotFor? (i : Nat) (r : FieldRef) : Option DraftSlot :=
  (t.fields.findIdx? (·.id == r.field)).map fun j =>
    ⟨text r.table, text r.field, text t.name, ⟨i, j⟩⟩

theorem find?_slotsAt (i : Nat) (r : FieldRef) :
    (t.slotsAt i).find? (fun s => s.tableId.same (text r.table) && s.fieldId.same (text r.field)) =
      if t.id == r.table then t.slotFor? i r else none := by
  rw [slotsAt, List.find?_map]
  by_cases hid : t.id = r.table
  · rw [if_pos (beq_iff_eq.mpr hid), slotFor?, List.findIdx?_eq_fst_find?_zipIdx]
    simp only [Function.comp_def, Draft.same_text, hid, beq_self_eq_true, Bool.true_and]
    cases hfound : t.fields.zipIdx.find? fun p => p.1.id == r.field with
    | none => rfl
    | some p =>
      have hfield : p.1.id = r.field := by simpa using List.find?_some hfound
      simp [hfield]
  · simp [hid]

end Table

namespace Diagram

variable (d : Diagram)

/-- The slot an end of a relationship leads to, as a draft holds it. -/
def draftSlot (r : FieldRef) (s : Slot) : DraftSlot :=
  ⟨text r.table, text r.field, text (((d.tableAt? s).map (·.name)).getD ""), s⟩

/-- The slots of the last tables of all identifiers. -/
def draftSlots : List DraftSlot := d.lastTables.flatMap fun p => p.2.slotsAt p.1

theorem slots_draft : d.draft.slots = .ok d.draftSlots := by
  unfold Draft.slots
  rw [Draft.tablesById_draft, Except.ok_bind, mapM_map_eq_ok fun p : Nat × Table => p.2.slotsOf_draft p.1]
  rfl

theorem slot?_eq (r : FieldRef) : d.slot? r =
    (lastWhere (·.id == r.table) d.tables).bind fun p =>
      (p.2.fields.findIdx? (·.id == r.field)).map fun j => ⟨p.1, j⟩ := by
  unfold slot? lastWhere
  cases lastIdx? (·.id == r.table) d.tables with
  | none => rfl
  | some i =>
    cases hi : d.tables[i]? with
    | none => simp [hi]
    | some t => cases hj : t.fields.findIdx? (·.id == r.field) <;> simp [hi, hj]

/-- An end leads to the slot it leads to in the diagram. -/
theorem slotAt?_draft (r : FieldRef) : Draft.slotAt? d.draftSlots (text r.table) (text r.field) =
    .ok ((d.slot? r).map (d.draftSlot r)) := by
  have hread : Draft.slotAt? d.draftSlots (text r.table) (text r.field) =
      .ok ((d.lastTables.flatMap fun p => p.2.slotsAt p.1).find? fun s =>
        s.tableId.same (text r.table) && s.fieldId.same (text r.field)) := rfl
  rw [hread, List.find?_flatMap]
  simp only [Table.find?_slotsAt]
  rw [findSome?_ite fun p : Nat × Table => p.2.id == r.table, filter_lastTables, slot?_eq]
  cases hlast : lastWhere (·.id == r.table) d.tables with
  | none => rfl
  | some p =>
    have hat := lastWhere_eq_some hlast
    simp [Table.slotFor?, Function.comp_def, draftSlot, tableAt?, hat]

theorem draftSlot_congr {e : Diagram} (h : e.untyped = d.untyped) (r : FieldRef) (s : Slot) :
    e.draftSlot r s = d.draftSlot r s := by
  have hname (d : Diagram) : (d.untyped.tableAt? s).map (·.name) = (d.tableAt? s).map (·.name) := by
    cases hs : d.tables[s.table]? <;> simp [tableAt?, untyped, hs, Table.untyped]
  rw [draftSlot, draftSlot, ← hname e, h, hname d]

/-! The field in a slot -/

theorem itemAt_map {as : List α} {a : α} {n : Nat} (g : α → Draft) (h : as[n]? = some a) :
    (list (as.map g)).itemAt n = .ok (g a) := by
  simp [Draft.itemAt, h]

theorem set_map_eq_map_modify {as : List α} {a : α} {n : Nat} (g : α → β) (f : α → α)
    (h : as[n]? = some a) : (as.map g).set n (g (f a)) = (as.modify n f).map g := by
  obtain ⟨hn, rfl⟩ := List.getElem?_eq_some_iff.mp h
  apply List.ext_getElem?
  intro k
  rw [List.getElem?_set, List.getElem?_map, List.getElem?_map, List.getElem?_modify]
  by_cases hk : n = k
  · subst hk
    simp [hn]
  · simp [hk]

/-- The path of a slot leads to the field in it. -/
theorem follow_path_draft {s : Slot} {f : Field} (h : d.fieldAt? s = some f) :
    d.draft.follow s.path = .ok f.draft := by
  obtain ⟨t, ht, hf⟩ := Option.bind_eq_some_iff.mp h
  have hfields : t.draft.member "fields" = .ok (list (t.fields.map Field.draft)) := rfl
  simp only [Slot.path, Draft.follow, Draft.part, member_tables_draft, itemAt_map Table.draft ht, hfields,
    itemAt_map Field.draft hf, Except.ok_bind]

/-- A new type on the path of a slot is the new type in that slot. -/
theorem modifyAt_path_draft {s : Slot} (h : d.Holds s) (type : String) :
    d.draft.modifyAt (Draft.assign "type" (text type)) s.path = .ok (d.setType s type).draft := by
  obtain ⟨f, hslot⟩ := Option.isSome_iff_exists.mp h
  obtain ⟨t, ht, hf⟩ := Option.bind_eq_some_iff.mp hslot
  have hfields : t.draft.member "fields" = .ok (list (t.fields.map Field.draft)) := rfl
  have hfield : Draft.assign "type" (text type) f.draft = .ok (Field.draft { f with type }) := rfl
  have hplace (ds : List Draft) (n : Nat) (part : Draft) :
      (list ds).setPart (.place n) part = list (ds.set n part) := rfl
  have htable (fs : List Field) : t.draft.setPart (.member "fields") (list (fs.map Field.draft)) =
      Table.draft { t with fields := fs } := rfl
  have hdiagram (ts : List Table) : d.draft.setPart (.member "tables") (list (ts.map Table.draft)) =
      Diagram.draft { d with tables := ts } := rfl
  simp only [Slot.path, Draft.modifyAt, Draft.part, member_tables_draft, itemAt_map Table.draft ht,
    hfields, itemAt_map Field.draft hf, hfield, Except.ok_bind, Except.pure_eq, hplace]
  rw [set_map_eq_map_modify Field.draft (fun f => { f with type }) hf, htable,
    set_map_eq_map_modify Table.draft
      (fun t => { t with fields := t.fields.modify s.field fun f => { f with type } }) ht, hdiagram]
  rfl

end Diagram

end SchemaScript
