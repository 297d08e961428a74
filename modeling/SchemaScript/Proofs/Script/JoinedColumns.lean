import SchemaScript.Proofs.Script.Exported

/-! The columns that a foreign key of a script joins. The script finds them among tables that are no
views and takes the first match, widening finds them among all tables and takes the last. While no two
tables share an identifier both find the same fields, and so the foreign keys of a script that was
widened until stable join columns whose types weigh the same. -/

namespace SchemaScript.Diagram

/-- An end of a relationship leads the script to this field of this table, and its column stands in the
block of the table. -/
structure Emits (d : Diagram) (r : FieldRef) (t : Table) (f : Field) : Prop where
  table : d.baseTable? r.table = some t
  field : t.field? r.field = some f
  block : t.block ∈ d.script.blocks
  column : f.column ∈ t.block.columns

theorem Emits.of_lookup {d : Diagram} {r : FieldRef} {t : Table} {f : Field}
    (ht : d.baseTable? r.table = some t) (hf : t.field? r.field = some f) : d.Emits r t f := by
  have hmem := List.mem_of_find?_eq_some ht
  have hview := List.find?_some ht
  refine ⟨ht, hf, List.mem_map_of_mem (List.mem_filter.mpr ⟨hmem, ?_⟩),
    List.mem_map_of_mem (List.mem_of_find?_eq_some hf)⟩
  simp only [Bool.and_eq_true] at hview
  exact hview.2

theorem foreignKey?_eq_some_iff {d : Diagram} {r : Relationship} {k : Script.ForeignKey} :
    d.foreignKey? r = some k ↔
      ∃ s f t g, d.Emits r.source s f ∧ d.Emits r.target t g ∧
        k = ⟨r.name, s.name, f.name, t.name, g.name⟩ := by
  simp only [foreignKey?, Option.bind_eq_bind, Option.bind_eq_some_iff, Option.some.injEq]
  constructor
  · rintro ⟨s, hs, t, ht, f, hf, g, hg, rfl⟩
    exact ⟨s, f, t, g, .of_lookup hs hf, .of_lookup ht hg, rfl⟩
  · rintro ⟨s, f, t, g, hs, ht, rfl⟩
    exact ⟨s, hs.table, t, ht.table, f, hs.field, g, ht.field, rfl⟩

/-- Where identifiers of tables are distinct, the place of a table in the list does not matter. -/
theorem exists_resolves {d : Diagram} (hid : (d.tables.map (·.id)).Nodup) {r : FieldRef} {t : Table}
    {f : Field} (ht : t ∈ d.tables) (htid : t.id = r.table) (hf : t.field? r.field = some f) :
    ∃ s, d.Resolves r s ∧ d.fieldAt? s = some f := by
  obtain ⟨i, hi⟩ := List.mem_iff_getElem?.mp ht
  obtain ⟨hfid, j, hj, rfl, hfirst⟩ := List.find?_eq_some_iff_getElem.mp hf
  have hat : d.fieldAt? ⟨i, j⟩ = some t.fields[j] := by
    rw [fieldAt?_eq hi, List.getElem?_eq_getElem hj]
  refine ⟨⟨i, j⟩, ⟨⟨t, hi, htid⟩, ?_, ⟨_, hat, by simpa using hfid⟩, ?_⟩, hat⟩
  · -- a later table with the identifier would stand in the same place
    intro k u (hk : i < k) hu huid
    have hsame : (d.tables.map (·.id))[i]? = (d.tables.map (·.id))[k]? := by
      simp [hi, hu, htid, huid]
    have hlt : i < (d.tables.map (·.id)).length := by
      simpa using (List.getElem?_eq_some_iff.mp hi).1
    exact absurd ((List.getElem?_inj hlt hid).mp hsame) hk.ne
  · intro k g (hk : k < j) hg
    rw [fieldAt?_eq hi, List.getElem?_eq_getElem (hk.trans hj)] at hg
    obtain rfl := Option.some.inj hg
    simpa using hfirst k hk

theorem Emits.exists_resolves {d : Diagram} (hid : (d.tables.map (·.id)).Nodup) {r : FieldRef}
    {t : Table} {f : Field} (h : d.Emits r t f) : ∃ s, d.Resolves r s ∧ d.typeAt s = f.type := by
  have htid := List.find?_some h.table
  simp only [Bool.and_eq_true, beq_iff_eq] at htid
  obtain ⟨s, hs, hf⟩ :=
    Diagram.exists_resolves hid (List.mem_of_find?_eq_some h.table) htid.1 h.field
  exact ⟨s, hs, by simp [typeAt, hf]⟩

/-- In a settled diagram both ends of a relationship weigh the same. -/
theorem Settled.weight_eq {d : Diagram} (h : d.Settled d.links) (hid : (d.tables.map (·.id)).Nodup)
    {r : Relationship} (hr : r ∈ d.relationships) {s t : Table} {f g : Field}
    (hs : d.Emits r.source s f) (ht : d.Emits r.target t g) :
    typeWeight f.type = typeWeight g.type := by
  obtain ⟨u, hu, huf⟩ := hs.exists_resolves hid
  obtain ⟨v, hv, hvg⟩ := ht.exists_resolves hid
  have hl : d.link? r = some ⟨r.name, u, v⟩ := link?_eq_some_iff.mpr ⟨rfl, hu, hv⟩
  have heq := h _ (List.mem_filterMap.mpr ⟨r, hr, hl⟩)
  simpa only [huf, hvg] using heq

/-- A script that was widened until stable is that of a settled diagram, which differs from the one
exported in its types only. -/
theorem exportScript_untilStable (d : Diagram) :
    (d.exportScript true true).sql = (d.exportScript true true).diagram.script.render ∧
      (d.exportScript true true).diagram.untyped = d.untyped ∧
      (d.exportScript true true).diagram.Settled d.links := by
  obtain ⟨hdiagram, hsql⟩ := d.exportScript_widens true
  rw [hdiagram, hsql]
  exact ⟨rfl, untyped_widen d true, settled_widen d⟩

/-- Each foreign key of a script that was widened until stable joins two columns of its blocks whose
types weigh the same. -/
theorem exportScript_joins_equal_weights (d : Diagram) (hid : (d.tables.map (·.id)).Nodup) :
    let e := d.exportScript true true
    e.sql = e.diagram.script.render ∧
      e.diagram.script.foreignKeys = d.relationships.filterMap e.diagram.foreignKey? ∧
      ∀ r ∈ d.relationships, ∀ k, e.diagram.foreignKey? r = some k →
        ∃ s f t g, e.diagram.Emits r.source s f ∧ e.diagram.Emits r.target t g ∧
          k = ⟨r.name, s.name, f.name, t.name, g.name⟩ ∧
          typeWeight f.column.type = typeWeight g.column.type := by
  obtain ⟨hsql, huntyped, hsettled⟩ := exportScript_untilStable d
  have hrel := relationships_congr huntyped
  refine ⟨hsql, by rw [script, hrel], fun r hr k hk => ?_⟩
  obtain ⟨s, f, t, g, hs, ht, hkey⟩ := foreignKey?_eq_some_iff.mp hk
  refine ⟨s, f, t, g, hs, ht, hkey, ?_⟩
  -- the links are those of the exported diagram as well, for they do not depend on types
  rw [← links_congr huntyped] at hsettled
  exact hsettled.weight_eq (ids_congr huntyped ▸ hid) (hrel ▸ hr) hs ht

/-- Two tables joined with each other, the second of them with a view besides. -/
def besideView : Diagram where
  id := none
  name := none
  dialect := none
  tables :=
    [⟨"a", "orders", false, [⟨"x", "owner", "smallint", none, none, none, false, none, false⟩], []⟩,
      ⟨"v", "totals", true, [⟨"x", "sum", "DECIMAL", none, none, none, true, none, false⟩], []⟩,
      ⟨"b", "users", false, [⟨"x", "id", "integer", none, none, none, false, none, true⟩], []⟩]
  relationships :=
    [⟨none, "owner", ⟨"a", "x"⟩, ⟨"b", "x"⟩⟩, ⟨none, "sums", ⟨"b", "x"⟩, ⟨"v", "x"⟩⟩]

/-- The script leaves the view out, but the columns it joins carry the type that comes from there. -/
theorem besideView_joins_equal_weights :
    (besideView.tables.map (·.id)).Nodup ∧
      ∃ s f t g, (besideView.exportScript true true).diagram.Emits ⟨"a", "x"⟩ s f ∧
        (besideView.exportScript true true).diagram.Emits ⟨"b", "x"⟩ t g ∧
        (⟨"owner", "orders", "owner", "users", "id"⟩ : Script.ForeignKey) =
          ⟨"owner", s.name, f.name, t.name, g.name⟩ ∧
        typeWeight f.column.type = typeWeight g.column.type := by
  have hid : (besideView.tables.map (·.id)).Nodup := by decide
  have hkey : (besideView.exportScript true true).diagram.foreignKey?
      ⟨none, "owner", ⟨"a", "x"⟩, ⟨"b", "x"⟩⟩ =
        some ⟨"owner", "orders", "owner", "users", "id"⟩ := by
    decide +kernel
  obtain ⟨-, -, hjoins⟩ := exportScript_joins_equal_weights besideView hid
  exact ⟨hid, hjoins ⟨none, "owner", ⟨"a", "x"⟩, ⟨"b", "x"⟩⟩ (by simp [besideView]) _ hkey⟩

end SchemaScript.Diagram
