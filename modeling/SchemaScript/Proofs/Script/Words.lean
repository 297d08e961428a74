import SchemaScript.Proofs.Script.Statements
import SchemaScript.Proofs.Widening.Frame

/-! The words of a diagram: its names, its types and its defaults, whatever is in them. A script has no
words that its diagram does not have, and neither has a diagram that was widened, for a type that it has
taken over was there before. -/

namespace SchemaScript

namespace Script

def Column.words (c : Column) : List String := c.name :: c.type :: c.default.toList

def IndexDef.words (i : IndexDef) : List String := i.name :: i.columns

def Block.words (b : Block) : List String :=
  b.table :: (b.columns.flatMap Column.words ++ b.indexes.flatMap IndexDef.words)

def ForeignKey.words (k : ForeignKey) : List String :=
  [k.name, k.sourceTable, k.sourceColumn, k.targetTable, k.targetColumn]

def words (s : Script) : List String :=
  s.blocks.flatMap Block.words ++ s.foreignKeys.flatMap ForeignKey.words

end Script

def Field.words (f : Field) : List String := f.name :: f.type :: f.default.toList

def Table.words (t : Table) : List String :=
  t.name :: (t.fields.flatMap Field.words ++ t.indexes.map (·.name))

/-- All names, types and defaults. -/
def Diagram.words (d : Diagram) : List String :=
  d.tables.flatMap Table.words ++ d.relationships.map (·.name)

/-! Words of a script -/

theorem Field.words_column_subset (f : Field) : f.column.words ⊆ f.words := by
  intro w hw
  simp only [Script.Column.words, Field.column, List.mem_cons, Option.mem_toList,
    Option.filter_eq_some_iff] at hw
  simp only [Field.words, List.mem_cons, Option.mem_toList]
  rcases hw with hname | htype | ⟨hdefault, -⟩
  · exact .inl hname
  · exact .inr (.inl htype)
  · exact .inr (.inr hdefault)

namespace Table

theorem name_mem_words (t : Table) : t.name ∈ t.words := List.mem_cons_self

theorem mem_words_of_field {t : Table} {f : Field} (hf : f ∈ t.fields) {w : String}
    (hw : w ∈ f.words) : w ∈ t.words :=
  List.mem_cons_of_mem _ (List.mem_append_left _ (List.mem_flatMap.mpr ⟨f, hf, hw⟩))

theorem columnName_mem_words {t : Table} {w : String} (hw : w ∈ t.block.columns.map (·.name)) :
    w ∈ t.words := by
  obtain ⟨c, hc, rfl⟩ := List.mem_map.mp hw
  obtain ⟨f, hf, rfl⟩ := List.mem_map.mp hc
  exact mem_words_of_field hf List.mem_cons_self

theorem words_indexDef?_subset {t : Table} {i : Index} (hi : i ∈ t.indexes) {x : Script.IndexDef}
    (h : t.indexDef? i = some x) : x.words ⊆ t.words := by
  intro w hw
  rcases List.mem_cons.mp hw with rfl | hw
  · have hname : x.name = i.name := by
      unfold indexDef? at h
      split at h
      · cases h
      · cases h
        rfl
    rw [hname]
    exact List.mem_cons_of_mem _ (List.mem_append_right _ (List.mem_map_of_mem hi))
  · exact columnName_mem_words ((columns_of_indexDef? h).2 w hw)

theorem words_block_subset (t : Table) : t.block.words ⊆ t.words := by
  intro w hw
  simp only [Script.Block.words, List.mem_cons, List.mem_append, List.mem_flatMap] at hw
  rcases hw with rfl | ⟨c, hc, hw⟩ | ⟨x, hx, hw⟩
  · exact t.name_mem_words
  · obtain ⟨f, hf, rfl⟩ := List.mem_map.mp hc
    exact mem_words_of_field hf (f.words_column_subset hw)
  · obtain ⟨i, hi, hx⟩ := List.mem_filterMap.mp hx
    exact words_indexDef?_subset hi hx hw

end Table

namespace Diagram

theorem mem_words_of_table {d : Diagram} {t : Table} (ht : t ∈ d.tables) {w : String}
    (hw : w ∈ t.words) : w ∈ d.words :=
  List.mem_append_left _ (List.mem_flatMap.mpr ⟨t, ht, hw⟩)

theorem Emits.name_mem_words {d : Diagram} {r : FieldRef} {t : Table} {f : Field}
    (h : d.Emits r t f) : t.name ∈ d.words ∧ f.name ∈ d.words := by
  have ht := List.mem_of_find?_eq_some h.table
  have hf := List.mem_of_find?_eq_some h.field
  exact ⟨mem_words_of_table ht t.name_mem_words,
    mem_words_of_table ht (Table.mem_words_of_field hf List.mem_cons_self)⟩

theorem words_foreignKey?_subset {d : Diagram} {r : Relationship} (hr : r ∈ d.relationships)
    {k : Script.ForeignKey} (h : d.foreignKey? r = some k) : k.words ⊆ d.words := by
  obtain ⟨s, f, t, g, hs, ht, rfl⟩ := foreignKey?_eq_some_iff.mp h
  have hname : r.name ∈ d.words := List.mem_append_right _ (List.mem_map_of_mem hr)
  simp only [Script.ForeignKey.words, List.cons_subset, List.nil_subset, and_true]
  exact ⟨hname, hs.name_mem_words.1, hs.name_mem_words.2, ht.name_mem_words.1, ht.name_mem_words.2⟩

theorem words_script_subset (d : Diagram) : d.script.words ⊆ d.words := by
  intro w hw
  simp only [Script.words, List.mem_append, List.mem_flatMap] at hw
  rcases hw with ⟨b, hb, hw⟩ | ⟨k, hk, hw⟩
  · obtain ⟨t, ht, rfl⟩ := List.mem_map.mp hb
    exact mem_words_of_table (List.mem_of_mem_filter ht) (t.words_block_subset hw)
  · obtain ⟨r, hr, hk⟩ := List.mem_filterMap.mp hk
    exact words_foreignKey?_subset hr hk hw

end Diagram

/-! Words of a widened diagram -/

theorem mem_of_mem_modify {as : List α} {i : Nat} {g : α → α} {b : α} (h : b ∈ as.modify i g) :
    b ∈ as ∨ ∃ a ∈ as, b = g a := by
  obtain ⟨j, hj⟩ := List.mem_iff_getElem?.mp h
  rw [List.getElem?_modify] at hj
  obtain ⟨a, ha, hb⟩ := Option.map_eq_some_iff.mp hj
  have hmem := List.mem_of_getElem? ha
  split at hb
  · exact .inr ⟨a, hmem, hb.symm⟩
  · exact .inl (hb ▸ hmem)

/-- A written type is the only word that can be new. -/
theorem Field.mem_words_of_type {f : Field} {type w : String}
    (h : w ∈ ({ f with type } : Field).words) : w = type ∨ w ∈ f.words := by
  simp only [words, List.mem_cons] at h ⊢
  rcases h with hname | htype | hdefault
  · exact .inr (.inl hname)
  · exact .inl htype
  · exact .inr (.inr (.inr hdefault))

theorem Table.mem_words_of_modify {t : Table} {i : Nat} {type w : String}
    (h : w ∈ ({ t with fields := t.fields.modify i ({ · with type }) } : Table).words) :
    w = type ∨ w ∈ t.words := by
  simp only [words, List.mem_cons, List.mem_append, List.mem_flatMap] at h
  rcases h with rfl | ⟨g, hg, hw⟩ | hw
  · exact .inr t.name_mem_words
  · rcases mem_of_mem_modify hg with hg | ⟨f, hf, rfl⟩
    · exact .inr (mem_words_of_field hg hw)
    · exact (Field.mem_words_of_type hw).imp_right (mem_words_of_field hf)
  · exact .inr (List.mem_cons_of_mem _ (List.mem_append_right _ hw))

namespace Diagram

theorem mem_words_of_setType {d : Diagram} {s : Slot} {type w : String}
    (h : w ∈ (d.setType s type).words) : w = type ∨ w ∈ d.words := by
  rcases List.mem_append.mp h with hw | hw
  · obtain ⟨u, hu, hw⟩ := List.mem_flatMap.mp hw
    rcases mem_of_mem_modify hu with hu | ⟨t, ht, rfl⟩
    · exact .inr (mem_words_of_table hu hw)
    · exact (Table.mem_words_of_modify hw).imp_right (mem_words_of_table ht)
  · exact .inr (List.mem_append_right _ hw)

theorem typeAt_mem_words {d : Diagram} {s : Slot} (h : d.Holds s) : d.typeAt s ∈ d.words := by
  obtain ⟨f, hf⟩ := Option.isSome_iff_exists.mp h
  obtain ⟨t, ht, hft⟩ := Option.bind_eq_some_iff.mp hf
  have hword : d.typeAt s ∈ f.words := by
    rw [typeAt, hf]
    exact List.mem_cons_of_mem _ List.mem_cons_self
  exact mem_words_of_table (List.mem_of_getElem? ht)
    (Table.mem_words_of_field (List.mem_of_getElem? hft) hword)

theorem Rewrites.words_subset {d e : Diagram} {cs : List TypeChange} (h : Rewrites d cs e) :
    e.words ⊆ d.words := by
  induction h with
  | refl => exact List.Subset.refl _
  | @step d _ l s u _ hl hjoins _ _ ih =>
    have hu : d.Holds u := by
      obtain ⟨hsource, htarget⟩ := holds_of_mem_links hl
      rcases hjoins with ⟨rfl, -⟩ | ⟨-, rfl⟩
      · exact hsource
      · exact htarget
    intro w hw
    rcases mem_words_of_setType (ih hw) with rfl | hw
    · exact typeAt_mem_words hu
    · exact hw

theorem words_widen_subset (d : Diagram) (untilStable : Bool) :
    (d.widen untilStable).diagram.words ⊆ d.words :=
  (rewrites_widen d untilStable).words_subset

end Diagram

end SchemaScript
