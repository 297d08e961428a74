import Mathlib.Data.List.Dedup
import SchemaScript.Proofs.Widening.Frame

/-! The changes that a widening reports, read as a journal. Every change is to a heavier type and names a
relationship that ends at the changed field. A change knows its field by the names of the table and of
the field only; while these tell all fields apart to which references can lead, carrying the changes out
once more on the types that were there before finds every type it means to replace, and ends with the
types that are there now. Since there are few weights, no field can change often. -/

namespace SchemaScript

/-- While keys are distinct, looking one up finds whatever has it. -/
theorem find?_eq_some_iff_of_nodup {α β : Type} [BEq β] [LawfulBEq β] {key : α → β} {as : List α}
    (h : (as.map key).Nodup) {b : β} {a : α} :
    as.find? (key · == b) = some a ↔ a ∈ as ∧ key a = b := by
  constructor
  · intro ha
    exact ⟨List.mem_of_find?_eq_some ha, by simpa using List.find?_some ha⟩
  · rintro ⟨ha, rfl⟩
    obtain ⟨a', ha'⟩ : ∃ a', as.find? (key · == key a) = some a' := by
      rw [← Option.isSome_iff_exists, List.find?_isSome]
      exact ⟨a, ha, by simp⟩
    have hkey : key a' = key a := by simpa using List.find?_some ha'
    rw [ha', List.inj_on_of_nodup_map h (List.mem_of_find?_eq_some ha') ha hkey]

/-- What a change calls its field: the name of the table, and the field's own. -/
def TypeChange.name (c : TypeChange) : String × String := (c.table, c.field)

/-- Carries changes out on types that are known by name, as long as each of them finds the type that it
replaces. -/
def replay? :
    List TypeChange → (String × String → Option String) → Option (String × String → Option String)
  | [], types => some types
  | c :: cs, types =>
    if types c.name = some c.oldType then
      replay? cs (Function.update types c.name (some c.newType))
    else none

theorem replay?_cons_eq_some_iff {c : TypeChange} {cs : List TypeChange}
    {types after : String × String → Option String} :
    replay? (c :: cs) types = some after ↔ types c.name = some c.oldType ∧
      replay? cs (Function.update types c.name (some c.newType)) = some after := by
  simp [replay?]

namespace Diagram

/-- All slots to which references can lead. -/
def arena (d : Diagram) : List Slot :=
  (d.tables.flatMap fun t => t.fields.filterMap fun f => d.slot? ⟨t.id, f.id⟩).dedup

def nameAt (d : Diagram) (s : Slot) : String × String :=
  (((d.tableAt? s).map (·.name)).getD "", ((d.fieldAt? s).map (·.name)).getD "")

/-- The type of the field of the arena that has this name. -/
def typeNamed? (d : Diagram) (name : String × String) : Option String :=
  (d.arena.find? (d.nameAt · == name)).map d.typeAt

/-- No two fields of the arena have the same name in tables of the same name. -/
def NamesApart (d : Diagram) : Prop := (d.arena.map d.nameAt).Nodup

instance (d : Diagram) : Decidable d.NamesApart :=
  inferInstanceAs (Decidable (d.arena.map d.nameAt).Nodup)

theorem mem_arena_iff {d : Diagram} {s : Slot} : s ∈ d.arena ↔ ∃ r, d.Resolves r s := by
  simp only [arena, List.mem_dedup, List.mem_flatMap, List.mem_filterMap]
  constructor
  · rintro ⟨t, -, f, -, h⟩
    exact ⟨_, slot?_eq_some_iff.mp h⟩
  · rintro ⟨⟨table, field⟩, h⟩
    obtain ⟨t, ht, rfl⟩ := h.table
    obtain ⟨f, hf, rfl⟩ := h.field
    rw [fieldAt?_eq ht] at hf
    exact ⟨t, List.mem_of_getElem? ht, f, List.mem_of_getElem? hf, slot?_eq_some_iff.mpr h⟩

theorem holds_of_mem_arena {d : Diagram} {s : Slot} (h : s ∈ d.arena) : d.Holds s := by
  obtain ⟨r, hr⟩ := mem_arena_iff.mp h
  exact hr.holds

theorem mem_arena_of_joins {d : Diagram} {l : Link} {s u : Slot} (hl : l ∈ d.links)
    (hjoins : l.Joins u s) : s ∈ d.arena := by
  obtain ⟨r, hr, -, hends⟩ := exists_endsAt hl hjoins
  exact mem_arena_iff.mpr (Linked.exists_resolves ⟨r, hr, hends⟩)

/-! Neither the arena nor names depend on types. -/

theorem arena_untyped (d : Diagram) : d.untyped.arena = d.arena := by
  have hfields (t : Table) :
      (t.untyped.fields.filterMap fun f => d.untyped.slot? ⟨t.untyped.id, f.id⟩) =
        t.fields.filterMap fun f => d.slot? ⟨t.id, f.id⟩ := by
    simp [Table.untyped, Field.untyped, List.filterMap_map, Function.comp_def]
  have htables : d.untyped.tables = d.tables.map Table.untyped := rfl
  simp only [arena, htables, List.flatMap_map, hfields]

theorem nameAt_untyped (d : Diagram) (s : Slot) : d.untyped.nameAt s = d.nameAt s := by
  have htable : d.untyped.tableAt? s = (d.tableAt? s).map Table.untyped := List.getElem?_map ..
  rw [nameAt, nameAt, htable, fieldAt?_untyped, Option.map_map, Option.map_map]
  rfl

theorem arena_congr {d d' : Diagram} (h : d.untyped = d'.untyped) : d.arena = d'.arena := by
  rw [← arena_untyped d, h, arena_untyped]

theorem nameAt_congr {d d' : Diagram} (h : d.untyped = d'.untyped) : d.nameAt = d'.nameAt := by
  funext s
  rw [← nameAt_untyped d, h, nameAt_untyped]

theorem namesApart_congr {d d' : Diagram} (h : d.untyped = d'.untyped) :
    d.NamesApart ↔ d'.NamesApart := by
  rw [NamesApart, NamesApart, arena_congr h, nameAt_congr h]

theorem NamesApart.typeNamed?_nameAt {d : Diagram} (h : d.NamesApart) {s : Slot} (hs : s ∈ d.arena) :
    d.typeNamed? (d.nameAt s) = some (d.typeAt s) := by
  rw [typeNamed?, (find?_eq_some_iff_of_nodup h).mpr ⟨hs, rfl⟩, Option.map_some]

theorem NamesApart.typeNamed?_setType {d : Diagram} (h : d.NamesApart) {s : Slot} (hs : s ∈ d.arena)
    (type : String) :
    (d.setType s type).typeNamed? = Function.update d.typeNamed? (d.nameAt s) (some type) := by
  funext name
  rw [typeNamed?, arena_congr (untyped_setType ..), nameAt_congr (untyped_setType ..),
    typeAt_setType (holds_of_mem_arena hs), Function.update_apply, typeNamed?]
  by_cases hname : name = d.nameAt s
  · subst hname
    rw [(find?_eq_some_iff_of_nodup h).mpr ⟨hs, rfl⟩]
    simp
  · rw [if_neg hname]
    cases hu : d.arena.find? (d.nameAt · == name) with
    | none => rfl
    | some u =>
      have hus : u ≠ s := by
        rintro rfl
        have hu' : d.nameAt u = name := by simpa using List.find?_some hu
        exact hname hu'.symm
      simp [hus]

/-! What the records of a sequence of rewrites say. -/

theorem Rewrites.of_mem {d e : Diagram} {cs : List TypeChange} (h : Rewrites d cs e) :
    ∀ c ∈ cs, typeWeight c.oldType < typeWeight c.newType ∧
      ∃ r ∈ d.relationships, r.name = c.relationship ∧ ∃ s, d.EndsAt r s ∧ d.nameAt s = c.name := by
  induction h with
  | refl => simp
  | @step d _ l s u cs hl hjoins hlt _ ih =>
    intro c hc
    rcases List.mem_cons.mp hc with rfl | hc
    · obtain ⟨r, hr, hname, hends⟩ := exists_endsAt hl hjoins
      exact ⟨hlt, r, hr, hname, s, hends, rfl⟩
    · obtain ⟨hc, r, hr, hname, v, hends, hv⟩ := ih c hc
      rw [endsAt_congr (untyped_setType ..)] at hends
      rw [nameAt_congr (untyped_setType ..)] at hv
      exact ⟨hc, r, hr, hname, v, hends, hv⟩

/-- A replay keeps in step with the rewrites, since no other field of the arena has the name that a record
gives. -/
theorem Rewrites.replay?_eq {d e : Diagram} {cs : List TypeChange} (h : Rewrites d cs e)
    (hnames : d.NamesApart) : replay? cs d.typeNamed? = some e.typeNamed? := by
  induction h with
  | refl => rfl
  | @step d _ l s u cs hl hjoins _ _ ih =>
    have hs := mem_arena_of_joins hl hjoins
    rw [replay?_cons_eq_some_iff]
    refine ⟨hnames.typeNamed?_nameAt hs, ?_⟩
    have hrest := ih ((namesApart_congr (untyped_setType ..)).mpr hnames)
    rwa [hnames.typeNamed?_setType hs] at hrest

end Diagram

/-! How often one name can come up in changes that can be replayed. -/

/-- All changes are to heavier types. -/
def Widens (cs : List TypeChange) : Prop := ∀ c ∈ cs, typeWeight c.oldType < typeWeight c.newType

/-- What a name is changed to is heavier than what it stood for. -/
theorem typeWeight_lt_of_replay? {cs : List TypeChange}
    {types after : String × String → Option String} (h : replay? cs types = some after)
    (hw : Widens cs) {name : String × String} {type : String} (htype : types name = some type) :
    ∀ c ∈ cs, c.name = name → typeWeight type < typeWeight c.newType := by
  induction cs generalizing types type with
  | nil => simp
  | cons first cs ih =>
    obtain ⟨hfirst, hrest⟩ := replay?_cons_eq_some_iff.mp h
    have hwrest : Widens cs := fun c hc => hw c (by simp [hc])
    have hlt := hw first (by simp)
    intro c hc hname
    by_cases hsame : first.name = name
    -- a change of this name stands between the type and what comes later
    · obtain rfl : first.oldType = type := by simpa [hsame, htype] using hfirst.symm
      rcases List.mem_cons.mp hc with rfl | hc
      · exact hlt
      · have hnow : Function.update types first.name (some first.newType) name =
            some first.newType := by simp [hsame]
        exact hlt.trans (ih hrest hwrest hnow c hc hname)
    · have hmem : c ∈ cs := by
        rcases List.mem_cons.mp hc with rfl | hc
        · exact absurd hname hsame
        · exact hc
      have hnow : Function.update types first.name (some first.newType) name = some type := by
        simp [Ne.symm hsame, htype]
      exact ih hrest hwrest hnow c hmem hname

/-- The weights that a name goes through increase. -/
theorem pairwise_of_replay? {cs : List TypeChange} {types after : String × String → Option String}
    (h : replay? cs types = some after) (hw : Widens cs) (name : String × String) :
    ((cs.filter (·.name == name)).map (typeWeight ·.newType)).Pairwise (· < ·) := by
  induction cs generalizing types with
  | nil => simp
  | cons first cs ih =>
    obtain ⟨-, hrest⟩ := replay?_cons_eq_some_iff.mp h
    have hwrest : Widens cs := fun c hc => hw c (by simp [hc])
    by_cases hsame : first.name = name
    · subst hsame
      have hlater := typeWeight_lt_of_replay? hrest hwrest (Function.update_self ..)
      simp only [List.filter_cons, beq_self_eq_true, if_true, List.map_cons, List.pairwise_cons]
      refine ⟨?_, ih hrest hwrest⟩
      simp only [List.mem_map, List.mem_filter, beq_iff_eq]
      rintro _ ⟨c, ⟨hc, hname⟩, rfl⟩
      exact hlater c hc hname
    · simpa [hsame] using ih hrest hwrest

theorem typeWeight_mem (type : String) : typeWeight type ∈ [0, 1, 2, 3, 4, 8, 16] := by
  unfold typeWeight
  cases h : typeWeights.lookup (Text.lower type) with
  | none => decide
  | some weight =>
    obtain ⟨before, after, hweights, -⟩ := List.lookup_eq_some_iff.mp h
    have hmem : weight ∈ typeWeights.map (·.2) := by simp [hweights]
    have hall : ∀ w ∈ typeWeights.map (·.2), w ∈ [0, 1, 2, 3, 4, 8, 16] := by decide
    exact hall weight hmem

theorem length_le_of_replay? {cs : List TypeChange} {types after : String × String → Option String}
    (h : replay? cs types = some after) (hw : Widens cs) (name : String × String) :
    (cs.filter (·.name == name)).length ≤ 6 := by
  have hnodup := (pairwise_of_replay? h hw name).imp fun hlt => hlt.ne
  have hsub : (cs.filter (·.name == name)).map (typeWeight ·.newType) ⊆ [1, 2, 3, 4, 8, 16] := by
    intro weight hweight
    obtain ⟨c, hc, rfl⟩ := List.mem_map.mp hweight
    -- nothing is lighter than what weighs nothing
    have hpos : typeWeight c.newType ≠ 0 :=
      ((Nat.zero_le _).trans_lt (hw c (List.mem_filter.mp hc).1)).ne'
    exact List.mem_of_ne_of_mem hpos (typeWeight_mem c.newType)
  simpa using (List.subperm_of_subset hnodup hsub).length_le

namespace Diagram

/-- The changes that a widening reports are the rewrites it is made of: each is to a heavier type, and
names a relationship that resolves and ends at the changed field. Where names tell the fields apart to
which references lead, a replay of the changes agrees with all types before and leads to those after. So
the types of a field grow heavier with every change, and there are at most six of these. -/
theorem widen_changes_replay (d : Diagram) (untilStable : Bool) :
    let w := d.widen untilStable
    Rewrites d w.changes w.diagram ∧
      (∀ c ∈ w.changes, typeWeight c.oldType < typeWeight c.newType ∧
        ∃ r ∈ d.relationships, r.name = c.relationship ∧
          ∃ s, d.EndsAt r s ∧ d.nameAt s = c.name) ∧
      (d.NamesApart →
        (∀ s ∈ d.arena, d.typeNamed? (d.nameAt s) = some (d.typeAt s) ∧
          w.diagram.typeNamed? (d.nameAt s) = some (w.diagram.typeAt s)) ∧
        replay? w.changes d.typeNamed? = some w.diagram.typeNamed? ∧
        ∀ name,
          ((w.changes.filter (·.name == name)).map (typeWeight ·.newType)).Pairwise (· < ·) ∧
            (w.changes.filter (·.name == name)).length ≤ 6) := by
  have hrewrites := rewrites_widen d untilStable
  have hchanges := hrewrites.of_mem
  have hw : Widens (d.widen untilStable).changes := fun c hc => (hchanges c hc).1
  refine ⟨hrewrites, hchanges, fun hnames => ?_⟩
  have hreplay := hrewrites.replay?_eq hnames
  refine ⟨?_, hreplay, fun name => ⟨pairwise_of_replay? hreplay hw name,
    length_le_of_replay? hreplay hw name⟩⟩
  intro s hs
  have huntyped := untyped_widen d untilStable
  have hafter := (namesApart_congr huntyped).mpr hnames
  refine ⟨hnames.typeNamed?_nameAt hs, ?_⟩
  rw [← nameAt_congr huntyped]
  exact hafter.typeNamed?_nameAt (arena_congr huntyped ▸ hs)

/-- A field of a type without weight, joined with fields of every weight, the lighter ones first. -/
def ladder : Diagram where
  id := none
  name := none
  dialect := none
  tables :=
    [⟨"t", "t", false,
      ["text", "tinyint", "smallint", "mediumint", "integer", "bigint", "decimal"].map fun type =>
        ⟨type, type, type, none, none, none, false, none, false⟩, []⟩]
  relationships :=
    ["tinyint", "smallint", "mediumint", "integer", "bigint", "decimal"].map fun type =>
      ⟨none, type, ⟨"t", "text"⟩, ⟨"t", type⟩⟩

/-- A single pass can change one field six times. -/
theorem ladder_widen_changes_replay :
    ladder.NamesApart ∧
      replay? (ladder.widen false).changes ladder.typeNamed? =
        some (ladder.widen false).diagram.typeNamed? ∧
      ((ladder.widen false).changes.filter (·.name == ("t", "text"))).length = 6 := by
  have hnames : ladder.NamesApart := by decide +kernel
  obtain ⟨-, -, h⟩ := widen_changes_replay ladder false
  exact ⟨hnames, (h hnames).2.1, by decide +kernel⟩

end Diagram

end SchemaScript
