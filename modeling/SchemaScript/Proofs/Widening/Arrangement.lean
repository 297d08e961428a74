import Mathlib.Data.List.Forall2
import SchemaScript.Proofs.Script.JoinedColumns
import SchemaScript.Proofs.Widening.Replay
import SchemaScript.Proofs.Widening.Settling

/-! Diagrams that say the same in another arrangement. Widening knows fields only as what references lead
to, and of these it sees names and types. So two diagrams in which every reference leads to the same names
and the same type are widened alike, wherever their tables and fields stand. Which end of a relationship
comes first does not matter either, and relationships that resolve to fewer than two fields do nothing:
not even the limit on the number of passes depends on them in the end, for it is never reached. -/

namespace SchemaScript

/-- The relationship the other way round. -/
def Relationship.swapped (r : Relationship) : Relationship :=
  { r with source := r.target, target := r.source }

/-- The same table with its fields in another order. What widening does not look at may differ. -/
structure Table.Rearranges (t t' : Table) : Prop where
  id : t.id = t'.id
  name : t.name = t'.name
  fields : t.fields.Perm t'.fields

/-- The names and the type of a field. -/
abbrev Seen := (String × String) × String

/-- What widening along a relationship does, judged by what its two references lead to: the reference
whose type is rewritten, and the record of it. -/
def Relationship.effect? (r : Relationship) (seen : FieldRef → Option Seen) :
    Option (FieldRef × TypeChange) :=
  match seen r.source, seen r.target with
  | some ((sourceTable, source), sourceType), some ((targetTable, target), targetType) =>
    if typeWeight targetType < typeWeight sourceType then
      some (r.target, ⟨targetTable, target, targetType, sourceType, r.name⟩)
    else if typeWeight sourceType < typeWeight targetType then
      some (r.source, ⟨sourceTable, source, sourceType, targetType, r.name⟩)
    else none
  | _, _ => none

theorem Relationship.effect?_swapped (r : Relationship) (seen : FieldRef → Option Seen) :
    r.swapped.effect? seen = r.effect? seen := by
  unfold effect? swapped
  dsimp only
  cases seen r.source with
  | none => cases seen r.target <;> rfl
  | some a =>
    cases seen r.target with
    | none => rfl
    | some b =>
      dsimp only
      split
      case isTrue h => rw [if_neg (Nat.lt_asymm h)]
      case isFalse h => rfl

namespace Diagram

def seen? (d : Diagram) (r : FieldRef) : Option Seen :=
  (d.slot? r).map fun s => (d.nameAt s, d.typeAt s)

/-- The relationship does not resolve, or both its ends lead to one field. -/
def Inert (d : Diagram) (r : Relationship) : Prop :=
  ∀ u v, d.Resolves r.source u → d.Resolves r.target v → u = v

theorem inert_iff {d : Diagram} {r : Relationship} :
    d.Inert r ↔ d.slot? r.source = none ∨ d.slot? r.target = none ∨
      d.slot? r.source = d.slot? r.target := by
  simp only [Inert, ← slot?_eq_some_iff]
  cases d.slot? r.source <;> cases d.slot? r.target <;> simp

instance (d : Diagram) (r : Relationship) : Decidable (d.Inert r) := decidable_of_iff _ inert_iff.symm

/-- The same relationships in the same order, except that some are turned round, and that some which are
inert are left out or put in. -/
inductive SameBut (d : Diagram) : List Relationship → List Relationship → Prop
  | nil : SameBut d [] []
  | keep {r : Relationship} {rs rs' : List Relationship} :
      SameBut d rs rs' → SameBut d (r :: rs) (r :: rs')
  | swap {r : Relationship} {rs rs' : List Relationship} :
      SameBut d rs rs' → SameBut d (r :: rs) (r.swapped :: rs')
  | delete {r : Relationship} {rs rs' : List Relationship} :
      d.Inert r → SameBut d rs rs' → SameBut d (r :: rs) rs'
  | insert {r : Relationship} {rs rs' : List Relationship} :
      d.Inert r → SameBut d rs rs' → SameBut d rs (r :: rs')

/-- Tables in another order, and in each of them fields in another order; relationships the same but for
their direction and for inert ones. -/
structure Rearranges (d d' : Diagram) : Prop where
  tables : ∃ ts, List.Forall₂ Table.Rearranges d.tables ts ∧ ts.Perm d'.tables
  relationships : d.SameBut d.relationships d'.relationships

/-- The identifiers of tables are distinct, and so are those of the fields of each table. -/
structure DistinctIds (d : Diagram) : Prop where
  tables : (d.tables.map (·.id)).Nodup
  fields : ∀ t ∈ d.tables, (t.fields.map (·.id)).Nodup

/-- The type of the field with this identifier in the table with this identifier. -/
def typeOf? (d : Diagram) (r : FieldRef) : Option String := do
  let t ← d.table? r.table
  let f ← t.field? r.field
  some f.type

/-! What one relationship does -/

/-- No two references lead to the same slot. -/
theorem Resolves.inj {d : Diagram} {q r : FieldRef} {s : Slot} (hq : d.Resolves q s)
    (hr : d.Resolves r s) : q = r := by
  obtain ⟨t, ht, htable⟩ := hq.table
  obtain ⟨u, hu, htable'⟩ := hr.table
  obtain rfl : t = u := Option.some.inj (ht.symm.trans hu)
  obtain ⟨f, hf, hfield⟩ := hq.field
  obtain ⟨g, hg, hfield'⟩ := hr.field
  obtain rfl : f = g := Option.some.inj (hf.symm.trans hg)
  obtain ⟨table, field⟩ := q
  obtain ⟨table', field'⟩ := r
  rw [FieldRef.mk.injEq]
  exact ⟨htable.symm.trans htable', hfield.symm.trans hfield'⟩

theorem seen?_of_resolves {d : Diagram} {r : FieldRef} {s : Slot} (h : d.Resolves r s) :
    d.seen? r = some (d.nameAt s, d.typeAt s) := by
  rw [seen?, slot?_eq_some_iff.mpr h, Option.map_some]

theorem seen?_setType {d : Diagram} {r : FieldRef} {s : Slot} (h : d.Resolves r s) (type : String) :
    (d.setType s type).seen? = Function.update d.seen? r (some (d.nameAt s, type)) := by
  funext q
  rw [seen?, slot?_congr (untyped_setType ..), nameAt_congr (untyped_setType ..),
    typeAt_setType h.holds, Function.update_apply]
  by_cases hq : q = r
  · subst hq
    rw [slot?_eq_some_iff.mpr h]
    simp
  · rw [if_neg hq, seen?]
    cases hv : d.slot? q with
    | none => rfl
    | some v =>
      -- a write shows through one reference only
      have hvs : v ≠ s := by
        rintro rfl
        exact hq ((slot?_eq_some_iff.mp hv).inj h)
      simp [hvs]

theorem effect?_of_link?_eq_none {d : Diagram} {r : Relationship} (h : d.link? r = none) :
    r.effect? d.seen? = none := by
  unfold Relationship.effect? seen?
  cases hs : d.slot? r.source with
  | none => rfl
  | some s =>
    cases ht : d.slot? r.target with
    | none => rfl
    | some t => simp [link?, hs, ht] at h

theorem effect?_of_link?_eq_some {d : Diagram} {r : Relationship} {l : Link}
    (h : d.link? r = some l) :
    (d.widening? l = none ∧ r.effect? d.seen? = none) ∨
      ∃ q s type, d.Resolves q s ∧ d.widening? l = some (s, type) ∧
        r.effect? d.seen? = some (q, d.change l s type) := by
  obtain ⟨hname, hs, ht⟩ := link?_eq_some_iff.mp h
  unfold Relationship.effect? widening?
  rw [seen?_of_resolves hs, seen?_of_resolves ht, hname]
  dsimp only
  by_cases hts : typeWeight (d.typeAt l.target) < typeWeight (d.typeAt l.source)
  · simp only [if_pos hts]
    exact .inr ⟨r.target, l.target, _, ht, rfl, rfl⟩
  · by_cases hst : typeWeight (d.typeAt l.source) < typeWeight (d.typeAt l.target)
    · simp only [if_neg hts, if_pos hst]
      exact .inr ⟨r.source, l.source, _, hs, rfl, rfl⟩
    · simp [hts, hst]

/-- One pass along these relationships. -/
def widenBy (d : Diagram) (rs : List Relationship) : Widened := d.widenAlong (rs.filterMap d.link?)

theorem widenBy_cons_of_none {d : Diagram} {r : Relationship} (h : r.effect? d.seen? = none)
    (rs : List Relationship) : d.widenBy (r :: rs) = d.widenBy rs := by
  unfold widenBy
  cases hl : d.link? r with
  | none => rw [List.filterMap_cons_none hl]
  | some l =>
    obtain ⟨hw, -⟩ | ⟨q, s, type, -, -, heffect⟩ := effect?_of_link?_eq_some hl
    · rw [List.filterMap_cons_some hl, widenAlong, hw]
    · simp [h] at heffect

theorem widenBy_cons_of_some {d : Diagram} {r : Relationship} {q : FieldRef} {c : TypeChange}
    (h : r.effect? d.seen? = some (q, c)) (rs : List Relationship) :
    ∃ e : Diagram, e.untyped = d.untyped ∧
      e.seen? = Function.update d.seen? q (some (c.name, c.newType)) ∧
      (d.widenBy (r :: rs)).changes = c :: (e.widenBy rs).changes ∧
      (d.widenBy (r :: rs)).diagram = (e.widenBy rs).diagram := by
  cases hl : d.link? r with
  | none => simp [effect?_of_link?_eq_none hl] at h
  | some l =>
    obtain ⟨-, hnone⟩ | ⟨q', s, type, hq, hw, heffect⟩ := effect?_of_link?_eq_some hl
    · simp [h] at hnone
    · obtain ⟨rfl, rfl⟩ : q = q' ∧ c = d.change l s type := by simpa [h] using heffect
      have hlink : (d.setType s type).link? = d.link? := by
        funext r
        simp only [link?, slot?_congr (untyped_setType ..)]
      refine ⟨d.setType s type, untyped_setType .., seen?_setType hq type, ?_, ?_⟩ <;>
        simp only [widenBy, List.filterMap_cons_some hl, widenAlong, hw, hlink]

theorem Inert.effect?_eq_none {d e : Diagram} {r : Relationship} (h : d.Inert r)
    (hu : e.untyped = d.untyped) : r.effect? e.seen? = none := by
  cases hl : e.link? r with
  | none => exact effect?_of_link?_eq_none hl
  | some l =>
    obtain ⟨-, hs, ht⟩ := link?_eq_some_iff.mp hl
    have hsame : l.source = l.target := by
      rw [← slot?_eq_some_iff, slot?_congr hu, slot?_eq_some_iff] at hs ht
      exact h _ _ hs ht
    obtain ⟨-, hnone⟩ | ⟨q, s, type, -, hw, -⟩ := effect?_of_link?_eq_some hl
    · exact hnone
    · rw [widening?_eq_none_iff.mpr (by rw [hsame])] at hw
      cases hw

/-! What all relationships do, one pass and many -/

/-- The same changes, and references that lead to the same names and types afterwards. -/
structure Alike (w w' : Widened) : Prop where
  changes : w.changes = w'.changes
  seen : w.diagram.seen? = w'.diagram.seen?

/-- Two relationships of the same effect lead on from one to the same. -/
theorem alike_cons {d d' : Diagram} {r r' : Relationship} {rs rs' : List Relationship}
    (heffect : r.effect? d.seen? = r'.effect? d'.seen?) (hseen : d.seen? = d'.seen?)
    (hrest : ∀ e e' : Diagram, e.untyped = d.untyped → e.seen? = e'.seen? →
      Alike (e.widenBy rs) (e'.widenBy rs')) :
    Alike (d.widenBy (r :: rs)) (d'.widenBy (r' :: rs')) := by
  cases h : r.effect? d.seen? with
  | none =>
    rw [widenBy_cons_of_none h, widenBy_cons_of_none (heffect ▸ h)]
    exact hrest d d' rfl hseen
  | some p =>
    obtain ⟨q, c⟩ := p
    obtain ⟨e, hu, he, hchanges, hdiagram⟩ := widenBy_cons_of_some h rs
    obtain ⟨e', -, he', hchanges', hdiagram'⟩ := widenBy_cons_of_some (heffect ▸ h) rs'
    have halike := hrest e e' hu (by rw [he, he', hseen])
    constructor
    · rw [hchanges, hchanges', halike.changes]
    · rw [hdiagram, hdiagram', halike.seen]

/-- What is inert in a diagram is inert in every other that differs in types only, so it can be judged by
the first diagram of a run all along. -/
theorem SameBut.alike {d e e' : Diagram} {rs rs' : List Relationship} (h : d.SameBut rs rs')
    (hu : e.untyped = d.untyped) (hseen : e.seen? = e'.seen?) :
    Alike (e.widenBy rs) (e'.widenBy rs') := by
  induction h generalizing e e' with
  | nil => exact ⟨rfl, hseen⟩
  | keep _ ih =>
    apply alike_cons (by rw [hseen]) hseen
    exact fun _ _ hu' hseen' => ih (hu'.trans hu) hseen'
  | swap _ ih =>
    apply alike_cons (by rw [hseen, Relationship.effect?_swapped]) hseen
    exact fun _ _ hu' hseen' => ih (hu'.trans hu) hseen'
  | delete hr _ ih =>
    rw [widenBy_cons_of_none (hr.effect?_eq_none hu)]
    exact ih hu hseen
  | insert hr _ ih =>
    rw [widenBy_cons_of_none (hseen ▸ hr.effect?_eq_none hu)]
    exact ih hu hseen

theorem SameBut.alike_pass {d e e' : Diagram} (h : d.SameBut d.relationships e'.relationships)
    (hu : e.untyped = d.untyped) (hseen : e.seen? = e'.seen?) :
    Alike (e.widen false) (e'.widen false) := by
  rw [← relationships_congr hu] at h
  exact h.alike hu hseen

/-- Passes until one changes nothing have their like from any diagram in which references lead to the
same. How many relationships there are does not matter to them. -/
theorem SinglePasses.exists_alike {d e e' f : Diagram} {n : Nat} {cs : List TypeChange}
    (h : SinglePasses e n cs f) (hrs : d.SameBut d.relationships e'.relationships)
    (hu : e.untyped = d.untyped) (hseen : e.seen? = e'.seen?) :
    ∃ f', SinglePasses e' n cs f' ∧ f.seen? = f'.seen? := by
  induction h generalizing e' with
  | last hnil =>
    have hpass := hrs.alike_pass hu hseen
    exact ⟨_, .last (hpass.changes ▸ hnil), hpass.seen⟩
  | @more e _ n cs hne _ ih =>
    have hpass := hrs.alike_pass hu hseen
    rw [← relationships_congr (untyped_widen e' false)] at hrs
    obtain ⟨f', hf', hfinal⟩ := ih hrs ((untyped_widen e false).trans hu) hpass.seen
    rw [hpass.changes]
    exact ⟨f', .more (hpass.changes ▸ hne) hf', hfinal⟩

/-- Until stable, widening comes to what its single passes come to. -/
theorem singlePasses_widen (d : Diagram) :
    SinglePasses d (d.widen true).passes (d.widen true).changes (d.widen true).diagram :=
  singlePasses_widenRepeatedly (settled_widenUntilStable d)

theorem SameBut.alike_widen {d d' : Diagram} (h : d.SameBut d.relationships d'.relationships)
    (hseen : d.seen? = d'.seen?) (untilStable : Bool) :
    Alike (d.widen untilStable) (d'.widen untilStable) := by
  cases untilStable with
  | false => exact h.alike rfl hseen
  | true =>
    obtain ⟨f, hf, hfinal⟩ := (singlePasses_widen d).exists_alike h rfl hseen
    obtain ⟨-, hchanges, rfl⟩ := hf.unique (singlePasses_widen d')
    exact ⟨hchanges, hfinal⟩

/-! What references lead to while identifiers are distinct -/

theorem Resolves.lookup {d : Diagram} (hid : (d.tables.map (·.id)).Nodup) {r : FieldRef} {s : Slot}
    (h : d.Resolves r s) : ∃ t f, d.table? r.table = some t ∧ t.field? r.field = some f ∧
      d.tableAt? s = some t ∧ d.fieldAt? s = some f := by
  obtain ⟨t, ht, htid⟩ := h.table
  obtain ⟨f, hf, hfid⟩ := h.field
  refine ⟨t, f, (find?_eq_some_iff_of_nodup hid).mpr ⟨List.mem_of_getElem? ht, htid⟩, ?_, ht, hf⟩
  have hat (j : Nat) : d.fieldAt? ⟨s.table, j⟩ = t.fields[j]? := fieldAt?_eq ht j
  obtain ⟨hj, rfl⟩ := List.getElem?_eq_some_iff.mp ((hat s.field).symm.trans hf)
  refine List.find?_eq_some_iff_getElem.mpr ⟨by simpa using hfid, s.field, hj, rfl, ?_⟩
  intro k hk
  have hkf := hat k
  rw [List.getElem?_eq_getElem (Nat.lt_trans hk hj)] at hkf
  simpa using h.first k _ hk hkf

/-- While tables are told apart, a reference leads where looking up its table and its field leads. -/
theorem seen?_eq_lookup {d : Diagram} (hid : (d.tables.map (·.id)).Nodup) (r : FieldRef) :
    d.seen? r = (d.table? r.table).bind fun t =>
      (t.field? r.field).map fun f => ((t.name, f.name), f.type) := by
  cases hs : d.slot? r with
  | some s =>
    have hr := slot?_eq_some_iff.mp hs
    obtain ⟨t, f, ht, hf, hat, hfat⟩ := hr.lookup hid
    rw [seen?_of_resolves hr]
    simp [ht, hf, nameAt, typeAt, hat, hfat]
  | none =>
    -- a field found by looking up would have a slot, whose table is the last with its identifier too
    rw [seen?, hs, Option.map_none]
    symm
    rw [Option.bind_eq_none_iff]
    intro t ht
    rw [Option.map_eq_none_iff]
    by_contra hf
    obtain ⟨f, hf⟩ := Option.ne_none_iff_exists'.mp hf
    have htid : t.id = r.table := by simpa using List.find?_some ht
    obtain ⟨s, hs', -⟩ := exists_resolves hid (List.mem_of_find?_eq_some ht) htid hf
    simp [slot?_eq_some_iff.mpr hs'] at hs

theorem typeOf?_eq {d : Diagram} (hid : (d.tables.map (·.id)).Nodup) (r : FieldRef) :
    d.typeOf? r = (d.seen? r).map (·.2) := by
  rw [seen?_eq_lookup hid, typeOf?]
  cases d.table? r.table with
  | none => rfl
  | some t => cases h : t.field? r.field <;> simp [h]

/-- Where keys are distinct, a look-up does not depend on the order. -/
theorem find?_eq_of_perm {α β : Type} [BEq β] [LawfulBEq β] {key : α → β} {as bs : List α}
    (h : as.Perm bs) (hkey : (as.map key).Nodup) (b : β) :
    as.find? (key · == b) = bs.find? (key · == b) := by
  have hkey' : (bs.map key).Nodup := (h.map key).nodup_iff.mp hkey
  apply Option.ext
  intro a
  rw [find?_eq_some_iff_of_nodup hkey, find?_eq_some_iff_of_nodup hkey', h.mem_iff]

/-- Tables that differ in the order of fields are found at the same place, or both are not found. -/
theorem find?_of_forall₂ {ts us : List Table} (h : List.Forall₂ Table.Rearranges ts us) (id : String) :
    (ts.find? (·.id == id) = none ∧ us.find? (·.id == id) = none) ∨
      ∃ t u, ts.find? (·.id == id) = some t ∧ us.find? (·.id == id) = some u ∧ t.Rearranges u := by
  induction h with
  | nil => exact .inl ⟨rfl, rfl⟩
  | @cons t u ts us htu _ ih =>
    by_cases ht : t.id = id
    · have hu : u.id = id := htu.id ▸ ht
      exact .inr ⟨t, u, by simp [ht], by simp [hu], htu⟩
    · have hu : u.id ≠ id := htu.id ▸ ht
      simpa [ht, hu] using ih

theorem map_id_of_forall₂ {ts us : List Table} (h : List.Forall₂ Table.Rearranges ts us) :
    ts.map (·.id) = us.map (·.id) := by
  induction h with
  | nil => rfl
  | cons htu _ ih => rw [List.map_cons, List.map_cons, htu.id, ih]

theorem Rearranges.nodup {d d' : Diagram} (h : d.Rearranges d') (hid : d.DistinctIds) :
    (d'.tables.map (·.id)).Nodup := by
  obtain ⟨ts, hts, hperm⟩ := h.tables
  rw [← (hperm.map (·.id)).nodup_iff, ← map_id_of_forall₂ hts]
  exact hid.tables

theorem Rearranges.seen?_eq {d d' : Diagram} (h : d.Rearranges d') (hid : d.DistinctIds) :
    d.seen? = d'.seen? := by
  obtain ⟨ts, hts, hperm⟩ := h.tables
  have hts' : (ts.map (·.id)).Nodup := map_id_of_forall₂ hts ▸ hid.tables
  funext r
  have htable : d'.table? r.table = ts.find? (·.id == r.table) :=
    (find?_eq_of_perm hperm hts' r.table).symm
  rw [seen?_eq_lookup hid.tables, seen?_eq_lookup (h.nodup hid), htable, table?]
  obtain ⟨hnone, hnone'⟩ | ⟨t, u, ht, hu, htu⟩ := find?_of_forall₂ hts r.table
  · rw [hnone, hnone']
  · have hfield : t.field? r.field = u.field? r.field :=
      find?_eq_of_perm htu.fields (hid.fields t (List.mem_of_find?_eq_some ht)) r.field
    rw [ht, hu, Option.bind_some, Option.bind_some, hfield, htu.name]

/-- While identifiers are distinct, the arrangement of a diagram does not matter to widening: it makes the
same changes and leaves every field with the same type. -/
theorem widen_eq_of_rearranges {d d' : Diagram} (hid : d.DistinctIds) (h : d.Rearranges d')
    (untilStable : Bool) :
    (d'.widen untilStable).changes = (d.widen untilStable).changes ∧
      ∀ r, (d'.widen untilStable).diagram.typeOf? r = (d.widen untilStable).diagram.typeOf? r := by
  have halike := h.relationships.alike_widen (h.seen?_eq hid) untilStable
  refine ⟨halike.changes.symm, fun r => ?_⟩
  have hids := ids_congr (untyped_widen d untilStable)
  have hids' := ids_congr (untyped_widen d' untilStable)
  rw [typeOf?_eq (hids' ▸ h.nodup hid), typeOf?_eq (hids ▸ hid.tables), halike.seen]

/-- Two tables in a chain of three fields, and a relationship that does not resolve. -/
def chained : Diagram where
  id := none
  name := none
  dialect := none
  tables :=
    [⟨"a", "orders", false,
        [⟨"x", "owner", "integer", none, none, none, false, none, false⟩,
          ⟨"y", "payer", "smallint", none, none, none, false, none, false⟩], []⟩,
      ⟨"b", "users", false, [⟨"z", "id", "bigint", none, none, none, false, none, true⟩], []⟩]
  relationships :=
    [⟨none, "lost", ⟨"a", "x"⟩, ⟨"gone", "x"⟩⟩, ⟨none, "payer", ⟨"a", "y"⟩, ⟨"a", "x"⟩⟩,
      ⟨none, "owner", ⟨"a", "x"⟩, ⟨"b", "z"⟩⟩]

/-- The same with everything in another order, one relationship turned round, and a loop instead of the
relationship that does not resolve. -/
def chainedOtherwise : Diagram where
  id := none
  name := none
  dialect := none
  tables :=
    [⟨"b", "users", false, [⟨"z", "id", "bigint", none, none, none, false, none, true⟩], []⟩,
      ⟨"a", "orders", false,
        [⟨"y", "payer", "smallint", none, none, none, false, none, false⟩,
          ⟨"x", "owner", "integer", none, none, none, false, none, false⟩], []⟩]
  relationships :=
    [⟨none, "payer", ⟨"a", "y"⟩, ⟨"a", "x"⟩⟩, ⟨none, "owner", ⟨"b", "z"⟩, ⟨"a", "x"⟩⟩,
      ⟨none, "loop", ⟨"b", "z"⟩, ⟨"b", "z"⟩⟩]

theorem chained_rearranges : chained.Rearranges chainedOtherwise where
  tables := by
    refine ⟨chainedOtherwise.tables.reverse, ?_, List.reverse_perm _⟩
    exact .cons ⟨rfl, rfl, by decide⟩ (.cons ⟨rfl, rfl, by decide⟩ .nil)
  relationships :=
    .delete (by decide) (.keep (.swap (.insert (by decide) .nil)))

theorem chained_widen_eq : chained.DistinctIds ∧ chained.Rearranges chainedOtherwise ∧
    (chainedOtherwise.widen true).changes = (chained.widen true).changes ∧
    (chainedOtherwise.widen true).diagram.typeOf? ⟨"a", "y"⟩ =
      (chained.widen true).diagram.typeOf? ⟨"a", "y"⟩ := by
  have hid : chained.DistinctIds := ⟨by decide, by decide⟩
  obtain ⟨hchanges, htypes⟩ := widen_eq_of_rearranges hid chained_rearranges true
  exact ⟨hid, chained_rearranges, hchanges, htypes _⟩

end Diagram

end SchemaScript
