import Mathlib.Logic.Function.Basic
import SchemaScript.Widening.Basic

/-! Which field an end of a relationship leads to, said without the look-up that finds it, and what
giving a field another type does to a diagram. Such a change shows in one slot only, and no look-up
depends on types, so all diagrams of a widening have the same links. -/

namespace SchemaScript

theorem lastIdx?_eq_none {p : α → Bool} {as : List α} (h : lastIdx? p as = none) :
    ∀ a ∈ as, p a = false := by
  induction as with
  | nil => simp
  | cons a as ih =>
    cases hs : lastIdx? p as with
    | some k => simp [lastIdx?, hs] at h
    | none =>
      have ha : p a = false := by simpa [lastIdx?, hs] using h
      simpa [ha] using ih hs

theorem lastIdx?_eq_some {p : α → Bool} {as : List α} {i : Nat} (h : lastIdx? p as = some i) :
    (∃ a, as[i]? = some a ∧ p a = true) ∧ ∀ j a, i < j → as[j]? = some a → p a = false := by
  induction as generalizing i with
  | nil => simp [lastIdx?] at h
  | cons a as ih =>
    cases hs : lastIdx? p as with
    | some k =>
      obtain rfl : k + 1 = i := by simpa [lastIdx?, hs] using h
      obtain ⟨hk, hlast⟩ := ih hs
      refine ⟨by simpa using hk, fun j b hj hb => ?_⟩
      obtain ⟨m, rfl⟩ : ∃ m, j = m + 1 := ⟨j - 1, by omega⟩
      exact hlast m b (by omega) (by simpa using hb)
    | none =>
      obtain ⟨ha, rfl⟩ : p a = true ∧ 0 = i := by simpa [lastIdx?, hs] using h
      refine ⟨⟨a, rfl, ha⟩, fun j b hj hb => ?_⟩
      obtain ⟨m, rfl⟩ : ∃ m, j = m + 1 := ⟨j - 1, by omega⟩
      exact lastIdx?_eq_none hs b (List.mem_of_getElem? (by simpa using hb))

theorem lastIdx?_eq_some_iff {p : α → Bool} {as : List α} {i : Nat} :
    lastIdx? p as = some i ↔
      (∃ a, as[i]? = some a ∧ p a = true) ∧ ∀ j a, i < j → as[j]? = some a → p a = false := by
  refine ⟨lastIdx?_eq_some, fun ⟨⟨a, ha, hpa⟩, hlast⟩ => ?_⟩
  cases hs : lastIdx? p as with
  | none =>
    have := lastIdx?_eq_none hs a (List.mem_of_getElem? ha)
    simp [hpa] at this
  | some k =>
    obtain ⟨⟨b, hb, hpb⟩, hk⟩ := lastIdx?_eq_some hs
    rcases Nat.lt_trichotomy i k with hik | rfl | hik
    · simp [hlast k b hik hb] at hpb
    · rfl
    · simp [hk i a hik ha] at hpa

namespace Diagram

/-- An end of a relationship leads to the first field with its identifier in the last table with its
table identifier; a view counts like any table. -/
structure Resolves (d : Diagram) (r : FieldRef) (s : Slot) : Prop where
  table : ∃ t, d.tables[s.table]? = some t ∧ t.id = r.table
  last : ∀ i t, s.table < i → d.tables[i]? = some t → t.id ≠ r.table
  field : ∃ f, d.fieldAt? s = some f ∧ f.id = r.field
  first : ∀ j f, j < s.field → d.fieldAt? ⟨s.table, j⟩ = some f → f.id ≠ r.field

theorem fieldAt?_eq {d : Diagram} {i : Nat} {t : Table} (ht : d.tables[i]? = some t) (j : Nat) :
    d.fieldAt? ⟨i, j⟩ = t.fields[j]? := by
  simp [fieldAt?, tableAt?, ht]

theorem slot?_eq_some_iff {d : Diagram} {r : FieldRef} {s : Slot} :
    d.slot? r = some s ↔ d.Resolves r s := by
  obtain ⟨i, j⟩ := s
  simp only [slot?, Option.bind_eq_bind, Option.bind_eq_some_iff, Option.some.injEq, Slot.mk.injEq,
    lastIdx?_eq_some_iff, List.findIdx?_eq_some_iff_getElem, beq_iff_eq]
  constructor
  · rintro ⟨i, ⟨⟨t, ht, hid⟩, hlast⟩, t', ht', j, ⟨hj, hf, hfirst⟩, rfl, rfl⟩
    obtain rfl : t = t' := by simpa [ht] using ht'
    refine ⟨⟨t, ht, hid⟩, fun k u hk hu => by simpa using hlast k u hk hu, ⟨t.fields[j], ?_, hf⟩, ?_⟩
    · rw [fieldAt?_eq ht, List.getElem?_eq_getElem hj]
    · intro k f (hk : k < j) hfk
      rw [fieldAt?_eq ht, List.getElem?_eq_getElem (Nat.lt_trans hk hj)] at hfk
      obtain rfl := Option.some.inj hfk
      simpa using hfirst k hk
  · rintro ⟨⟨t, ht, hid⟩, hlast, ⟨f, hf, hfid⟩, hfirst⟩
    rw [fieldAt?_eq ht] at hf
    obtain ⟨hj, rfl⟩ := List.getElem?_eq_some_iff.mp hf
    refine ⟨i, ⟨⟨t, ht, hid⟩, fun k u hk hu => by simpa using hlast k u hk hu⟩, t, ht, j,
      ⟨hj, hfid, fun k hk => ?_⟩, rfl, rfl⟩
    have hkf := fieldAt?_eq ht k
    rw [List.getElem?_eq_getElem (Nat.lt_trans hk hj)] at hkf
    simpa using hfirst k _ hk hkf

end Diagram

/-! A diagram without its types holds all that look-ups depend on. -/

def Field.untyped (f : Field) : Field := { f with type := "" }

def Table.untyped (t : Table) : Table := { t with fields := t.fields.map Field.untyped }

def Diagram.untyped (d : Diagram) : Diagram := { d with tables := d.tables.map Table.untyped }

theorem lastIdx?_map (p : β → Bool) (f : α → β) (as : List α) :
    lastIdx? p (as.map f) = lastIdx? (fun a => p (f a)) as := by
  induction as with
  | nil => rfl
  | cons a as ih => simp only [List.map_cons, lastIdx?, ih]

theorem map_modify_of_eq {f : α → β} {g : α → α} (h : ∀ a, f (g a) = f a) (as : List α) (i : Nat) :
    (as.modify i g).map f = as.map f := by
  apply List.ext_getElem?
  intro j
  rw [List.getElem?_map, List.getElem?_modify, List.getElem?_map]
  by_cases hij : i = j
  · cases as[j]? <;> simp [hij, h]
  · simp [hij]

namespace Diagram

@[simp] theorem untyped_setType (d : Diagram) (s : Slot) (type : String) :
    (d.setType s type).untyped = d.untyped := by
  have hf (f : Field) : Field.untyped { f with type } = f.untyped := rfl
  simp only [untyped, setType, Diagram.mk.injEq, true_and, and_true]
  apply map_modify_of_eq
  intro t
  simp only [Table.untyped, map_modify_of_eq hf]

@[simp] theorem slot?_untyped (d : Diagram) (r : FieldRef) : d.untyped.slot? r = d.slot? r := by
  have hlast : lastIdx? (·.id == r.table) d.untyped.tables = lastIdx? (·.id == r.table) d.tables :=
    lastIdx?_map _ _ _
  have hat (i : Nat) : d.untyped.tables[i]? = d.tables[i]?.map Table.untyped := List.getElem?_map ..
  unfold slot?
  rw [hlast]
  congr 1
  funext i
  rw [hat i]
  cases d.tables[i]? with
  | none => rfl
  | some t => simp [Table.untyped, Field.untyped, Function.comp_def]

@[simp] theorem links_untyped (d : Diagram) : d.untyped.links = d.links := by
  have hl : d.untyped.link? = d.link? := by
    funext r
    simp only [link?, slot?_untyped]
  simp only [links, hl]
  rfl

theorem fieldAt?_untyped (d : Diagram) (s : Slot) :
    d.untyped.fieldAt? s = (d.fieldAt? s).map Field.untyped := by
  cases h : d.tables[s.table]? <;> simp [fieldAt?, tableAt?, untyped, h, Table.untyped]

/-- Another type in one slot leaves all other slots as they are. -/
theorem fieldAt?_setType (d : Diagram) (s v : Slot) (type : String) :
    (d.setType s type).fieldAt? v =
      if v = s then (d.fieldAt? s).map fun f => { f with type } else d.fieldAt? v := by
  obtain ⟨i, j⟩ := s
  obtain ⟨k, l⟩ := v
  simp only [fieldAt?, tableAt?, setType, List.getElem?_modify, Slot.mk.injEq]
  by_cases hik : i = k
  · subst hik
    cases d.tables[i]? with
    | none => simp
    | some t =>
      by_cases hjl : j = l
      · subst hjl
        cases h : t.fields[j]? <;> simp [h]
      · simp [hjl, Ne.symm hjl]
  · simp [hik, Ne.symm hik]

/-- There is a field in this slot. -/
def Holds (d : Diagram) (s : Slot) : Prop := (d.fieldAt? s).isSome

theorem holds_congr {d d' : Diagram} (h : d.untyped = d'.untyped) (s : Slot) :
    d.Holds s ↔ d'.Holds s := by
  have hf := congrArg (fun e : Diagram => (e.fieldAt? s).isSome) h
  simp only [fieldAt?_untyped, Option.isSome_map] at hf
  rw [Holds, Holds, hf]

theorem slot?_congr {d d' : Diagram} (h : d.untyped = d'.untyped) (r : FieldRef) :
    d.slot? r = d'.slot? r := by
  rw [← slot?_untyped d, h, slot?_untyped]

theorem links_congr {d d' : Diagram} (h : d.untyped = d'.untyped) : d.links = d'.links := by
  rw [← links_untyped d, h, links_untyped]

theorem ids_congr {d d' : Diagram} (h : d.untyped = d'.untyped) :
    d.tables.map (·.id) = d'.tables.map (·.id) := by
  have hid (e : Diagram) : e.untyped.tables.map (·.id) = e.tables.map (·.id) := by
    simp [untyped, Table.untyped, Function.comp_def]
  rw [← hid d, h, hid d']

theorem relationships_congr {d d' : Diagram} (h : d.untyped = d'.untyped) :
    d.relationships = d'.relationships := by
  have hr := congrArg (fun e : Diagram => e.relationships) h
  exact hr

theorem typeAt_setType {d : Diagram} {s : Slot} (h : d.Holds s) (type : String) :
    (d.setType s type).typeAt = Function.update d.typeAt s type := by
  obtain ⟨f, hf⟩ := Option.isSome_iff_exists.mp h
  funext v
  rw [typeAt, fieldAt?_setType, Function.update_apply]
  by_cases hv : v = s
  · simp [hv, hf]
  · simp [hv, typeAt]

theorem Resolves.holds {d : Diagram} {r : FieldRef} {s : Slot} (h : d.Resolves r s) : d.Holds s := by
  obtain ⟨f, hf, _⟩ := h.field
  simp [Holds, hf]

theorem link?_eq_some_iff {d : Diagram} {r : Relationship} {l : Link} :
    d.link? r = some l ↔
      r.name = l.relationship ∧ d.Resolves r.source l.source ∧ d.Resolves r.target l.target := by
  obtain ⟨name, s, t⟩ := l
  simp only [link?, Option.bind_eq_bind, Option.bind_eq_some_iff, Option.some.injEq, Link.mk.injEq,
    slot?_eq_some_iff]
  constructor
  · rintro ⟨s, hs, t, ht, rfl, rfl, rfl⟩
    exact ⟨rfl, hs, ht⟩
  · rintro ⟨rfl, hs, ht⟩
    exact ⟨s, hs, t, ht, rfl, rfl, rfl⟩

theorem holds_of_mem_links {d : Diagram} {l : Link} (h : l ∈ d.links) :
    d.Holds l.source ∧ d.Holds l.target := by
  obtain ⟨r, -, hr⟩ := List.mem_filterMap.mp h
  obtain ⟨-, hs, ht⟩ := link?_eq_some_iff.mp hr
  exact ⟨hs.holds, ht.holds⟩

end Diagram

end SchemaScript
