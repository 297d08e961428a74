import Mathlib.Data.List.Nodup
import Mathlib.Data.List.Perm.Subperm
import SchemaScript.Proofs.Widening.Spread

/-! The graph that relationships span over the fields: a walk goes over relationships, named by their
positions, both of whose ends resolve. A pass goes along exactly the walks whose positions ascend. Any
two ends of a walk have one between them that uses no relationship twice, which bounds how many passes
it takes to get from one to the other. -/

namespace SchemaScript

namespace Diagram

/-- The relationship at position `i` resolves and has these two ends, either way round. -/
def Joins (d : Diagram) (i : Nat) (u v : Slot) : Prop :=
  ∃ r, d.relationships[i]? = some r ∧
    ((d.Resolves r.source u ∧ d.Resolves r.target v) ∨
      (d.Resolves r.source v ∧ d.Resolves r.target u))

/-- A walk over the relationships at these positions, each of them in either direction. -/
inductive Walk (d : Diagram) : Slot → List Nat → Slot → Prop
  | nil (v : Slot) : Walk d v [] v
  | cons {i : Nat} {is : List Nat} {u x v : Slot} :
      d.Joins i u x → Walk d x is v → Walk d u (i :: is) v

/-- There is a walk from `u` to `v` over relationships that stand one after the other. -/
def Precedes (d : Diagram) (u v : Slot) : Prop :=
  ∃ is : List Nat, is.Pairwise (· < ·) ∧ d.Walk u is v

/-- There is a walk from `u` to `v` at all. -/
def Connected (d : Diagram) (u v : Slot) : Prop := ∃ is : List Nat, d.Walk u is v

theorem joins_iff {d : Diagram} {i : Nat} {u v : Slot} :
    d.Joins i u v ↔ ∃ r l, d.relationships[i]? = some r ∧ d.link? r = some l ∧ l.Joins u v := by
  constructor
  · rintro ⟨r, hr, ⟨hu, hv⟩ | ⟨hv, hu⟩⟩
    · exact ⟨r, ⟨r.name, u, v⟩, hr, link?_eq_some_iff.mpr ⟨rfl, hu, hv⟩, .inl ⟨rfl, rfl⟩⟩
    · exact ⟨r, ⟨r.name, v, u⟩, hr, link?_eq_some_iff.mpr ⟨rfl, hv, hu⟩, .inr ⟨rfl, rfl⟩⟩
  · rintro ⟨r, l, hr, hl, h⟩
    obtain ⟨-, hs, ht⟩ := link?_eq_some_iff.mp hl
    rcases h with ⟨rfl, rfl⟩ | ⟨rfl, rfl⟩
    · exact ⟨r, hr, .inl ⟨hs, ht⟩⟩
    · exact ⟨r, hr, .inr ⟨hs, ht⟩⟩

theorem Joins.symm {d : Diagram} {i : Nat} {u v : Slot} (h : d.Joins i u v) : d.Joins i v u := by
  obtain ⟨r, hr, h⟩ := h
  exact ⟨r, hr, h.symm⟩

theorem Joins.lt_length {d : Diagram} {i : Nat} {u v : Slot} (h : d.Joins i u v) :
    i < d.relationships.length := by
  obtain ⟨r, hr, -⟩ := h
  exact (List.getElem?_eq_some_iff.mp hr).1

theorem Joins.eq_or_swap {d : Diagram} {i : Nat} {u v x y : Slot} (h : d.Joins i u v)
    (h' : d.Joins i x y) : (u = x ∧ v = y) ∨ (u = y ∧ v = x) := by
  obtain ⟨r, l, hr, hl, h⟩ := joins_iff.mp h
  obtain ⟨r', l', hr', hl', h'⟩ := joins_iff.mp h'
  obtain rfl : r = r' := by simpa [hr] using hr'
  obtain rfl : l = l' := by simpa [hl] using hl'
  exact h.eq_or_swap h'

theorem walk_append_iff {d : Diagram} {is js : List Nat} {u v : Slot} :
    d.Walk u (is ++ js) v ↔ ∃ x, d.Walk u is x ∧ d.Walk x js v := by
  induction is generalizing u with
  | nil =>
    refine ⟨fun h => ⟨u, .nil u, h⟩, ?_⟩
    rintro ⟨x, hux, hxv⟩
    cases hux
    exact hxv
  | cons i is ih =>
    constructor
    · intro h
      cases h with
      | cons hi h =>
        obtain ⟨x, hx, hxv⟩ := ih.mp h
        exact ⟨x, .cons hi hx, hxv⟩
    · rintro ⟨x, hux, hxv⟩
      cases hux with
      | cons hi hx => exact .cons hi (ih.mpr ⟨x, hx, hxv⟩)

theorem Connected.trans {d : Diagram} {u v x : Slot} (h : d.Connected u x) (h' : d.Connected x v) :
    d.Connected u v := by
  obtain ⟨is, hu⟩ := h
  obtain ⟨js, hv⟩ := h'
  exact ⟨is ++ js, walk_append_iff.mpr ⟨x, hu, hv⟩⟩

theorem Walk.lt_length {d : Diagram} {is : List Nat} {u v : Slot} (h : d.Walk u is v) :
    ∀ i ∈ is, i < d.relationships.length := by
  induction h with
  | nil => simp
  | cons hi _ ih =>
    intro j hj
    rcases List.mem_cons.mp hj with rfl | hj
    · exact hi.lt_length
    · exact ih j hj

/-- A walk that comes back to a relationship can be cut short there: it either goes on behind that
relationship, or goes over it in the way it did the second time. -/
theorem Walk.exists_nodup {d : Diagram} {is : List Nat} {u v : Slot} (h : d.Walk u is v) :
    ∃ js : List Nat, js.Nodup ∧ d.Walk u js v := by
  induction h with
  | nil v => exact ⟨[], List.nodup_nil, .nil v⟩
  | @cons i is u x v hi _ ih =>
    obtain ⟨js, hjs, hw⟩ := ih
    by_cases hmem : i ∈ js
    · obtain ⟨before, behind, rfl⟩ := List.append_of_mem hmem
      obtain ⟨y, -, hy⟩ := walk_append_iff.mp hw
      have hnodup : (i :: behind).Nodup := hjs.of_append_right
      cases hy with
      | @cons _ _ _ z _ hyz hz =>
        rcases hi.eq_or_swap hyz with ⟨rfl, -⟩ | ⟨rfl, -⟩
        · exact ⟨i :: behind, hnodup, .cons hyz hz⟩
        · exact ⟨behind, hnodup.of_cons, hz⟩
    · exact ⟨i :: js, List.nodup_cons.mpr ⟨hmem, hjs⟩, .cons hi hw⟩

theorem Connected.exists_short {d : Diagram} {u v : Slot} (h : d.Connected u v) :
    ∃ is : List Nat, is.length ≤ d.relationships.length ∧ d.Walk u is v := by
  obtain ⟨is, hw⟩ := h
  obtain ⟨js, hjs, hw⟩ := hw.exists_nodup
  have hsub : js ⊆ List.range d.relationships.length :=
    fun i hi => List.mem_range.mpr (hw.lt_length i hi)
  exact ⟨js, by simpa using (List.subperm_of_subset hjs hsub).length_le, hw⟩

/-- `Precedes`, without the relationships before position `k`. -/
def PrecedesFrom (d : Diagram) (k : Nat) (u v : Slot) : Prop :=
  ∃ is : List Nat, is.Pairwise (· < ·) ∧ (∀ i ∈ is, k ≤ i) ∧ d.Walk u is v

theorem precedesFrom_zero {d : Diagram} {u v : Slot} : d.PrecedesFrom 0 u v ↔ d.Precedes u v := by
  simp [PrecedesFrom, Precedes]

theorem precedesFrom_end {d : Diagram} {k : Nat} (hk : d.relationships.length ≤ k) {u v : Slot} :
    d.PrecedesFrom k u v ↔ u = v := by
  constructor
  · rintro ⟨is, -, hle, hw⟩
    cases hw with
    | nil => rfl
    | @cons i _ _ _ _ hi _ =>
      have := hi.lt_length
      have := hle i (by simp)
      omega
  · rintro rfl
    exact ⟨[], .nil, by simp, .nil u⟩

/-- A walk whose positions ascend from `k` begins with that position or leaves it out. -/
theorem precedesFrom_step {d : Diagram} {k : Nat} {u v : Slot} :
    d.PrecedesFrom k u v ↔ ∃ x, (u = x ∨ d.Joins k u x) ∧ d.PrecedesFrom (k + 1) x v := by
  constructor
  · rintro ⟨is, hlt, hle, hw⟩
    cases hw with
    | nil => exact ⟨u, .inl rfl, [], .nil, by simp, .nil u⟩
    | @cons i is _ x _ hi hw =>
      have hhead := List.pairwise_cons.mp hlt
      have hki := hle i (by simp)
      rcases Nat.eq_or_lt_of_le hki with rfl | hki
      · exact ⟨x, .inr hi, is, hhead.2, hhead.1, hw⟩
      · refine ⟨u, .inl rfl, i :: is, hlt, fun j hj => ?_, .cons hi hw⟩
        rcases List.mem_cons.mp hj with rfl | hj
        · exact hki
        · exact hki.trans (hhead.1 j hj)
  · rintro ⟨x, rfl | hx, is, hlt, hle, hw⟩
    · exact ⟨is, hlt, fun i hi => Nat.le_of_succ_le (hle i hi), hw⟩
    · refine ⟨k :: is, List.pairwise_cons.mpr ⟨hle, hlt⟩, fun i hi => ?_, .cons hx hw⟩
      rcases List.mem_cons.mp hi with rfl | hi
      · exact le_rfl
      · exact Nat.le_of_succ_le (hle i hi)

theorem along_drop_step {d : Diagram} {k : Nat} (hk : k < d.relationships.length) {u v : Slot} :
    Along ((d.relationships.drop k).filterMap d.link?) u v ↔
      ∃ x, (u = x ∨ d.Joins k u x) ∧
        Along ((d.relationships.drop (k + 1)).filterMap d.link?) x v := by
  have hr : d.relationships[k]? = some d.relationships[k] := List.getElem?_eq_getElem hk
  rw [List.drop_eq_getElem_cons hk, List.filterMap_cons]
  cases hl : d.link? d.relationships[k] with
  | none =>
    have hnone (x : Slot) : ¬ d.Joins k u x := by
      rw [joins_iff]
      rintro ⟨r, l, hr', hl', -⟩
      obtain rfl : _ = r := Option.some.inj (hr.symm.trans hr')
      simp [hl] at hl'
    simp only [hnone, or_false, exists_eq_left']
  | some l =>
    have hsome (x : Slot) : d.Joins k u x ↔ l.Joins u x := by
      rw [joins_iff]
      constructor
      · rintro ⟨r, m, hr', hm, h⟩
        obtain rfl : _ = r := Option.some.inj (hr.symm.trans hr')
        obtain rfl : l = m := Option.some.inj (hl.symm.trans hm)
        exact h
      · intro h
        exact ⟨_, l, hr, hl, h⟩
    simp only [Along, Link.Hop, hsome]

theorem along_drop_iff {d : Diagram} {k : Nat} {u v : Slot} :
    Along ((d.relationships.drop k).filterMap d.link?) u v ↔ d.PrecedesFrom k u v := by
  -- by induction on how many relationships are left behind position k
  obtain ⟨n, hn⟩ : ∃ n, d.relationships.length ≤ k + n := ⟨d.relationships.length, by omega⟩
  induction n generalizing k u with
  | zero =>
    have hk : d.relationships.length ≤ k := hn
    rw [List.drop_eq_nil_of_le hk, precedesFrom_end hk]
    rfl
  | succ n ih =>
    by_cases hk : k < d.relationships.length
    · rw [along_drop_step hk, precedesFrom_step]
      refine exists_congr fun x => and_congr_right fun _ => ih (by omega)
    · rw [List.drop_eq_nil_of_le (not_lt.mp hk), precedesFrom_end (not_lt.mp hk)]
      rfl

/-- A pass goes along the walks whose positions ascend. -/
theorem along_links_iff {d : Diagram} {u v : Slot} : Along d.links u v ↔ d.Precedes u v := by
  rw [← precedesFrom_zero, ← along_drop_iff, List.drop_zero, links]

end Diagram

end SchemaScript
