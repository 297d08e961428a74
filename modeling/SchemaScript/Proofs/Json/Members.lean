import SchemaScript.Json.Basic
import Mathlib.Data.List.Perm.Basic

/-! Look-ups among the members of an object. A look-up takes the last member with its key. Where the
keys are distinct there is no other, and then the order of the members does not matter. -/

namespace SchemaScript.Json

variable {k k' : String} {v : Json} {ms ms' : List (String × Json)}

def keys (ms : List (String × Json)) : List String := ms.map Prod.fst

@[simp] theorem keys_cons : keys ((k, v) :: ms) = k :: keys ms := rfl

theorem mem_keys_of_mem {m : String × Json} (h : m ∈ ms) : m.1 ∈ keys ms := List.mem_map_of_mem h

theorem keys_perm (h : ms.Perm ms') : (keys ms).Perm (keys ms') := h.map Prod.fst

theorem member?_cons :
    member? k ((k', v) :: ms) = (member? k ms).or (if k = k' then some v else none) := by
  simp only [member?, List.reverse_cons, List.lookup_append]
  congr 1
  by_cases hk : k = k'
  · simp [hk]
  · have hbeq : (k == k') = false := beq_eq_false_iff_ne.mpr hk
    simp [List.lookup_cons, hbeq, hk]

theorem member?_eq_none_iff : member? k ms = none ↔ k ∉ keys ms := by
  induction ms with
  | nil => simp [member?, keys]
  | cons m ms ih =>
    obtain ⟨k', v⟩ := m
    by_cases hk : k = k' <;> simp [member?_cons, hk, ih]

theorem member?_cons_self (h : k ∉ keys ms) : member? k ((k, v) :: ms) = some v := by
  rw [member?_cons, member?_eq_none_iff.mpr h]
  simp

theorem member?_cons_of_ne (h : k ≠ k') : member? k ((k', v) :: ms) = member? k ms := by
  simp [member?_cons, h]

theorem member?_eq_some_iff (h : (keys ms).Nodup) : member? k ms = some v ↔ (k, v) ∈ ms := by
  induction ms with
  | nil => simp [member?]
  | cons m ms ih =>
    obtain ⟨k', v'⟩ := m
    obtain ⟨hfresh, hrest⟩ := List.nodup_cons.mp h
    by_cases hk : k = k'
    · subst hk
      rw [member?_cons_self hfresh]
      constructor
      · intro hv
        cases hv
        exact List.mem_cons_self
      · intro hv
        rcases List.mem_cons.mp hv with hv | hv
        · cases hv
          rfl
        · exact absurd (mem_keys_of_mem hv) hfresh
    · rw [member?_cons_of_ne hk, ih hrest]
      simp [hk]

/-- The order of the members does not matter to a look-up. -/
theorem member?_of_perm (h : (keys ms).Nodup) (hperm : ms.Perm ms') (k : String) :
    member? k ms = member? k ms' := by
  apply Option.ext
  intro v
  rw [member?_eq_some_iff h, member?_eq_some_iff ((keys_perm hperm).nodup_iff.mp h),
    hperm.mem_iff]

/-- No object of the value has two members with one key. -/
inductive DistinctKeys : Json → Prop where
  | null : DistinctKeys .null
  | bool (b : Bool) : DistinctKeys (.bool b)
  | int (i : Int) : DistinctKeys (.int i)
  | float (x : Binary64) : DistinctKeys (.float x)
  | string (s : String) : DistinctKeys (.string s)
  | array {items : List Json} (h : ∀ v ∈ items, DistinctKeys v) : DistinctKeys (.array items)
  | object {members : List (String × Json)} (hkeys : (keys members).Nodup)
      (h : ∀ m ∈ members, DistinctKeys m.2) : DistinctKeys (.object members)

end SchemaScript.Json
