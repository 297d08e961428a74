import SchemaScript.Consistency.Check

/-! The families of issues. A check reports repeated identifiers first, then what is wrong with indexes,
then what is wrong with relationships. Each of the three parts has issues of one family only, so picking
the issues of a family out of the report gives a part of it as it stands. -/

namespace SchemaScript

namespace Issue

inductive Family where
  | repeats | indexes | relationships
  deriving DecidableEq

def family : Issue → Family
  | duplicateTable .. | duplicateField .. => .repeats
  | emptyIndex .. | missingIndexFields .. => .indexes
  | missingTable .. | viewReferenced .. | missingField .. => .relationships

end Issue

theorem Table.family_of_indexIssue? {t : Table} {x : Index} {i : Issue}
    (h : t.indexIssue? x = some i) : i.family = .indexes := by
  simp only [indexIssue?] at h
  split at h
  · obtain rfl := Option.some.inj h
    rfl
  · split at h
    · cases h
    · obtain rfl := Option.some.inj h
      rfl

namespace Diagram

variable {d : Diagram} {i : Issue}

theorem family_of_mem_endIssues {relationship : String} {side : Side} {r : FieldRef}
    (h : i ∈ d.endIssues relationship side r) : i.family = .relationships := by
  unfold endIssues at h
  cases ht : d.table? r.table with
  | none =>
    obtain rfl : i = .missingTable relationship side r.table := by simpa [ht] using h
    rfl
  | some t =>
    simp only [ht, List.mem_append] at h
    rcases h with h | h
    · obtain ⟨-, rfl⟩ : t.isView = true ∧ i = .viewReferenced relationship side t.name := by
        simpa using h
      rfl
    · obtain ⟨-, rfl⟩ : t.field? r.field = none ∧
          i = .missingField relationship side t.name r.field := by
        simpa using h
      rfl

/-- The part of the report for a family. -/
def issuesOf (d : Diagram) : Issue.Family → List Issue
  | .repeats => d.duplicateIssues
  | .indexes => d.indexIssues
  | .relationships => d.relationships.flatMap d.relationshipIssues

theorem family_of_mem_issuesOf {k : Issue.Family} (h : i ∈ d.issuesOf k) : i.family = k := by
  cases k with
  | repeats =>
    simp only [issuesOf, duplicateIssues, Table.duplicateFields, List.mem_append, List.mem_map,
      List.mem_flatMap] at h
    obtain ⟨_, _, rfl⟩ | ⟨_, _, _, _, rfl⟩ := h <;> rfl
  | indexes =>
    obtain ⟨t, -, h⟩ := List.mem_flatMap.mp h
    obtain ⟨x, -, h⟩ := List.mem_filterMap.mp h
    exact Table.family_of_indexIssue? h
  | relationships =>
    obtain ⟨r, -, h⟩ := List.mem_flatMap.mp h
    rcases List.mem_append.mp h with h | h
    · exact family_of_mem_endIssues h
    · exact family_of_mem_endIssues h

/-- Issues of one family are all in its part of the report. -/
theorem filter_issues {p : Issue → Bool} {k : Issue.Family} (h : ∀ i, p i = true → i.family = k)
    (d : Diagram) : d.issues.filter p = (d.issuesOf k).filter p := by
  have hother (l : Issue.Family) (hl : l ≠ k) : (d.issuesOf l).filter p = [] := by
    rw [List.filter_eq_nil_iff]
    intro i hi hp
    exact hl ((family_of_mem_issuesOf hi).symm.trans (h i hp))
  have hparts : d.issues.filter p = (d.issuesOf .repeats).filter p ++
      (d.issuesOf .indexes).filter p ++ (d.issuesOf .relationships).filter p := by
    rw [← List.filter_append, ← List.filter_append]
    rfl
  cases k with
  | repeats => rw [hparts, hother .indexes (by decide), hother .relationships (by decide)]; simp
  | indexes => rw [hparts, hother .repeats (by decide), hother .relationships (by decide)]; simp
  | relationships => rw [hparts, hother .repeats (by decide), hother .indexes (by decide)]; simp

theorem filter_issues_of_family {p : Issue → Bool} {k : Issue.Family}
    (h : ∀ i, p i = true ↔ i.family = k) (d : Diagram) : d.issues.filter p = d.issuesOf k := by
  rw [filter_issues (fun i => (h i).mp), List.filter_eq_self]
  intro i hi
  exact (h i).mpr (family_of_mem_issuesOf hi)

end Diagram

end SchemaScript
