import SchemaScript.Proofs.Widening.Passes

/-! Widening until stable is widening in single passes until one changes nothing: the same diagram, the
same changes, the same number of passes. It comes to that before its limit, so it is never cut off and
never warns. -/

namespace SchemaScript.Diagram

/-- Widening in single passes until one changes nothing takes so many passes, makes these changes, and
leads to this diagram. -/
inductive SinglePasses : Diagram → Nat → List TypeChange → Diagram → Prop
  | last {d : Diagram} : (d.widen false).changes = [] → SinglePasses d 1 [] (d.widen false).diagram
  | more {d d' : Diagram} {n : Nat} {cs : List TypeChange} :
      (d.widen false).changes ≠ [] → SinglePasses (d.widen false).diagram n cs d' →
        SinglePasses d (n + 1) ((d.widen false).changes ++ cs) d'

theorem SinglePasses.unique {d d₁ d₂ : Diagram} {n₁ n₂ : Nat} {cs₁ cs₂ : List TypeChange}
    (h₁ : SinglePasses d n₁ cs₁ d₁) (h₂ : SinglePasses d n₂ cs₂ d₂) :
    n₁ = n₂ ∧ cs₁ = cs₂ ∧ d₁ = d₂ := by
  induction h₁ generalizing n₂ cs₂ with
  | last hnil =>
    cases h₂ with
    | last => exact ⟨rfl, rfl, rfl⟩
    | more hne => exact absurd hnil hne
  | more hne _ ih =>
    cases h₂ with
    | last hnil => exact absurd hnil hne
    | more _ h =>
      obtain ⟨rfl, rfl, rfl⟩ := ih h
      exact ⟨rfl, rfl, rfl⟩

theorem singlePasses_widenRepeatedly {d : Diagram} {limit : Nat}
    (h : (d.widenRepeatedly d.links limit).settled = true) :
    SinglePasses d (d.widenRepeatedly d.links limit).passes
      (d.widenRepeatedly d.links limit).changes (d.widenRepeatedly d.links limit).diagram := by
  induction limit generalizing d with
  | zero => simp [widenRepeatedly] at h
  | succ limit ih =>
    by_cases hd : d.Settled d.links
    · have hpass : d.widen false = ⟨d, [], 1, true⟩ := widenAlong_of_settled hd
      have hlast := SinglePasses.last (d := d) (by rw [hpass])
      rw [widenRepeatedly_of_settled hd]
      rwa [hpass] at hlast
    · rw [widenRepeatedly_of_not_settled hd] at h ⊢
      have hlinks : (d.widen false).diagram.links = d.links := links_congr (untyped_widenAlong ..)
      refine .more (mt changes_widenAlong_eq_nil_iff.mp hd) ?_
      have hrest := @ih (d.widen false).diagram
      rw [hlinks] at hrest
      exact hrest h

theorem level_of_mem_journal {w : Widened} (h : w.settled = true) :
    ∀ e ∈ w.journal, e.level ≠ .warning := by
  intro e he
  simp only [Widened.journal, h, if_true, List.append_nil, List.mem_append, List.mem_map,
    wideningJournal] at he
  rcases he with ⟨c, -, rfl⟩ | he
  · simp [TypeChange.entry, Entry.note]
  · split at he
    · simp at he
    · obtain rfl := List.mem_singleton.mp he
      simp [Entry.note]

/-- The limit never matters: at most as many passes are made as it allows, the last of them changes
nothing, and all together do what single passes do. -/
theorem widen_untilStable_eq_singlePasses (d : Diagram) :
    let w := d.widen true
    w.settled = true ∧ w.passes ≤ d.relationships.length + 1 ∧
      (∀ e ∈ w.journal, e.level ≠ .warning) ∧
      ∀ n cs d', SinglePasses d n cs d' ↔ n = w.passes ∧ cs = w.changes ∧ d' = w.diagram := by
  have hs := settled_widenUntilStable d
  have hrun : SinglePasses d d.widenUntilStable.passes d.widenUntilStable.changes
      d.widenUntilStable.diagram := singlePasses_widenRepeatedly hs
  refine ⟨hs, passes_widenRepeatedly_le .., level_of_mem_journal hs, fun n cs d' => ?_⟩
  constructor
  · intro h
    exact h.unique hrun
  · rintro ⟨rfl, rfl, rfl⟩
    exact hrun

/-- Three fields in a row, the heaviest last: each pass brings its type one field nearer to the first,
so this diagram takes as many passes as the limit allows. -/
def risingRow : Diagram where
  id := none
  name := none
  dialect := none
  tables :=
    [⟨"t", "t", false, [⟨"a", "a", "tinyint", none, none, none, false, none, false⟩,
      ⟨"b", "b", "integer", none, none, none, false, none, false⟩,
      ⟨"c", "c", "bigint", none, none, none, false, none, false⟩], []⟩]
  relationships :=
    [⟨none, "ab", ⟨"t", "a"⟩, ⟨"t", "b"⟩⟩, ⟨none, "bc", ⟨"t", "b"⟩, ⟨"t", "c"⟩⟩]

example : (risingRow.widen true).passes = risingRow.relationships.length + 1 := by decide +kernel

end SchemaScript.Diagram
