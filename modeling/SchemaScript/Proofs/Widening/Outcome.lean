import SchemaScript.Proofs.Widening.Passes

/-! The types that widening leaves. One pass gives every field a heaviest of the types that reach it over
relationships that stand one after the other; passes repeated until one changes nothing give it a
heaviest type of its whole component. Both are said of every slot: one that no relationship leads to is
a component of its own. -/

namespace SchemaScript.Diagram

theorem spreads_widenOnce (d : Diagram) :
    Spreads d.Precedes d.typeAt d.widenOnce.diagram.typeAt := by
  have h := spreads_widenAlong fun l (hl : l ∈ d.links) => holds_of_mem_links hl
  have hreach : Along d.links = d.Precedes := by
    funext u v
    exact propext along_links_iff
  rwa [hreach] at h

theorem Settled.eq_of_connected {d d' : Diagram} (h : d'.Settled d.links) {u v : Slot}
    (huv : d.Connected u v) : typeWeight (d'.typeAt u) = typeWeight (d'.typeAt v) := by
  obtain ⟨is, hw⟩ := huv
  induction hw with
  | nil => rfl
  | cons hi _ ih =>
    obtain ⟨l, hl, ⟨rfl, rfl⟩ | ⟨rfl, rfl⟩⟩ := hi.exists_link
    · exact (h l hl).trans ih
    · exact (h l hl).symm.trans ih

theorem spreads_widenUntilStable (d : Diagram) :
    Spreads d.Connected d.typeAt d.widenUntilStable.diagram.typeAt := by
  obtain ⟨n, hn, hs⟩ := exists_afterPasses_of_settled (settled_widenUntilStable d)
  have hspread := spreads_afterPasses d n
  rw [← hn] at hspread
  refine ⟨fun v => ⟨[], .nil v⟩, fun u v huv => ?_, fun v => ?_, hspread.keeps⟩
  · calc typeWeight (d.typeAt u)
        ≤ typeWeight (d.widenUntilStable.diagram.typeAt u) := hspread.covers u u (hspread.stays u)
      _ = typeWeight (d.widenUntilStable.diagram.typeAt v) := hs.eq_of_connected huv
  · obtain ⟨u, hu, huv⟩ := hspread.origin v
    exact ⟨u, connected_of_rounds hu, huv⟩

/-- One pass: a field takes a heaviest of the types that a walk over ever later relationships brings to
it. What only a walk with an earlier one behind a later one would bring does not arrive. -/
theorem widen_once_takesHeaviest (d : Diagram) (v : Slot) :
    TakesHeaviest {u | d.Precedes u v} d.typeAt (d.widen false).diagram.typeAt v :=
  (spreads_widenOnce d).takesHeaviest v

/-- Until stable: a field takes a heaviest type of its component, and a type that weighs nothing never
takes the place of another. -/
theorem widen_untilStable_takesHeaviest (d : Diagram) (v : Slot) :
    TakesHeaviest {u | d.Connected u v} d.typeAt (d.widen true).diagram.typeAt v ∧
      ((d.widen true).diagram.typeAt v ≠ d.typeAt v →
        0 < typeWeight ((d.widen true).diagram.typeAt v)) := by
  have hspread := spreads_widenUntilStable d
  refine ⟨hspread.takesHeaviest v, fun hne => Nat.pos_of_ne_zero fun hzero => hne ?_⟩
  exact hspread.keeps v (hzero.trans_le (Nat.zero_le _))

end SchemaScript.Diagram
