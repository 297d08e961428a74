import SchemaScript.Proofs.Script.Exported
import SchemaScript.Proofs.Widening.Outcome
import SchemaScript.Proofs.Widening.Settling

/-! Widening a diagram that was widened before. Once a diagram is settled, widening finds nothing to do,
and exporting it again gives the same script. Until stable, a diagram is always settled afterwards. After
one pass it is settled if and only if some heaviest field of each component comes to each field of it by
relationships that stand one after the other; otherwise the second pass goes on where the first one has
left off. -/

namespace SchemaScript.Diagram

theorem widen_of_settled {d : Diagram} (h : d.Settled d.links) (untilStable : Bool) :
    d.widen untilStable = ⟨d, [], 1, true⟩ := by
  cases untilStable with
  | false => exact widenAlong_of_settled h
  | true => exact widenRepeatedly_of_settled h _

theorem changes_widen_eq_nil_iff {d : Diagram} :
    (d.widen false).changes = [] ↔ d.Settled d.links := changes_widenAlong_eq_nil_iff

/-- A pass that leaves all types as they are has found all links settled, for it brings the weight of one
end of a link to the other. -/
theorem settled_of_widen_eq {d : Diagram} (h : (d.widen false).diagram = d) : d.Settled d.links := by
  have hspread := spreads_widenAlong fun l (hl : l ∈ d.links) => holds_of_mem_links hl
  have hpass : (d.widenAlong d.links).diagram = d := h
  rw [hpass] at hspread
  intro l hl
  exact le_antisymm (hspread.covers _ _ (along_of_joins hl (.inl ⟨rfl, rfl⟩)))
    (hspread.covers _ _ (along_of_joins hl (.inr ⟨rfl, rfl⟩)))

theorem diagram_widen_eq_iff {d : Diagram} :
    (d.widen false).diagram = d ↔ d.Settled d.links := by
  refine ⟨settled_of_widen_eq, fun h => ?_⟩
  rw [widen_of_settled h]

/-- The weight of some heaviest field of its component comes to each field in one pass. -/
def SettlesInOnePass (d : Diagram) : Prop :=
  ∀ v, ∃ u, d.Precedes u v ∧ ∀ x, d.Connected x v → typeWeight (d.typeAt x) ≤ typeWeight (d.typeAt u)

theorem Precedes.connected {d : Diagram} {u v : Slot} (h : d.Precedes u v) : d.Connected u v := by
  obtain ⟨is, -, hw⟩ := h
  exact ⟨is, hw⟩

theorem settlesInOnePass_of_settled {d : Diagram} (h : (d.widen false).diagram.Settled d.links) :
    d.SettlesInOnePass := by
  have hspread := spreads_widenOnce d
  intro v
  obtain ⟨u, hu, huv⟩ := hspread.origin v
  refine ⟨u, hu, fun x hx => ?_⟩
  calc typeWeight (d.typeAt x)
      ≤ typeWeight (d.widenOnce.diagram.typeAt x) := hspread.covers x x (hspread.stays x)
    _ = typeWeight (d.widenOnce.diagram.typeAt v) := h.eq_of_connected hx
    _ = typeWeight (d.typeAt u) := by rw [huv]

theorem SettlesInOnePass.settled {d : Diagram} (h : d.SettlesInOnePass) :
    (d.widen false).diagram.Settled d.links := by
  have hspread := spreads_widenOnce d
  have hle {i : Nat} {u v : Slot} (hjoins : d.Joins i u v) :
      typeWeight (d.widenOnce.diagram.typeAt u) ≤ typeWeight (d.widenOnce.diagram.typeAt v) := by
    -- the type in u came from some x of the component, and none of them is heavier than what came to v
    obtain ⟨x, hx, hux⟩ := hspread.origin u
    obtain ⟨y, hy, hheaviest⟩ := h v
    have hxv : d.Connected x v := hx.connected.trans ⟨[i], .cons hjoins (.nil v)⟩
    calc typeWeight (d.widenOnce.diagram.typeAt u)
        = typeWeight (d.typeAt x) := by rw [hux]
      _ ≤ typeWeight (d.typeAt y) := hheaviest x hxv
      _ ≤ typeWeight (d.widenOnce.diagram.typeAt v) := hspread.covers y v hy
  intro l hl
  obtain ⟨i, hi⟩ := joins_of_mem_links hl
  exact le_antisymm (hle hi) (hle hi.symm)

/-- One pass settles just these diagrams. -/
theorem settled_widen_once_iff {d : Diagram} :
    (d.widen false).diagram.Settled (d.widen false).diagram.links ↔ d.SettlesInOnePass := by
  rw [links_congr (untyped_widen d false)]
  exact ⟨settlesInOnePass_of_settled, SettlesInOnePass.settled⟩

theorem settled_widen_untilStable (d : Diagram) :
    (d.widen true).diagram.Settled (d.widen true).diagram.links := by
  rw [links_congr (untyped_widen d true)]
  exact settled_widen d

/-- Exporting a diagram that an export has left settled gives the same script again. -/
theorem sql_exportScript_again {d : Diagram} {untilStable : Bool}
    (h : (d.widen untilStable).diagram.Settled (d.widen untilStable).diagram.links)
    (untilStable' : Bool) :
    ((d.exportScript true untilStable).diagram.exportScript true untilStable').sql =
      (d.exportScript true untilStable).sql := by
  obtain ⟨hdiagram, hsql⟩ := d.exportScript_widens untilStable
  rw [hdiagram, hsql, (exportScript_widens _ untilStable').2, widen_of_settled h]

/-- A second pass finds nothing to do, and changes no type, if and only if the first one has brought to
every field the weight of its component; then exporting twice gives one script. Until stable, whatever
comes after finds nothing to do. -/
theorem widen_again_idle_iff (d : Diagram) :
    let once := (d.widen false).diagram
    let stable := (d.widen true).diagram
    ((once.widen false).changes = [] ↔ d.SettlesInOnePass) ∧
      ((once.widen false).diagram = once ↔ d.SettlesInOnePass) ∧
      (d.SettlesInOnePass →
        ((d.exportScript true false).diagram.exportScript true false).sql =
          (d.exportScript true false).sql) ∧
      ∀ untilStable, (stable.widen untilStable).changes = [] ∧
        (stable.widen untilStable).diagram = stable ∧
        ((d.exportScript true true).diagram.exportScript true untilStable).sql =
          (d.exportScript true true).sql := by
  intro once stable
  have hstable := settled_widen_untilStable d
  refine ⟨changes_widen_eq_nil_iff.trans settled_widen_once_iff,
    diagram_widen_eq_iff.trans settled_widen_once_iff, ?_, ?_⟩
  · intro h
    exact sql_exportScript_again (settled_widen_once_iff.mpr h) false
  · intro untilStable
    have hidle : stable.widen untilStable = ⟨stable, [], 1, true⟩ := widen_of_settled hstable _
    exact ⟨by rw [hidle], by rw [hidle], sql_exportScript_again hstable untilStable⟩

/-- The heaviest type of this row stands last, and the first pass brings it one field nearer to the first
one only. The second pass changes a type and gives another script. -/
theorem risingRow_widen_again_changes :
    let once := (risingRow.widen false).diagram
    (once.widen false).changes = [⟨"t", "a", "integer", "bigint", "ab"⟩] ∧
      (once.widen false).diagram ≠ once ∧
      ((risingRow.exportScript true false).diagram.exportScript true false).sql ≠
        (risingRow.exportScript true false).sql := by
  decide +kernel

-- The other way round the heaviest type comes first, and one pass is enough.
example : let turned := { risingRow with relationships := risingRow.relationships.reverse }
    ((turned.widen false).diagram.widen false).changes = [] := by
  decide +kernel

end SchemaScript.Diagram
