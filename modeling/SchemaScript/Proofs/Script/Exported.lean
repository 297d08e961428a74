import SchemaScript.Proofs.Script.Reader
import SchemaScript.Proofs.Widening.Passes

/-! What an export comes to. It gives the script of the widened diagram, if that has one, and leaves that
diagram, also where a diagram without tables is not widened at all, for there is nothing to widen in it.
The script is empty only if there is nothing but views: a foreign key needs tables, and a table has a
statement of its own. -/

namespace SchemaScript

namespace Script

theorem text_eq_empty_iff {s : Script} : s.text = "" ↔ s.blocks = [] ∧ s.foreignKeys = [] := by
  have hblock (b : Block) : b.text.toList ≠ [] := by
    intro h
    have hhead := head?_blockText b
    simp [h] at hhead
  have hkey (k : ForeignKey) : k.text.toList ≠ [] := by
    intro h
    have hhead := head?_foreignKeyText k
    simp [h] at hhead
  constructor
  · intro h
    have htext := congrArg String.toList h
    rw [toList_scriptText, String.toList_empty, List.append_eq_nil_iff, List.flatMap_eq_nil_iff,
      List.flatMap_eq_nil_iff] at htext
    exact ⟨List.eq_nil_iff_forall_not_mem.mpr fun b hb => hblock b (htext.1 b hb),
      List.eq_nil_iff_forall_not_mem.mpr fun k hk => hkey k (htext.2 k hk)⟩
  · rintro ⟨hblocks, hkeys⟩
    unfold text
    rw [hblocks, hkeys]
    rfl

end Script

namespace Diagram

theorem script_of_no_baseTables {d : Diagram} (h : d.baseTables = []) : d.script = ⟨[], []⟩ := by
  have hbase (id : String) : d.baseTable? id = none := by
    rw [baseTable?, List.find?_eq_none]
    intro t ht
    have hview := List.filter_eq_nil_iff.mp h t ht
    simp_all
  have hk : d.foreignKey? = fun _ => none := by
    funext r
    simp [foreignKey?, hbase]
  simp [script, h, hk]

theorem sql_eq_empty_iff {d : Diagram} : d.sql = .ok "" ↔ d.baseTables = [] := by
  rw [sql_eq_ok_iff, eq_comm, Script.text_eq_empty_iff]
  constructor
  · rintro ⟨-, hblocks, -⟩
    exact List.map_eq_nil_iff.mp hblocks
  · intro h
    rw [script_of_no_baseTables h]
    exact ⟨by decide, rfl, rfl⟩

theorem links_of_no_tables {d : Diagram} (h : d.tables = []) : d.links = [] := by
  have hl : d.link? = fun _ => none := by
    funext r
    simp [link?, slot?, h, lastIdx?]
  simp [links, hl]

theorem diagram_widen_of_no_tables {d : Diagram} (h : d.tables = []) (untilStable : Bool) :
    (d.widen untilStable).diagram = d := by
  have hlinks := links_of_no_tables h
  cases untilStable with
  | false =>
    change (d.widenAlong d.links).diagram = d
    rw [hlinks]
    rfl
  | true =>
    change (d.widenRepeatedly d.links _).diagram = d
    rw [hlinks]
    rfl

/-- An export widens the diagram and gives the script of what that leaves. -/
theorem exportScript_widens (d : Diagram) (untilStable : Bool) :
    (d.exportScript true untilStable).diagram = (d.widen untilStable).diagram ∧
      (d.exportScript true untilStable).sql = (d.widen untilStable).diagram.sql := by
  unfold exportScript
  by_cases h : d.tables = []
  · have hempty : d.sql = .ok "" := sql_eq_empty_iff.mpr (by simp [baseTables, h])
    simp [h, diagram_widen_of_no_tables h, hempty]
  · have he : d.tables.isEmpty = false := by simpa using h
    simp [he, Exported.ofWidened]

/-- Which tables are views does not depend on types. -/
theorem baseTables_eq_nil_congr {d d' : Diagram} (h : d.untyped = d'.untyped) :
    d.baseTables = [] ↔ d'.baseTables = [] := by
  have hviews (e : Diagram) : e.untyped.baseTables = [] ↔ e.baseTables = [] := by
    simp [baseTables, untyped, Table.untyped, List.filter_eq_nil_iff]
  rw [← hviews d, h, hviews d']

/-- An exported script is empty if and only if the diagram has nothing but views. -/
theorem sql_exportScript_eq_empty_iff (d : Diagram) (untilStable : Bool) :
    (d.exportScript true untilStable).sql = .ok "" ↔ ∀ t ∈ d.tables, t.isView = true := by
  rw [(d.exportScript_widens untilStable).2, sql_eq_empty_iff,
    baseTables_eq_nil_congr (untyped_widen d untilStable), baseTables, List.filter_eq_nil_iff]
  simp

end Diagram

end SchemaScript
