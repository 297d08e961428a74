import SchemaScript.Proofs.Script.Lines

/-! The report of an export. It comes last, once there is a script, and tells how many tables and how many
foreign keys the script has, the foreign keys as counted in the finished text. While no word of the diagram holds the end of a
line, both numbers are those of the statements, and they can be told from the diagram before it is
widened, for what resolves does not depend on types. -/

namespace SchemaScript

open Text (OneLine)

namespace Script

theorem filterMap_createdTable?_statements (s : Script) :
    s.statements.filterMap (·.createdTable?) = s.blocks.map fun b => (b.table, b.columns) := by
  rw [statements_eq, List.filterMap_append, List.filterMap_flatMap]
  simp [Block.statements, Statement.createdTable?, List.filterMap_map, ← List.map_eq_flatMap]

theorem filterMap_addedKey?_statements (s : Script) :
    s.statements.filterMap (·.addedKey?) = s.foreignKeys := by
  rw [statements_eq, List.filterMap_append, List.filterMap_flatMap]
  simp [Block.statements, Statement.addedKey?, List.filterMap_map]

theorem countP_createdTable?_statements (s : Script) :
    s.statements.countP (·.createdTable?.isSome) = s.blocks.length := by
  rw [← List.length_filterMap_eq_countP, filterMap_createdTable?_statements, List.length_map]

theorem countP_addedKey?_statements (s : Script) :
    s.statements.countP (·.addedKey?.isSome) = s.foreignKeys.length := by
  rw [← List.length_filterMap_eq_countP, filterMap_addedKey?_statements]

end Script

/-- The entry tells what came of a script. -/
def Entry.isSummary (x : Entry) : Bool := x.origin == Journal.script && x.level == .info

namespace Diagram

theorem baseTable?_untyped (d : Diagram) (id : String) :
    d.untyped.baseTable? id = (d.baseTable? id).map Table.untyped := by
  rw [baseTable?, untyped, List.find?_map]
  rfl

theorem field?_untyped (t : Table) (id : String) :
    t.untyped.field? id = (t.field? id).map Field.untyped := by
  rw [Table.field?, Table.untyped, List.find?_map]
  rfl

theorem foreignKey?_untyped (d : Diagram) (r : Relationship) :
    d.untyped.foreignKey? r = d.foreignKey? r := by
  simp only [foreignKey?, baseTable?_untyped]
  cases d.baseTable? r.source.table with
  | none => rfl
  | some s =>
    cases d.baseTable? r.target.table with
    | none => rfl
    | some t =>
      simp only [Option.map_some, Option.bind_eq_bind, Option.bind_some, field?_untyped]
      cases s.field? r.source.field with
      | none => rfl
      | some f => cases t.field? r.target.field <;> rfl

theorem foreignKey?_congr {d d' : Diagram} (h : d.untyped = d'.untyped) :
    d.foreignKey? = d'.foreignKey? := by
  funext r
  rw [← foreignKey?_untyped, h, foreignKey?_untyped]

theorem length_baseTables_congr {d d' : Diagram} (h : d.untyped = d'.untyped) :
    d.baseTables.length = d'.baseTables.length := by
  have hlength (e : Diagram) : e.untyped.baseTables.length = e.baseTables.length := by
    rw [baseTables, untyped, List.filter_map, List.length_map]
    rfl
  rw [← hlength d, h, hlength d']

theorem origin_of_mem_journal {w : Widened} : ∀ x ∈ w.journal, x.origin = Journal.widening := by
  intro x hx
  simp only [Widened.journal, List.mem_append, List.mem_map] at hx
  rcases hx with (⟨c, -, rfl⟩ | hx) | hx
  · rfl
  · split at hx
    · cases hx
    · obtain rfl := List.mem_singleton.mp hx
      rfl
  · unfold wideningJournal at hx
    split at hx
    · cases hx
    · obtain rfl := List.mem_singleton.mp hx
      rfl

/-- An export reports of its widening first, if there is one, and then of the script of a diagram that has
the same words and differs in its types only. -/
theorem exportScript_eq_ofWidened {d : Diagram} (htables : d.tables ≠ [])
    (widenTypes untilStable : Bool) :
    ∃ e before, d.exportScript widenTypes untilStable = .ofWidened e before ∧
      e.untyped = d.untyped ∧ e.words ⊆ d.words ∧ ∀ x ∈ before, x.origin = Journal.widening := by
  have hempty : d.tables.isEmpty = false := by simpa using htables
  unfold exportScript
  cases widenTypes with
  | false => exact ⟨d, [], by simp [hempty], rfl, List.Subset.refl _, by simp⟩
  | true =>
    exact ⟨(d.widen untilStable).diagram, (d.widen untilStable).journal, by simp [hempty],
      untyped_widen d untilStable, d.words_widen_subset untilStable, origin_of_mem_journal⟩

/-- Behind all else, one entry sums up the script, if there is one. -/
theorem filter_journal_ofWidened (e : Diagram) {before : List Entry}
    (h : ∀ x ∈ before, x.origin = Journal.widening) :
    (Exported.ofWidened e before).journal.filter Entry.isSummary = e.exportJournal := by
  have hbefore : before.filter Entry.isSummary = [] := by
    rw [List.filter_eq_nil_iff]
    intro x hx
    have horigin : (Journal.widening == Journal.script) = false := by decide
    simp [Entry.isSummary, h x hx, horigin]
  have hskipped : e.scriptJournal.filter Entry.isSummary = [] := by
    unfold scriptJournal Script.skippedJournal
    split
    · split
      · rfl
      · split <;> rfl
    · rfl
  have hexported : e.exportJournal.filter Entry.isSummary = e.exportJournal := by
    unfold exportJournal
    split
    · rfl
    · rfl
  rw [Exported.ofWidened, List.filter_append, List.filter_append, hbefore, hskipped, hexported]
  rfl

/-- While no word of it holds the end of a line, an export that gives a script reports as many tables and
foreign keys as it has statements that create tables and add foreign keys: those of its tables that are
no views, and of its relationships that give a foreign key. One that gives none reports neither. -/
theorem exportScript_reports_statements {d : Diagram} (htables : d.tables ≠ [])
    (hwords : ∀ w ∈ d.words, OneLine w) (widenTypes untilStable : Bool) :
    let e := d.exportScript widenTypes untilStable
    let tables := e.diagram.script.statements.countP (·.createdTable?.isSome)
    let keys := e.diagram.script.statements.countP (·.addedKey?.isSome)
    e.sql = String.join <$> e.diagram.script.parts.mapM Script.renderPart ∧
      (∀ sql, e.sql = .ok sql → e.journal.filter Entry.isSummary =
        [.note .info Journal.script
          ("Exported " ++ toString tables ++ " tables and " ++ toString keys ++ " foreign keys")]) ∧
      (∀ f, e.sql = .error f → e.journal.filter Entry.isSummary = []) ∧
      tables = d.tables.countP (!·.isView) ∧
      keys = d.relationships.countP fun r => (d.foreignKey? r).isSome := by
  obtain ⟨e, before, hexport, huntyped, hsubset, hbefore⟩ :=
    exportScript_eq_ofWidened htables widenTypes untilStable
  have hlines : foreignKeyLines e.script.text = e.script.foreignKeys.length :=
    Script.foreignKeyLines_text fun w hw => hwords w (hsubset (e.words_script_subset hw))
  have hcreated : e.script.statements.countP (·.createdTable?.isSome) = e.baseTables.length := by
    rw [Script.countP_createdTable?_statements, script, List.length_map]
  have hadded := Script.countP_addedKey?_statements e.script
  have htableCount : e.baseTables.length = d.tables.countP (!·.isView) := by
    rw [length_baseTables_congr huntyped, baseTables, List.countP_eq_length_filter]
  have hkeyCount : e.script.foreignKeys.length =
      d.relationships.countP fun r => (d.foreignKey? r).isSome := by
    rw [script, List.length_filterMap_eq_countP, relationships_congr huntyped,
      foreignKey?_congr huntyped]
  have hreport := filter_journal_ofWidened e hbefore
  rw [hexport]
  refine ⟨Script.render_eq_join_parts e.script, fun sql hsql => ?_, fun f hf => ?_,
    hcreated.trans htableCount, hadded.trans hkeyCount⟩
  · have hsql : e.sql = .ok sql := hsql
    rw [hreport, exportJournal, hsql]
    show [Script.exportedEntry e.baseTables.length sql] = _
    rw [(sql_eq_ok_iff.mp hsql).2, ← hcreated]
    unfold Script.exportedEntry
    rw [hlines, ← hadded]
    rfl
  · have hf : e.sql = .error f := hf
    rw [hreport, exportJournal, hf]

/-- Words that begin as foreign keys do, a table without columns, a view, and relationships of which one
resolves for the script. -/
def mimicking : Diagram where
  id := none
  name := none
  dialect := none
  tables :=
    [⟨"a", "ALTER TABLE b", false,
        [⟨"x", "ALTER TABLE ", "smallint", none, none, none, false, some "ALTER TABLE c", false⟩],
        [⟨none, "ALTER TABLE i", true, ["x"]⟩]⟩,
      ⟨"v", "ALTER TABLE v", true, [⟨"x", "x", "bigint", none, none, none, true, none, false⟩], []⟩,
      ⟨"e", "e", false, [], []⟩]
  relationships :=
    [⟨none, "ALTER TABLE r", ⟨"a", "x"⟩, ⟨"a", "x"⟩⟩, ⟨none, "s", ⟨"a", "x"⟩, ⟨"v", "x"⟩⟩]

theorem mimicking_reports_statements :
    (mimicking.tables ≠ [] ∧ ∀ w ∈ mimicking.words, OneLine w) ∧
      (mimicking.exportScript true true).journal.filter Entry.isSummary =
        [.note .info Journal.script "Exported 2 tables and 1 foreign keys"] := by
  have htables : mimicking.tables ≠ [] := by decide
  have hwords : ∀ w ∈ mimicking.words, OneLine w := by decide
  obtain ⟨-, hreport, -, htwo, hone⟩ := exportScript_reports_statements htables hwords true true
  have hbase : mimicking.tables.countP (!·.isView) = 2 := by decide
  have hkey : (mimicking.relationships.countP fun r => (mimicking.foreignKey? r).isSome) = 1 := by
    decide
  obtain ⟨sql, hsql⟩ : ∃ sql, (mimicking.exportScript true true).sql = .ok sql :=
    exists_sql_iff.mpr (by decide +kernel)
  rw [htwo, hone, hbase, hkey] at hreport
  exact ⟨⟨htables, hwords⟩, hreport sql hsql⟩

end Diagram

end SchemaScript
