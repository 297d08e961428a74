import SchemaScript.Proofs.Consistency.Families
import SchemaScript.Proofs.Script.JoinedColumns

/-! Which relationships the script leaves out, and which the check reports. Checking takes the first
table or view with an identifier, the script the first that is no view. Both agree on an identifier
unless a view carries it and a table behind that view carries it as well: then the relationship is
reported, but its foreign key may be written all the same. -/

namespace SchemaScript

namespace Issue

/-- The codes of issues about relationships have a prefix of their own. -/
def isOfRelationship (i : Issue) : Bool := "REL_".toList.isPrefixOf i.code.toList

theorem isOfRelationship_iff (i : Issue) : i.isOfRelationship = true ↔ i.family = .relationships := by
  cases i <;> simp only [isOfRelationship, code, family] <;> decide

end Issue

namespace Diagram

/-- The first to carry the identifier is a view, and behind it a table carries it too. -/
def ShadowedByView (d : Diagram) (id : String) : Prop :=
  ∃ before v between t after, d.tables = before ++ v :: between ++ t :: after ∧
    (∀ u ∈ before, u.id ≠ id) ∧ (v.id = id ∧ v.isView = true) ∧ t.id = id ∧ t.isView = false

theorem not_shadowedByView {d : Diagram} (hid : (d.tables.map (·.id)).Nodup) (id : String) :
    ¬ d.ShadowedByView id := by
  rintro ⟨before, v, between, t, after, htables, -, ⟨hv, -⟩, ht, -⟩
  rw [htables, List.map_append] at hid
  have hdisjoint := (List.nodup_append.mp hid).2.2 id
  exact hdisjoint (by simp [hv]) id (by simp [ht]) rfl

theorem ShadowedByView.table?_isView {d : Diagram} {id : String} (h : d.ShadowedByView id) :
    ∃ v, d.table? id = some v ∧ v.isView = true := by
  obtain ⟨before, v, between, t, after, htables, hbefore, ⟨hvid, hview⟩, -⟩ := h
  refine ⟨v, List.find?_eq_some_iff_append.mpr
    ⟨by simpa using hvid, before, between ++ t :: after, by simpa using htables, ?_⟩, hview⟩
  intro u hu
  simpa using hbefore u hu

theorem baseTable?_of_table? {d : Diagram} {id : String} {t : Table} (h : d.table? id = some t)
    (hview : t.isView = false) : d.baseTable? id = some t := by
  obtain ⟨hid, before, after, htables, hbefore⟩ := List.find?_eq_some_iff_append.mp h
  refine List.find?_eq_some_iff_append.mpr ⟨by simp [hview, hid], before, after, htables, ?_⟩
  intro u hu
  simpa using Or.inl (by simpa using hbefore u hu)

theorem table?_of_baseTable? {d : Diagram} {id : String} {t : Table} (h : d.baseTable? id = some t)
    (hshadow : ¬ d.ShadowedByView id) : d.table? id = some t := by
  obtain ⟨ht, before, after, htables, hbefore⟩ := List.find?_eq_some_iff_append.mp h
  obtain ⟨htid, hview⟩ : t.id = id ∧ t.isView = false := by simpa using ht
  refine List.find?_eq_some_iff_append.mpr ⟨by simp [htid], before, after, htables, ?_⟩
  by_contra hfirst
  -- what comes before the table and carries its identifier can only be views; take the first of them
  obtain ⟨v, hv⟩ : ∃ v, before.find? (·.id == id) = some v := by
    rw [← Option.isSome_iff_exists, List.find?_isSome]
    simpa using hfirst
  obtain ⟨hvid, front, between, rfl, hfront⟩ := List.find?_eq_some_iff_append.mp hv
  have hvview : v.isView = true := by
    have := hbefore v (by simp)
    simp_all
  exact hshadow ⟨front, v, between, t, after, htables, fun u hu => by simpa using hfront u hu,
    ⟨by simpa using hvid, hvview⟩, htid, hview⟩

theorem endIssues_eq_nil_iff {d : Diagram} {name : String} {side : Side} {r : FieldRef} :
    d.endIssues name side r = [] ↔
      ∃ t f, d.table? r.table = some t ∧ t.isView = false ∧ t.field? r.field = some f := by
  unfold endIssues
  cases d.table? r.table with
  | none => simp
  | some t => cases hf : t.field? r.field <;> simp [hf]

/-- An end that is not reported leads to a column. -/
theorem exists_emits_of_endIssues {d : Diagram} {name : String} {side : Side} {r : FieldRef}
    (h : d.endIssues name side r = []) : ∃ t f, d.Emits r t f := by
  obtain ⟨t, f, ht, hview, hf⟩ := endIssues_eq_nil_iff.mp h
  exact ⟨t, f, .of_lookup (baseTable?_of_table? ht hview) hf⟩

theorem not_shadowedByView_of_endIssues {d : Diagram} {name : String} {side : Side} {r : FieldRef}
    (h : d.endIssues name side r = []) : ¬ d.ShadowedByView r.table := by
  intro hshadow
  obtain ⟨v, hv, hview⟩ := hshadow.table?_isView
  obtain ⟨t, f, ht, hnoview, -⟩ := endIssues_eq_nil_iff.mp h
  obtain rfl : v = t := Option.some.inj (hv.symm.trans ht)
  simp [hview] at hnoview

theorem Emits.endIssues_eq_nil {d : Diagram} {r : FieldRef} {t : Table} {f : Field}
    (h : d.Emits r t f) (hshadow : ¬ d.ShadowedByView r.table) (name : String) (side : Side) :
    d.endIssues name side r = [] := by
  have hview := List.find?_some h.table
  simp only [Bool.and_eq_true, Bool.not_eq_true'] at hview
  exact endIssues_eq_nil_iff.mpr ⟨t, f, table?_of_baseTable? h.table hshadow, hview.2, h.field⟩

theorem exists_foreignKey?_of_relationshipIssues {d : Diagram} {r : Relationship}
    (h : d.relationshipIssues r = []) : ∃ k, d.foreignKey? r = some k := by
  obtain ⟨hsource, htarget⟩ := List.append_eq_nil_iff.mp h
  obtain ⟨s, f, hs⟩ := exists_emits_of_endIssues hsource
  obtain ⟨t, g, ht⟩ := exists_emits_of_endIssues htarget
  exact ⟨_, foreignKey?_eq_some_iff.mpr ⟨s, f, t, g, hs, ht, rfl⟩⟩

/-- A foreign key that is written is reported all the same exactly if an end of it is shadowed. -/
theorem relationshipIssues_eq_nil_iff_of_foreignKey? {d : Diagram} {r : Relationship}
    {k : Script.ForeignKey} (h : d.foreignKey? r = some k) :
    d.relationshipIssues r = [] ↔
      ¬ d.ShadowedByView r.source.table ∧ ¬ d.ShadowedByView r.target.table := by
  constructor
  · intro hnil
    obtain ⟨hsource, htarget⟩ := List.append_eq_nil_iff.mp hnil
    exact ⟨not_shadowedByView_of_endIssues hsource, not_shadowedByView_of_endIssues htarget⟩
  · rintro ⟨hsource, htarget⟩
    obtain ⟨s, f, t, g, hs, ht, -⟩ := foreignKey?_eq_some_iff.mp h
    exact List.append_eq_nil_iff.mpr
      ⟨hs.endIssues_eq_nil hsource _ _, ht.endIssues_eq_nil htarget _ _⟩

-- A view with the identifier of the table behind it: the key is reported and written.
example :
    let r : Relationship := ⟨none, "r", ⟨"t", "f"⟩, ⟨"t", "f"⟩⟩
    let d : Diagram := ⟨none, none, none, [⟨"t", "v", true, [], []⟩,
      ⟨"t", "w", false, [⟨"f", "c", "int", none, none, none, true, none, true⟩], []⟩], [r]⟩
    d.relationshipIssues r ≠ [] ∧ d.foreignKey? r = some ⟨"r", "w", "c", "w", "c"⟩ := by
  decide

/-- The issues about relationships stand at the end, those of each relationship together and in the
order of relationships. -/
theorem filter_isOfRelationship_issues (d : Diagram) :
    d.issues.filter (·.isOfRelationship) = d.relationships.flatMap d.relationshipIssues :=
  filter_issues_of_family Issue.isOfRelationship_iff d

theorem not_isOfRelationship_of_mem_duplicateIssues {d : Diagram} {i : Issue}
    (h : i ∈ d.duplicateIssues) : i.isOfRelationship = false := by
  rw [Bool.eq_false_iff, ne_eq, Issue.isOfRelationship_iff, family_of_mem_issuesOf (k := .repeats) h]
  decide

/-- A relationship without issues has a foreign key, one with issues has none, unless a view stands
before a table with the identifier of an end. So while no two tables share an identifier the reported
relationships are exactly the ones left out. -/
theorem relationshipIssues_report_skipped (d : Diagram) :
    d.issues.filter (·.isOfRelationship) = d.relationships.flatMap d.relationshipIssues ∧
      (∀ r, d.relationshipIssues r = [] → ∃ k, d.foreignKey? r = some k) ∧
      (∀ r, d.relationshipIssues r ≠ [] → ¬ d.ShadowedByView r.source.table →
        ¬ d.ShadowedByView r.target.table → d.foreignKey? r = none) ∧
      ((d.tables.map (·.id)).Nodup →
        ∀ r, d.foreignKey? r = none ↔ d.relationshipIssues r ≠ []) := by
  have hskipped {r : Relationship} (hissues : d.relationshipIssues r ≠ [])
      (hsource : ¬ d.ShadowedByView r.source.table) (htarget : ¬ d.ShadowedByView r.target.table) :
      d.foreignKey? r = none := by
    cases hk : d.foreignKey? r with
    | none => rfl
    | some k =>
      exact absurd ((relationshipIssues_eq_nil_iff_of_foreignKey? hk).mpr ⟨hsource, htarget⟩) hissues
  refine ⟨filter_isOfRelationship_issues d, fun _ => exists_foreignKey?_of_relationshipIssues,
    fun _ => hskipped, fun hid r => ⟨fun hnone hnil => ?_, fun hissues => ?_⟩⟩
  · obtain ⟨k, hk⟩ := exists_foreignKey?_of_relationshipIssues hnil
    simp [hnone] at hk
  · exact hskipped hissues (not_shadowedByView hid _) (not_shadowedByView hid _)

end Diagram

end SchemaScript
