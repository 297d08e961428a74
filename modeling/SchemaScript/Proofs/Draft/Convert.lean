import SchemaScript.Draft.Convert
import SchemaScript.Proofs.Diagram.RoundTrip
import SchemaScript.Proofs.Draft.Access

/-! The draft of a diagram as JSON. It is the JSON of the diagram, so the draft is saved as the diagram is,
and loading what was saved gives the same draft again. -/

namespace SchemaScript

open Draft (text int flag list ofOption toJsonAt)

namespace Draft

theorem toItems_map {p : Place} {g : α → Draft} {j : α → Json} (h : ∀ a, toJsonAt p (g a) = j a)
    (as : List α) : toItems p (as.map g) = as.map j := by
  induction as with
  | nil => rfl
  | cons a as ih => rw [List.map_cons, toItems, h, ih, List.map_cons]

theorem toJsonAt_ofOption {p : Place} {g : α → Draft} {j : α → Json} (h : ∀ a, toJsonAt p (g a) = j a)
    (o : Option α) : toJsonAt p (ofOption g o) = .ofOption j o := by
  cases o with
  | none => rfl
  | some a => exact h a

end Draft

theorem Field.toJsonAt_draft (f : Field) : toJsonAt (.part .field) f.draft = f.toJson := by
  have hread : toJsonAt (.part .field) f.draft = .object
      [("id", .string f.id), ("name", .string f.name), ("type", .string f.type),
        ("characterMaximumLength", toJsonAt .anything (ofOption int f.length)),
        ("precision", toJsonAt .anything (ofOption int f.precision)),
        ("scale", toJsonAt .anything (ofOption int f.scale)), ("nullable", .bool f.nullable),
        ("default", toJsonAt .anything (ofOption text f.default)), ("primaryKey", .bool f.primaryKey)] := rfl
  rw [hread]
  simp only [Draft.toJsonAt_ofOption fun _ => rfl]
  rfl

theorem Index.toJsonAt_draft (i : Index) : toJsonAt (.part .index) i.draft = i.toJson := by
  have hread : toJsonAt (.part .index) i.draft = .object
      [("id", toJsonAt .anything (ofOption text i.id)), ("name", .string i.name),
        ("unique", .bool i.unique),
        ("fieldIds", .array (Draft.toItems .anything (i.fieldIds.map text)))] := rfl
  rw [hread, Draft.toJsonAt_ofOption fun _ => rfl, Draft.toItems_map fun _ => rfl]
  rfl

theorem Table.toJsonAt_draft (t : Table) : toJsonAt (.part .table) t.draft = t.toJson := by
  have hread : toJsonAt (.part .table) t.draft = .object
      [("id", .string t.id), ("name", .string t.name), ("isView", .bool t.isView),
        ("fields", .array (Draft.toItems (.part .field) (t.fields.map Field.draft))),
        ("indexes", .array (Draft.toItems (.part .index) (t.indexes.map Index.draft)))] := rfl
  rw [hread, Draft.toItems_map Field.toJsonAt_draft, Draft.toItems_map Index.toJsonAt_draft]
  rfl

theorem Relationship.toJsonAt_draft (r : Relationship) :
    toJsonAt (.part .relationship) r.draft = r.toJson := by
  have hread : toJsonAt (.part .relationship) r.draft = .object
      [("id", toJsonAt .anything (ofOption text r.id)), ("name", .string r.name),
        ("sourceTableId", .string r.source.table), ("sourceFieldId", .string r.source.field),
        ("targetTableId", .string r.target.table), ("targetFieldId", .string r.target.field)] := rfl
  rw [hread, Draft.toJsonAt_ofOption fun _ => rfl]
  rfl

namespace Diagram

variable (d : Diagram)

/-- The draft of a diagram is saved as the diagram is. -/
theorem toJson_draft : d.draft.toJson = d.toJson := by
  have hread : d.draft.toJson = .object
      [("id", toJsonAt .anything (ofOption text d.id)), ("name", toJsonAt .anything (ofOption text d.name)),
        ("databaseType", toJsonAt .anything (ofOption Draft.dialect d.dialect)),
        ("tables", .array (Draft.toItems (.part .table) (d.tables.map Table.draft))),
        ("relationships", .array
          (Draft.toItems (.part .relationship) (d.relationships.map Relationship.draft)))] := rfl
  rw [hread, Draft.toItems_map Table.toJsonAt_draft, Draft.toItems_map Relationship.toJsonAt_draft]
  simp only [Draft.toJsonAt_ofOption fun _ => rfl]
  rfl

/-- Loading what was saved gives the same draft, as long as no number has too many digits. -/
theorem reloaded_draft (h : d.DigitsWithin textLimits.digits) : d.draft.reloaded = .accepted d.draft := by
  have hblank : Text.Blank [] := by simp [Text.Blank]
  have hload := ofText_surrounded h hblank hblank
  rw [List.nil_append, List.append_nil, String.ofList_toList] at hload
  unfold Draft.reloaded
  rw [toJson_draft]
  exact congrArg (Diagram.draft <$> ·) hload

end Diagram

/-! The draft of a diagram equals itself -/

namespace Draft

theorem same_int (i : Int) : same (int i) (int i) := by
  have h : ((Sum.inl i : Int ⊕ Binary64) == .inl i) = true := beq_self_eq_true i
  simp [same, number?, h]

theorem same_flag (b : Bool) : same (flag b) (flag b) := by cases b <;> decide

theorem same_dialect (d : Dialect) : same (dialect d) (dialect d) := by simp [same, number?, text?]

theorem same_ofOption {g : α → Draft} (h : ∀ a, same (g a) (g a)) (o : Option α) :
    same (ofOption g o) (ofOption g o) := by
  cases o with
  | none => simp [ofOption, same]
  | some a => exact h a

theorem same_list_map {g : α → Draft} (h : ∀ a, same (g a) (g a)) (as : List α) :
    same (list (as.map g)) (list (as.map g)) := by
  rw [same]
  induction as with
  | nil => rfl
  | cons a as ih => simp [sameItems, h, ih]

theorem lookup_of_mem {members : List (String × β)} (hnames : (members.map (·.1)).Nodup)
    {p : String × β} (hp : p ∈ members) : members.lookup p.1 = some p.2 := by
  induction members with
  | nil => cases hp
  | cons q ms ih =>
    obtain ⟨hq, hms⟩ := List.nodup_cons.mp hnames
    rcases List.mem_cons.mp hp with rfl | hp
    · exact List.lookup_cons_self
    · have hne : (p.1 == q.1) = false :=
        beq_eq_false_iff_ne.mpr fun h => hq (List.mem_map.mpr ⟨p, hp, h⟩)
      rw [List.lookup_cons, hne]
      exact ih hms hp

/-- A record is the same as itself if its members are, each under a name of its own. -/
theorem same_record (m : Model) {members notes : List (String × Draft)}
    (h : members.all fun p => same p.2 p.2) (hnames : (members.map (·.1)).Nodup) :
    same (record m members notes) (record m members notes) := by
  have hall (as : List (String × Draft)) (has : ∀ p ∈ as, p ∈ members) : sameMembers as members := by
    induction as with
    | nil => rfl
    | cons p as ih =>
      have hp := lookup_of_mem hnames (has p List.mem_cons_self)
      have hsame := List.all_eq_true.mp h p (has p List.mem_cons_self)
      have hrest := ih fun q hq => has q (List.mem_cons_of_mem _ hq)
      simpa [sameMembers, hp] using ⟨hsame, hrest⟩
  simp [same, hall members fun _ hp => hp]

end Draft

theorem Field.same_draft (f : Field) : f.draft.same f.draft :=
  Draft.same_record _ (by simp [Draft.same_ofOption, Draft.same_int, Draft.same_flag]) (by simp)

theorem Index.same_draft (i : Index) : i.draft.same i.draft :=
  Draft.same_record _ (by simp [Draft.same_ofOption, Draft.same_flag, Draft.texts,
    Draft.same_list_map]) (by simp)

theorem Table.same_draft (t : Table) : t.draft.same t.draft :=
  Draft.same_record _ (by simp [Draft.same_flag, Draft.same_list_map Field.same_draft,
    Draft.same_list_map Index.same_draft]) (by simp)

theorem Relationship.same_draft (r : Relationship) : r.draft.same r.draft :=
  Draft.same_record _ (by simp [Draft.same_ofOption]) (by simp)

theorem Diagram.same_draft (d : Diagram) : d.draft.same d.draft :=
  Draft.same_record _ (by simp [Draft.same_ofOption, Draft.same_dialect,
    Draft.same_list_map Table.same_draft, Draft.same_list_map Relationship.same_draft]) (by simp)

end SchemaScript
