import SchemaScript.Proofs.Widening.Passes

/-! What widening does and what it leaves alone. One pass or many, a widening is a sequence of rewrites,
each of which gives one end of a link the heavier type of the other and leaves one record. So a widening
changes nothing but types, and the type of a field only if an end of a relationship leads to it: whatever
stands in the shadow of another table or field with the same identifier stays as it is. -/

namespace SchemaScript.Diagram

/-- Rewriting types one after the other, each time that of the lighter end of a link, leads from one
diagram to another and leaves these records. -/
inductive Rewrites : Diagram → List TypeChange → Diagram → Prop
  | refl (d : Diagram) : Rewrites d [] d
  | step {d e : Diagram} {l : Link} {s u : Slot} {cs : List TypeChange} :
      l ∈ d.links → l.Joins u s → typeWeight (d.typeAt s) < typeWeight (d.typeAt u) →
        Rewrites (d.setType s (d.typeAt u)) cs e → Rewrites d (d.change l s (d.typeAt u) :: cs) e

theorem Rewrites.trans {d e f : Diagram} {cs ds : List TypeChange} (h : Rewrites d cs e)
    (h' : Rewrites e ds f) : Rewrites d (cs ++ ds) f := by
  induction h with
  | refl => exact h'
  | step hl hjoins hlt _ ih => exact .step hl hjoins hlt (ih h')

theorem rewrites_follow {d : Diagram} {l : Link} (hl : l ∈ d.links) :
    Rewrites d (d.change? l).toList (d.follow l) := by
  unfold change? follow
  cases h : d.widening? l with
  | none => exact .refl d
  | some p =>
    obtain ⟨s, type⟩ := p
    obtain ⟨u, hjoins, hlt, rfl⟩ := widening?_eq_some_iff.mp h
    exact .step hl hjoins hlt (.refl _)

theorem rewrites_widenAlong {d : Diagram} {ls : List Link} (h : ∀ l ∈ ls, l ∈ d.links) :
    Rewrites d (d.widenAlong ls).changes (d.widenAlong ls).diagram := by
  induction ls generalizing d with
  | nil => exact .refl d
  | cons l ls ih =>
    have hrest : ∀ m ∈ ls, m ∈ (d.follow l).links := by
      intro m hm
      rw [links_congr (untyped_follow d l)]
      exact h m (by simp [hm])
    rw [widenAlong_cons]
    exact (rewrites_follow (h l (by simp))).trans (ih hrest)

theorem rewrites_widenRepeatedly (d : Diagram) (limit : Nat) :
    Rewrites d (d.widenRepeatedly d.links limit).changes
      (d.widenRepeatedly d.links limit).diagram := by
  induction limit generalizing d with
  | zero => exact .refl d
  | succ limit ih =>
    by_cases h : d.Settled d.links
    · rw [widenRepeatedly_of_settled h]
      exact .refl d
    · have hlinks : (d.widenAlong d.links).diagram.links = d.links :=
        links_congr (untyped_widenAlong ..)
      have hrest := ih (d.widenAlong d.links).diagram
      rw [hlinks] at hrest
      rw [widenRepeatedly_of_not_settled h]
      exact (rewrites_widenAlong fun _ hl => hl).trans hrest

theorem rewrites_widen (d : Diagram) (untilStable : Bool) :
    Rewrites d (d.widen untilStable).changes (d.widen untilStable).diagram := by
  cases untilStable with
  | false => exact rewrites_widenAlong fun _ hl => hl
  | true => exact rewrites_widenRepeatedly d _

/-- Both ends of the relationship resolve, and one of them leads to this slot. -/
def EndsAt (d : Diagram) (r : Relationship) (s : Slot) : Prop :=
  ∃ u v, d.Resolves r.source u ∧ d.Resolves r.target v ∧ (s = u ∨ s = v)

/-- Some relationship ends at this slot. -/
def Linked (d : Diagram) (s : Slot) : Prop := ∃ r ∈ d.relationships, d.EndsAt r s

theorem exists_endsAt {d : Diagram} {l : Link} {s u : Slot} (hl : l ∈ d.links)
    (hjoins : l.Joins u s) : ∃ r ∈ d.relationships, r.name = l.relationship ∧ d.EndsAt r s := by
  obtain ⟨r, hr, hlink⟩ := List.mem_filterMap.mp hl
  obtain ⟨hname, hsource, htarget⟩ := link?_eq_some_iff.mp hlink
  refine ⟨r, hr, hname, _, _, hsource, htarget, ?_⟩
  rcases hjoins with ⟨-, rfl⟩ | ⟨rfl, -⟩
  · exact .inr rfl
  · exact .inl rfl

theorem Linked.exists_resolves {d : Diagram} {s : Slot} (h : d.Linked s) : ∃ r, d.Resolves r s := by
  obtain ⟨r, -, u, v, hu, hv, rfl | rfl⟩ := h
  · exact ⟨r.source, hu⟩
  · exact ⟨r.target, hv⟩

theorem endsAt_congr {d d' : Diagram} (h : d.untyped = d'.untyped) (r : Relationship) (s : Slot) :
    d.EndsAt r s ↔ d'.EndsAt r s := by
  simp only [EndsAt, ← slot?_eq_some_iff, slot?_congr h]

theorem linked_congr {d d' : Diagram} (h : d.untyped = d'.untyped) (s : Slot) :
    d.Linked s ↔ d'.Linked s := by
  simp only [Linked, endsAt_congr h, relationships_congr h]

/-- Only linked fields are rewritten. -/
theorem Rewrites.fieldAt?_eq {d e : Diagram} {cs : List TypeChange} (h : Rewrites d cs e) {v : Slot}
    (hv : ¬ d.Linked v) : e.fieldAt? v = d.fieldAt? v := by
  induction h with
  | refl => rfl
  | @step d _ l s u _ hl hjoins _ _ ih =>
    have hvs : v ≠ s := by
      rintro rfl
      obtain ⟨r, hr, -, hends⟩ := exists_endsAt hl hjoins
      exact hv ⟨r, hr, hends⟩
    rw [ih (mt (linked_congr (untyped_setType ..) v).mp hv), fieldAt?_setType, if_neg hvs]

/-- No end of a relationship leads into a table if a later one has its identifier. -/
theorem not_linked_of_later_table {d : Diagram} {i j : Nat} {t u : Table}
    (ht : d.tables[i]? = some t) (hu : d.tables[j]? = some u) (hij : i < j) (hid : u.id = t.id)
    (k : Nat) : ¬ d.Linked ⟨i, k⟩ := by
  intro h
  obtain ⟨r, hr⟩ := h.exists_resolves
  obtain ⟨t', ht', hid'⟩ := hr.table
  obtain rfl : t = t' := Option.some.inj (ht.symm.trans ht')
  exact hr.last j u hij hu (hid.trans hid')

/-- No end of a relationship leads to a field if an earlier one of its table has its identifier. -/
theorem not_linked_of_earlier_field {d : Diagram} {i j k : Nat} {f g : Field}
    (hf : d.fieldAt? ⟨i, j⟩ = some f) (hg : d.fieldAt? ⟨i, k⟩ = some g) (hjk : j < k)
    (hid : f.id = g.id) : ¬ d.Linked ⟨i, k⟩ := by
  intro h
  obtain ⟨r, hr⟩ := h.exists_resolves
  obtain ⟨g', hg', hid'⟩ := hr.field
  obtain rfl : g = g' := Option.some.inj (hg.symm.trans hg')
  exact hr.first j f hjk hf (hid.trans hid')

/-- A table is the same as before if all its fields are and the diagram is but for types. -/
theorem getElem?_tables_eq {d e : Diagram} (h : e.untyped = d.untyped) {i : Nat}
    (hi : ∀ j, e.fieldAt? ⟨i, j⟩ = d.fieldAt? ⟨i, j⟩) : e.tables[i]? = d.tables[i]? := by
  have huntyped : (e.tables[i]?).map Table.untyped = (d.tables[i]?).map Table.untyped := by
    have := congrArg (fun x : Diagram => x.tables[i]?) h
    simpa [untyped] using this
  cases ht : d.tables[i]? with
  | none => simpa [ht] using huntyped
  | some t =>
    obtain ⟨u, hu, hut⟩ : ∃ u, e.tables[i]? = some u ∧ u.untyped = t.untyped := by
      simpa [ht] using huntyped
    have hfields : u.fields = t.fields := by
      apply List.ext_getElem?
      intro j
      rw [← fieldAt?_eq hu, ← fieldAt?_eq ht, hi j]
    rw [hu]
    obtain ⟨id, name, isView, fields, indexes⟩ := u
    obtain ⟨id', name', isView', fields', indexes'⟩ := t
    simp only [Table.untyped, Table.mk.injEq] at hut hfields ⊢
    simp [hut, hfields]

/-- Widening changes types and nothing else, and no type but that of a field to which an end of a
relationship leads, the other end resolving too. Tables that a later one shadows, and fields that an
earlier one shadows, stay as they are. -/
theorem widen_changes_linked_types_only (d : Diagram) (untilStable : Bool) :
    let e := (d.widen untilStable).diagram
    e.untyped = d.untyped ∧
      (∀ s, e.fieldAt? s ≠ d.fieldAt? s → d.Linked s) ∧
      (∀ (i j : Nat) (t u : Table), d.tables[i]? = some t → d.tables[j]? = some u → i < j →
        u.id = t.id → e.tables[i]? = some t) ∧
      ∀ (i j k : Nat) (f g : Field), d.fieldAt? ⟨i, j⟩ = some f → d.fieldAt? ⟨i, k⟩ = some g →
        j < k → f.id = g.id → e.fieldAt? ⟨i, k⟩ = some g := by
  have huntyped := untyped_widen d untilStable
  have hframe {s : Slot} (h : ¬ d.Linked s) := (rewrites_widen d untilStable).fieldAt?_eq h
  refine ⟨huntyped, ?_, ?_, ?_⟩
  · intro s hs
    by_contra h
    exact hs (hframe h)
  · intro i j t u ht hu hij hid
    rw [← ht]
    exact getElem?_tables_eq huntyped fun k => hframe (not_linked_of_later_table ht hu hij hid k)
  · intro i j k f g hf hg hjk hid
    rw [← hg]
    exact hframe (not_linked_of_earlier_field hf hg hjk hid)

/-- Two tables with one identifier, the second of them with two fields of one identifier, and a
relationship with a field that is heavier than all of these. -/
def twins : Diagram where
  id := none
  name := none
  dialect := none
  tables :=
    [⟨"a", "former", false, [⟨"x", "owner", "tinyint", none, none, none, false, none, false⟩], []⟩,
      ⟨"a", "orders", false,
        [⟨"x", "owner", "smallint", none, none, none, false, none, false⟩,
          ⟨"x", "again", "integer", some 4, none, none, true, none, false⟩], []⟩,
      ⟨"b", "users", false, [⟨"y", "id", "bigint", none, none, none, false, none, true⟩], []⟩]
  relationships := [⟨none, "owner", ⟨"a", "x"⟩, ⟨"b", "y"⟩⟩]

/-- Of the three fields that a reference could mean one takes over the heavier type. -/
theorem twins_widen_shadowed_unchanged :
    (twins.widen true).diagram.typeAt ⟨1, 0⟩ = "bigint" ∧
      (twins.widen true).diagram.tables[0]? = twins.tables[0]? ∧
      (twins.widen true).diagram.fieldAt? ⟨1, 1⟩ = twins.fieldAt? ⟨1, 1⟩ := by
  obtain ⟨-, -, htables, hfields⟩ := widen_changes_linked_types_only twins true
  refine ⟨by decide +kernel, ?_, ?_⟩
  · exact htables 0 1 _ _ rfl rfl (by decide) rfl
  · exact hfields 1 0 1 _ _ rfl rfl (by decide) rfl

end SchemaScript.Diagram
