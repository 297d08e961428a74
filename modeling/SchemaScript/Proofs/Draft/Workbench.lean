import SchemaScript.Draft.Workbench
import SchemaScript.Proofs.Draft.Check
import SchemaScript.Proofs.Draft.Convert
import SchemaScript.Proofs.Draft.Script
import SchemaScript.Proofs.Draft.Widening
import SchemaScript.Proofs.Keeps
import SchemaScript.Proofs.Widening.Again

/-! What the workbench does with the draft of a diagram. As long as nothing is edited it does what is done
with the diagram itself: it checks, widens and exports with the same results, leaves the draft of the
diagram that is left there, and reports the same. The lemmas follow the program: one field, one
relationship, a pass, repeated passes. -/

namespace SchemaScript

open Draft (text)

def TypeChange.draft (c : TypeChange) : DraftChange :=
  { table := text c.table
    field := text c.field
    oldType := text c.oldType
    newType := text c.newType
    relationship := text c.relationship }

namespace Workbench

/-- The workbench with the draft of a diagram in place of its draft, and more reported. -/
def leaves (b : Workbench) (d : Diagram) (es : List Entry) : Workbench :=
  { b with draft := d.draft, journal := b.journal ++ es }

theorem leaves_leaves (b : Workbench) (d e : Diagram) (es fs : List Entry) :
    (b.leaves d es).leaves e fs = b.leaves e (es ++ fs) := by
  simp [leaves, List.append_assoc]

theorem leaves_of_draft {b : Workbench} {d : Diagram} (h : b.draft = d.draft) : b.leaves d [] = b := by
  simp [leaves, ← h]

/-- The workbench once the changes of a widening are made. -/
def after (b : Workbench) (w : Widened) : Workbench :=
  b.leaves w.diagram (w.changes.map TypeChange.entry)

/-- What making the changes of a widening comes to. -/
def makes (b : Workbench) (w : Widened) : Except DraftError (List DraftChange) × Workbench :=
  (.ok (w.changes.map TypeChange.draft), b.after w)

/-! Single steps -/

variable {b : Workbench} {d e : Diagram} {α : Type}

theorem look_of_ok {f : Draft → Except DraftError α} {a : α} (h : f b.draft = .ok a) :
    look f b = (.ok a, b) := by
  unfold look
  rw [get_bind_apply, h]
  rfl

theorem look_of_error {f : Draft → Except DraftError α} {x : DraftError} (h : f b.draft = .error x) :
    look f b = (.error x, b) := by
  unfold look
  rw [get_bind_apply, h]
  rfl

theorem change_of_ok {f : Draft → Except DraftError Draft} {new : Draft} (h : f b.draft = .ok new) :
    change f b = (.ok (), { b with draft := new }) := by
  unfold change
  rw [bind_of_ok (look_of_ok h)]
  rfl

theorem ofExcept_ok (a : α) :
    (MonadExcept.ofExcept (.ok a : Except DraftError α) : OnBench α) b = (.ok a, b) := rfl

theorem report_apply (es : List Entry) :
    report es b = (.ok (), { b with journal := b.journal ++ es }) := rfl

/-- A new type for a field makes one change. -/
theorem retype_draft (h : b.draft = e.draft) (r : Relationship) (q : FieldRef) {s : Slot} {l : Link}
    (hs : e.Holds s) (hl : l.relationship = r.name) (type : String) :
    retype r.draft (e.draftSlot q s) (text type) b =
      (.ok (e.change l s type).draft, b.leaves (e.setType s type) [(e.change l s type).entry]) := by
  obtain ⟨f, hf⟩ := Option.isSome_iff_exists.mp hs
  have hlook : look (·.follow (e.draftSlot q s).slot.path) b = (.ok f.draft, b) :=
    look_of_ok (h ▸ e.follow_path_draft hf)
  have hchange : change (·.modifyAt (Draft.assign "type" (text type)) (e.draftSlot q s).slot.path) b =
      (.ok (), { b with draft := (e.setType s type).draft }) :=
    change_of_ok (h ▸ e.modifyAt_path_draft hs type)
  have hc : (⟨(e.draftSlot q s).tableName, text f.name, text f.type, text type, text r.name⟩ :
      DraftChange) = (e.change l s type).draft := by
    simp [Diagram.draftSlot, Diagram.change, TypeChange.draft, Diagram.typeAt, hf, hl]
  unfold retype
  rw [bind_of_ok hlook, Field.member_name_draft, bind_of_ok (ofExcept_ok _), Field.member_type_draft,
    bind_of_ok (ofExcept_ok _), Relationship.member_name_draft, bind_of_ok (ofExcept_ok _), hc]
  exact bind_of_ok hchange

/-- Two fields that a relationship joins are widened as the link between them is followed. -/
theorem widenPair_draft (h : b.draft = e.draft) (r : Relationship) {l : Link} (hs : e.Holds l.source)
    (ht : e.Holds l.target) (hl : l.relationship = r.name) (p q : FieldRef) :
    widenPair r.draft (e.draftSlot p l.source) (e.draftSlot q l.target) b =
      b.makes (e.widenAlong [l]) := by
  have htype {s : Slot} (p : FieldRef) (hs : e.Holds s) :
      look (fun d => do (← d.follow (e.draftSlot p s).slot.path).member "type") b =
        (.ok (text (e.typeAt s)), b) := by
    obtain ⟨f, hf⟩ := Option.isSome_iff_exists.mp hs
    apply look_of_ok
    rw [h, show (e.draftSlot p s).slot = s from rfl, e.follow_path_draft hf, Except.ok_bind,
      Field.member_type_draft, Diagram.typeAt, hf]
    rfl
  have hweight (type : String) : (MonadExcept.ofExcept (text type).weight : OnBench Nat) b =
      (.ok (typeWeight type), b) := rfl
  unfold widenPair Diagram.widenAlong Diagram.widening?
  rw [bind_of_ok (htype p hs), bind_of_ok (htype q ht), bind_of_ok (hweight _), bind_of_ok (hweight _)]
  by_cases hts : typeWeight (e.typeAt l.target) < typeWeight (e.typeAt l.source)
  · simp only [if_pos hts]
    exact bind_of_ok (retype_draft h r q ht hl _)
  · by_cases hst : typeWeight (e.typeAt l.source) < typeWeight (e.typeAt l.target)
    · simp only [if_neg hts, if_pos hst]
      exact bind_of_ok (retype_draft h r p hs hl _)
    · simp only [if_neg hts, if_neg hst]
      exact congrArg (Prod.mk _) (leaves_of_draft h).symm

/-- A relationship is followed if both of its ends resolve, and does nothing otherwise. -/
theorem widenAlong_draft (h : b.draft = e.draft) (hu : e.untyped = d.untyped) (r : Relationship) :
    widenAlong d.draftSlots r.draft b = b.makes (e.widenAlong (d.link? r).toList) := by
  unfold widenAlong Diagram.link?
  simp only [Relationship.member_sourceTable_draft, Relationship.member_sourceField_draft,
    Relationship.member_targetTable_draft, Relationship.member_targetField_draft, Except.ok_bind,
    Diagram.slotAt?_draft, Except.pure_eq]
  rw [bind_of_ok (ofExcept_ok _)]
  cases hsource : d.slot? r.source with
  | none => exact congrArg (Prod.mk _) (leaves_of_draft h).symm
  | some s =>
    cases htarget : d.slot? r.target with
    | none => exact congrArg (Prod.mk _) (leaves_of_draft h).symm
    | some t =>
      have hs : e.Holds s :=
        (Diagram.holds_congr hu s).mpr (Diagram.slot?_eq_some_iff.mp hsource).holds
      have ht : e.Holds t :=
        (Diagram.holds_congr hu t).mpr (Diagram.slot?_eq_some_iff.mp htarget).holds
      have hpair := widenPair_draft (l := ⟨r.name, s, t⟩) h r hs ht rfl r.source r.target
      rw [d.draftSlot_congr hu, d.draftSlot_congr hu] at hpair
      exact hpair

theorem after_widenAlong_append (ls ms : List Link) : b.after (e.widenAlong (ls ++ ms)) =
    (b.after (e.widenAlong ls)).after ((e.widenAlong ls).diagram.widenAlong ms) := by
  rw [Diagram.widenAlong_append]
  simp [after, leaves_leaves]

theorem mapM_widenAlong_draft (h : b.draft = e.draft) (hu : e.untyped = d.untyped)
    (rs : List Relationship) :
    ∃ css, (rs.map Relationship.draft).mapM (widenAlong d.draftSlots) b =
        (.ok css, b.after (e.widenAlong (rs.filterMap d.link?))) ∧
      css.flatten = (e.widenAlong (rs.filterMap d.link?)).changes.map TypeChange.draft := by
  induction rs generalizing b e with
  | nil => exact ⟨[], congrArg (Prod.mk _) (leaves_of_draft h).symm, rfl⟩
  | cons r rs ih =>
    have hone := widenAlong_draft h hu r
    obtain ⟨css, hrest, hcss⟩ := ih (b := b.after (e.widenAlong (d.link? r).toList))
      (e := (e.widenAlong (d.link? r).toList).diagram) rfl ((e.untyped_widenAlong _).trans hu)
    have hlinks : (r :: rs).filterMap d.link? = (d.link? r).toList ++ rs.filterMap d.link? := by
      rw [List.filterMap_cons]
      cases d.link? r <;> rfl
    refine ⟨(e.widenAlong (d.link? r).toList).changes.map TypeChange.draft :: css, ?_, ?_⟩
    · rw [List.map_cons, List.mapM_cons, bind_of_ok hone, bind_of_ok hrest, hlinks,
        after_widenAlong_append]
      rfl
    · rw [hlinks, Diagram.widenAlong_append, List.flatten_cons, hcss, List.map_append]

/-- A pass follows the links of the diagram. -/
theorem widenOnce_draft (h : b.draft = e.draft) (hu : e.untyped = d.untyped) :
    widenOnce d.draftSlots b = b.makes (e.widenAlong d.links) := by
  have hlook : look (·.membersOf "relationships") b = (.ok (d.relationships.map Relationship.draft), b) := by
    apply look_of_ok
    rw [h, ← Diagram.relationships_congr hu]
    rfl
  obtain ⟨css, hpass, hcss⟩ := mapM_widenAlong_draft h hu d.relationships
  unfold widenOnce
  rw [bind_of_ok hlook, bind_of_ok hpass, hcss]
  rfl

theorem widenRepeatedly_draft (h : b.draft = e.draft) (hu : e.untyped = d.untyped) (made limit : Nat) :
    widenRepeatedly d.draftSlots made limit b =
      (.ok ((e.widenRepeatedly d.links limit).changes.map TypeChange.draft),
        b.leaves (e.widenRepeatedly d.links limit).diagram
          ((e.widenRepeatedly d.links limit).changes.map TypeChange.entry ++
            if (e.widenRepeatedly d.links limit).settled then []
            else [unsettledEntry (made + (e.widenRepeatedly d.links limit).passes)])) := by
  induction limit generalizing made b e with
  | zero =>
    rw [widenRepeatedly, bind_of_ok (report_apply _), h]
    rfl
  | succ limit ih =>
    have hpass := widenOnce_draft h hu
    rw [widenRepeatedly, bind_of_ok hpass, List.isEmpty_map]
    by_cases hempty : (e.widenAlong d.links).changes.isEmpty
    · have hsettled := Diagram.changes_widenAlong_eq_nil_iff.mp (List.isEmpty_iff.mp hempty)
      rw [if_pos hempty, Diagram.widenRepeatedly_of_settled hsettled, Diagram.widenAlong_of_settled hsettled]
      rfl
    · have hsettled : ¬ e.Settled d.links :=
        mt Diagram.changes_widenAlong_eq_nil_iff.mpr (mt List.isEmpty_iff.mpr hempty)
      have hrest := ih (b := b.after (e.widenAlong d.links)) (e := (e.widenAlong d.links).diagram) rfl
        ((e.untyped_widenAlong _).trans hu) (made + 1)
      rw [if_neg hempty, bind_of_ok hrest, Diagram.widenRepeatedly_of_not_settled hsettled]
      simp only [after, leaves_leaves, List.map_append, List.append_assoc, Nat.add_assoc, Nat.add_comm 1]
      rfl

theorem report_changes (w : Widened) (es : List Entry) :
    (do
      report (wideningJournal (w.changes.map TypeChange.draft).length)
      return w.changes.map TypeChange.draft : OnBench (List DraftChange)) (b.leaves w.diagram es) =
        (.ok (w.changes.map TypeChange.draft),
          b.leaves w.diagram (es ++ wideningJournal w.changes.length)) := by
  rw [bind_of_ok (report_apply _), List.length_map]
  simp only [leaves, List.append_assoc]
  rfl

theorem links_eq_nil_of_isEmpty (h : (!d.tables.isEmpty && !d.relationships.isEmpty) = false) :
    d.links = [] := by
  cases htables : d.tables.isEmpty with
  | true => exact d.links_of_no_tables (List.isEmpty_iff.mp htables)
  | false =>
    have hrelationships : d.relationships = [] := by simpa [htables] using h
    rw [Diagram.links, hrelationships, List.filterMap_nil]

/-- Widening the draft of a diagram makes the changes of widening the diagram, and reports the same. -/
theorem widen_draft (h : b.draft = d.draft) (untilStable : Bool) :
    widen untilStable b =
      (.ok ((d.widen untilStable).changes.map TypeChange.draft),
        b.leaves (d.widen untilStable).diagram (d.widen untilStable).journal) := by
  have htables : look (·.member "tables") b = (.ok (.list (d.tables.map Table.draft)), b) :=
    look_of_ok (h ▸ d.member_tables_draft)
  have hrelationships : look (·.member "relationships") b =
      (.ok (.list (d.relationships.map Relationship.draft)), b) :=
    look_of_ok (h ▸ d.member_relationships_draft)
  have hslots : look Draft.slots b = (.ok d.draftSlots, b) := look_of_ok (h ▸ d.slots_draft)
  unfold widen
  rw [bind_of_ok htables, bind_of_ok hrelationships, Draft.holds_list_map, Draft.holds_list_map]
  cases hfull : !d.tables.isEmpty && !d.relationships.isEmpty with
  | false =>
    have hsettled : d.Settled d.links := by
      rw [links_eq_nil_of_isEmpty hfull]
      exact fun _ hl => nomatch hl
    rw [Diagram.widen_of_settled hsettled]
    exact congrArg (Prod.mk _) (leaves_of_draft h).symm
  | true =>
    rw [Bool.not_true, if_neg Bool.false_ne_true, bind_of_ok hslots]
    cases untilStable with
    | false =>
      rw [if_neg Bool.false_ne_true, bind_of_ok (widenOnce_draft h rfl)]
      have hsettled : d.widenOnce.settled = true := d.settled_widenAlong d.links
      refine (report_changes d.widenOnce (d.widenOnce.changes.map TypeChange.entry)).trans ?_
      simp [Diagram.widen, Widened.journal, hsettled]
    | true =>
      have hlook : look (·.membersOf "relationships") b =
          (.ok (d.relationships.map Relationship.draft), b) :=
        look_of_ok (h ▸ d.membersOf_relationships_draft)
      rw [if_pos rfl, bind_of_ok hlook, bind_of_ok (widenRepeatedly_draft h rfl 0 _), List.length_map]
      refine (report_changes d.widenUntilStable _).trans ?_
      simp [Diagram.widen, Widened.journal, Diagram.widenUntilStable]

/-- The script of the draft of a diagram is the script of the diagram, and it is missing where that is. -/
theorem render_draft (h : b.draft = d.draft) :
    render b = (d.sql.mapError .number, b.leaves d d.scriptJournal) := by
  have hstatements : b.draft.statements =
      if d.script.Printable then .ok d.pieces else .error (.number .tooManyDigits) := h ▸ d.statements_draft
  unfold render Diagram.scriptJournal
  rw [d.sql_eq]
  by_cases hprintable : d.script.Printable
  · rw [if_pos hprintable] at hstatements
    rw [if_pos hprintable, bind_of_ok (look_of_ok hstatements), bind_of_ok (report_apply _)]
    have hskipped : Script.skippedJournal (d.pieces.countP Option.isNone) =
        if d.tables.isEmpty then [] else Script.skippedJournal d.skipped := by
      cases hempty : d.tables.isEmpty with
      | true => simp [Diagram.pieces, hempty, Script.skippedJournal]
      | false => rw [d.countP_pieces hempty, if_neg Bool.false_ne_true]
    rw [hskipped, h, ← d.join_pieces]
    rfl
  · rw [if_neg hprintable] at hstatements
    rw [if_neg hprintable, bind_of_error (look_of_error hstatements)]
    exact congrArg (Prod.mk _) (leaves_of_draft h).symm

theorem render_and_report (h : b.draft = d.draft) :
    (do
      let sql ← render
      report [Script.exportedEntry (← look Draft.baseTableCount) sql]
      return sql : OnBench String) b =
        (d.sql.mapError .number, b.leaves d (d.scriptJournal ++ d.exportJournal)) := by
  have hrender := render_draft h
  have hcount : look Draft.baseTableCount (b.leaves d d.scriptJournal) =
      (.ok d.baseTables.length, b.leaves d d.scriptJournal) := look_of_ok d.baseTableCount_draft
  unfold Diagram.exportJournal
  cases hsql : d.sql with
  | error e =>
    rw [hsql] at hrender
    rw [bind_of_error hrender, List.append_nil]
    rfl
  | ok sql =>
    rw [hsql] at hrender
    rw [bind_of_ok hrender, bind_of_ok hcount, bind_of_ok (report_apply _), ← leaves_leaves]
    rfl

/-- Exporting the draft of a diagram is exporting the diagram. -/
theorem exportScript_draft (h : b.draft = d.draft) (widenTypes untilStable : Bool) :
    exportScript widenTypes untilStable b =
      ((d.exportScript widenTypes untilStable).sql.mapError .number,
        b.leaves (d.exportScript widenTypes untilStable).diagram
          (d.exportScript widenTypes untilStable).journal) := by
  have htables : look (·.member "tables") b = (.ok (.list (d.tables.map Table.draft)), b) :=
    look_of_ok (h ▸ d.member_tables_draft)
  unfold exportScript Diagram.exportScript
  rw [bind_of_ok htables, Draft.holds_list_map, Bool.not_not]
  by_cases hempty : d.tables.isEmpty
  · rw [if_pos hempty, if_pos hempty]
    exact congrArg (Prod.mk _) (leaves_of_draft h).symm
  · rw [if_neg hempty, if_neg hempty]
    cases widenTypes with
    | false => exact render_and_report h
    | true =>
      have hwiden : discard (widen untilStable) b =
          (.ok (), b.leaves (d.widen untilStable).diagram (d.widen untilStable).journal) :=
        bind_of_ok (f := fun _ => pure ()) (widen_draft h untilStable)
      rw [if_pos rfl, if_pos rfl]
      refine (bind_of_ok hwiden).trans ((render_and_report rfl).trans ?_)
      rw [leaves_leaves, ← List.append_assoc]
      rfl

/-- Checking the draft of a diagram is checking the diagram. -/
theorem check_draft (h : b.draft = d.draft) :
    check b = (.ok (d.issues.map Issue.draft), b.leaves d d.checkJournal) := by
  have hissues : look Draft.issues b = (.ok (d.issues.map Issue.draft), b) :=
    look_of_ok (h ▸ d.issues_draft)
  unfold check
  rw [bind_of_ok hissues, bind_of_ok (report_apply _), List.length_map, h]
  rfl

/-- Saving the draft of a diagram and loading it again changes nothing, as long as no number has too many
digits. -/
theorem reload_draft (h : b.draft = d.draft) (hd : d.DigitsWithin Diagram.textLimits.digits) :
    reload b = (.ok (.accepted true), b) := by
  have hloaded : b.draft.reloaded = .accepted d.draft := by rw [h, d.reloaded_draft hd]
  have hsame : d.draft.same b.draft = true := by rw [h, d.same_draft]
  have hkeep : { b with draft := d.draft } = b := by rw [← h]
  have hmodify : (modify fun b => { b with draft := d.draft } : OnBench Unit) b = (.ok (), b) :=
    congrArg (Prod.mk _) hkeep
  unfold reload
  rw [get_bind_apply, hloaded]
  refine (bind_of_ok hmodify).trans ?_
  rw [hsame]
  rfl

end Workbench

end SchemaScript
