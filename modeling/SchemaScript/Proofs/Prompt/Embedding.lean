import Mathlib.Data.List.Basic
import SchemaScript.Proofs.Prompt.Filling

/-! The script in a prompt. The footer of the catalog has one place for it, and what is put there is not
read again. So a prompt is a text in front of the script, the script as it stands, and a text behind it;
the two texts depend on the dialect only, and the one in front holds all of the file with the instructions
on it. -/

namespace SchemaScript

variable {values : List (String × TemplateValue)} {names : List String} {name : String}

namespace Piece

/-- A piece that stands for a value without conversion and layout. -/
def place (name : String) : Piece := .placeholder ⟨name, none, []⟩

theorem isBare_place (name : String) (names : List String) : (place name).isBare (name :: names) := by
  simp [place, isBare]

theorem isBare_cons {p : Piece} (hp : p.isBare names) : p.isBare (name :: names) := by
  cases p with
  | char c => rfl
  | placeholder p =>
    simp only [isBare, Bool.and_eq_true, List.contains_iff_mem] at hp ⊢
    exact ⟨⟨List.mem_cons_of_mem name hp.1.1, hp.1.2⟩, hp.2⟩
  | fault e => exact hp

theorem textNamed?_append {n : String} (h : (textNamed? values n).isSome)
    (more : List (String × TemplateValue)) :
    textNamed? (values ++ more) n = textNamed? values n := by
  obtain ⟨s, hs⟩ := Option.isSome_iff_exists.mp h
  rw [hs, textNamed?_eq_some_iff, List.lookup_append, textNamed?_eq_some_iff.mp hs]
  rfl

/-- A value that a piece does not name has no part in what the piece becomes. -/
theorem shown_append (hnames : ∀ n ∈ names, (textNamed? values n).isSome)
    (more : List (String × TemplateValue)) {p : Piece} (hp : p.isBare names) :
    p.shown (values ++ more) = p.shown values := by
  cases p with
  | char c => rfl
  | placeholder p =>
    simp only [isBare, Bool.and_eq_true, List.contains_iff_mem] at hp
    rw [shown, shown, textNamed?_append (hnames p.name hp.1.1)]
  | fault e => rfl

theorem flatMap_shown_append (hnames : ∀ n ∈ names, (textNamed? values n).isSome)
    (more : List (String × TemplateValue)) {ps : List Piece} (hps : ps.all (isBare names)) :
    ps.flatMap (shown (values ++ more)) = ps.flatMap (shown values) := by
  apply List.flatMap_congr
  intro p hp
  exact shown_append hnames more (List.all_eq_true.mp hps p hp)

theorem textNamed?_last (hname : values.lookup name = none) (s : String) :
    textNamed? (values ++ [(name, .text s)]) name = some s := by
  simp [textNamed?_eq_some_iff, List.lookup_append, hname]

theorem shown_place (hname : values.lookup name = none) (s : String) :
    (place name).shown (values ++ [(name, .text s)]) = s.toList := by
  simp [place, shown, textNamed?_last hname]

end Piece

namespace Template

/-- A template with a single place for a value; in front of it and behind it only other values are
named. -/
def HasPlace (names : List String) (name template : String) : Prop :=
  ∃ before after, piecesFrom 0 template.toList = before ++ .place name :: after ∧
    before.all (Piece.isBare names) ∧ after.all (Piece.isBare names)

theorem hasPlace_of_dropWhile {template : String}
    (hplace : ((piecesFrom 0 template.toList).dropWhile (Piece.isBare names)).head? =
      some (.place name))
    (hafter : ((piecesFrom 0 template.toList).dropWhile (Piece.isBare names)).tail.all
      (Piece.isBare names)) :
    HasPlace names name template := by
  refine ⟨(piecesFrom 0 template.toList).takeWhile (Piece.isBare names), _, ?_, ?_, hafter⟩
  · rw [← List.eq_cons_of_mem_head? hplace, List.takeWhile_append_dropWhile]
  · apply List.all_eq_true.mpr
    intro p hp
    exact List.mem_takeWhile_imp hp

theorem HasPlace.isBare_pieces {template : String} (h : HasPlace names name template) :
    (piecesFrom 0 template.toList).all (Piece.isBare (name :: names)) := by
  obtain ⟨before, after, hpieces, hbefore, hafter⟩ := h
  rw [hpieces, List.all_eq_true]
  intro p hp
  rcases List.mem_append.mp hp with hp | hp
  · exact Piece.isBare_cons (List.all_eq_true.mp hbefore p hp)
  · rcases List.mem_cons.mp hp with rfl | hp
    · exact Piece.isBare_place name names
    · exact Piece.isBare_cons (List.all_eq_true.mp hafter p hp)

/-- What is put in the place stands there as it is, whatever is in it. -/
theorem HasPlace.exists_fill {template : String} (h : HasPlace names name template)
    (hnames : ∀ n ∈ names, Placeholder.IsWord n ∧ (textNamed? values n).isSome)
    (hword : Placeholder.IsWord name) (hname : values.lookup name = none) :
    ∃ before after : String, ∀ s,
      fill (values ++ [(name, TemplateValue.text s)]) template = .ok (before ++ s ++ after) := by
  have hbare := h.isBare_pieces
  obtain ⟨before, after, hpieces, hbefore, hafter⟩ := h
  refine ⟨String.ofList (before.flatMap (Piece.shown values)),
    String.ofList (after.flatMap (Piece.shown values)), ?_⟩
  intro s
  have hall : ∀ n ∈ name :: names, Placeholder.IsWord n ∧
      (textNamed? (values ++ [(name, TemplateValue.text s)]) n).isSome := by
    intro n hn
    rcases List.mem_cons.mp hn with rfl | hn
    · exact ⟨hword, by rw [Piece.textNamed?_last hname]; rfl⟩
    · obtain ⟨hn, hsome⟩ := hnames n hn
      exact ⟨hn, by rwa [Piece.textNamed?_append hsome]⟩
  have hsome : ∀ n ∈ names, (textNamed? values n).isSome := fun n hn => (hnames n hn).2
  rw [fill_of_isBare _ hall hbare, hpieces, List.flatMap_append, List.flatMap_cons,
    Piece.flatMap_shown_append hsome _ hbefore, Piece.flatMap_shown_append hsome _ hafter,
    Piece.shown_place hname]
  simp [String.ofList_append, String.append_assoc]

end Template

theorem PromptText.hasPlace_footer : Template.HasPlace ["DATABASE_TYPE"] "SQL_SCRIPT" footer := by
  apply Template.hasPlace_of_dropWhile
  all_goals
    unfold footer
    rw [toList_unlines]
    simp only [List.flatMap_cons, List.flatMap_nil, String.toList_append]
    repeat rw [String.toList_ofList]
    decide +kernel

namespace Dialect

/-- The prompt for a dialect holds the script as it stands, between two texts that do not depend on it.
The text in front has the instructions on the dialect; where the catalog has a file of its name, they
are the text of that file, and it has one for every dialect but the generic one. Different scripts have
different prompts. -/
theorem exportPrompt_embeds_script (d : Dialect) :
    (∃ before after instructions : String,
      (∀ sql, d.exportPrompt sql = .ok (before ++ sql ++ after)) ∧
      Catalog.shipped.instructions d = .ok instructions ∧
      (∃ front back, before = front ++ instructions ++ back) ∧
      ∀ text, (d.promptName, text) ∈ Catalog.texts → instructions = text) ∧
    (d ≠ .generic → ∃ text, (d.promptName, text) ∈ Catalog.texts ∧ text ≠ "") ∧
    Function.Injective d.exportPrompt := by
  have hvalue : ∀ n ∈ ["DATABASE_TYPE"],
      Placeholder.IsWord n ∧ (textNamed? [d.dialectValue] n).isSome := by
    simp [isWord_databaseType, dialectValue, textNamed?]
  obtain ⟨before, after, hfooter⟩ := PromptText.hasPlace_footer.exists_fill hvalue
    isWord_sqlScript (by simp [dialectValue])
  have hbase := Template.fill_of_isBare [d.dialectValue] hvalue PromptText.isBare_base
  generalize String.ofList _ = base at hbase
  obtain ⟨instructions, hinstructions⟩ := Catalog.exists_instructions d
  have hprompt (sql : String) : d.exportPrompt sql =
      .ok ((base ++ "\n" ++ instructions ++ ("\n" ++ before)) ++ sql ++ after) := by
    have hsql := hfooter sql
    rw [List.singleton_append] at hsql
    rw [exportPrompt_eq hbase hsql hinstructions]
    simp only [String.append_assoc]
  refine ⟨⟨_, after, instructions, hprompt, hinstructions, ⟨_, _, rfl⟩, fun text htext => ?_⟩,
    Catalog.exists_mem_texts, ?_⟩
  · rw [Catalog.instructions_of_mem_texts htext] at hinstructions
    exact (Except.ok.inj hinstructions).symm
  · intro sql sql' h
    rw [hprompt, hprompt, Except.ok.injEq] at h
    exact (String.append_right_inj _).mp ((String.append_left_inj after).mp h)

end Dialect

end SchemaScript
