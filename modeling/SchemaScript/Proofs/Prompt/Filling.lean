import Mathlib.Data.List.TakeWhile
import SchemaScript.Prompt.Catalog

/-! Filling a template. A template without faults whose placeholders are bare names of texts at hand is
filled with these texts as they stand, whatever is in them. The prompts of the catalog are such
templates, so there is a request for every dialect and every script. -/

namespace SchemaScript

/-- A name that stands for a value by itself: nothing in it leads on to a member, and it is no position. -/
def Placeholder.IsWord (name : String) : Prop :=
  name.toList ≠ [] ∧ name.toList.all (!endsMember ·) ∧ position? name = .ok none

/-- A piece that is a character or a placeholder with one of these names and nothing else. -/
def Piece.isBare (names : List String) : Piece → Bool
  | .char _ => true
  | .placeholder p => names.contains p.name && p.conversion.isNone && p.layout.isEmpty
  | .fault _ => false

/-- The text that a name stands for, if it stands for one. -/
def textNamed? (values : List (String × TemplateValue)) (name : String) : Option String :=
  match values.lookup name with
  | some (.text s) => some s
  | _ => none

/-- What such a piece becomes. -/
def Piece.shown (values : List (String × TemplateValue)) : Piece → List Char
  | .char c => [c]
  | .placeholder p => ((textNamed? values p.name).map String.toList).getD []
  | .fault _ => []

variable {values : List (String × TemplateValue)}

theorem textNamed?_eq_some_iff {name s : String} :
    textNamed? values name = some s ↔ values.lookup name = some (.text s) := by
  unfold textNamed?
  split
  · next t ht => simp [ht]
  · next hnone => simpa using fun hs => (hnone s hs).elim

namespace Placeholder

theorem followAll_nil (bound : Nat) (v : TemplateValue) : followAll bound [] v = .ok v := by
  cases bound <;> rfl

theorem value_of_isWord {p : Placeholder} {v : TemplateValue} (hp : IsWord p.name)
    (hv : values.lookup p.name = some v) : p.value values = .ok v := by
  obtain ⟨hne, hall, hposition⟩ := hp
  have hfirst : p.name.toList.takeWhile (!endsMember ·) = p.name.toList :=
    List.takeWhile_eq_self_iff.mpr (List.all_eq_true.mp hall)
  have hempty : p.name.toList.isEmpty = false := by simpa using hne
  unfold value
  simp only [hfirst, String.ofList_toList, hposition, hempty, hv, List.drop_length, bind, Except.bind]
  exact followAll_nil _ v

theorem fill_of_isWord {fillLayout : List Char → Except TemplateError (List Char)} {p : Placeholder}
    {s : String} (hp : IsWord p.name) (hconversion : p.conversion = none) (hlayout : p.layout = [])
    (hs : textNamed? values p.name = some s) : p.fill fillLayout values = .ok s.toList := by
  unfold fill
  rw [value_of_isWord hp (textNamed?_eq_some_iff.mp hs), hconversion, hlayout]
  rfl

end Placeholder

namespace Template

theorem fillPieces_of_isBare {names : List String}
    {fillLayout : List Char → Except TemplateError (List Char)}
    (hnames : ∀ name ∈ names, Placeholder.IsWord name ∧ (textNamed? values name).isSome) (ps : List Piece)
    (hps : ps.all (Piece.isBare names)) :
    fillPieces (Placeholder.fill fillLayout values) ps = .ok (ps.flatMap (Piece.shown values)) := by
  induction ps with
  | nil => rfl
  | cons p ps ih =>
    rw [List.all_cons, Bool.and_eq_true] at hps
    have hrest := ih hps.2
    cases p with
    | char c =>
      rw [fillPieces, hrest]
      rfl
    | placeholder p =>
      have hp := hps.1
      simp only [Piece.isBare, Bool.and_eq_true, List.contains_iff_mem, Option.isNone_iff_eq_none,
        List.isEmpty_iff] at hp
      obtain ⟨⟨hname, hconversion⟩, hlayout⟩ := hp
      obtain ⟨hword, hsome⟩ := hnames p.name hname
      obtain ⟨s, hs⟩ := Option.isSome_iff_exists.mp hsome
      rw [fillPieces, Placeholder.fill_of_isWord hword hconversion hlayout hs, hrest,
        List.flatMap_cons, Piece.shown, hs]
      rfl
    | fault e => cases hps.1

theorem fill_of_isBare (values : List (String × TemplateValue)) {names : List String} {template : String}
    (hnames : ∀ name ∈ names, Placeholder.IsWord name ∧ (textNamed? values name).isSome)
    (htemplate : (piecesFrom 0 template.toList).all (Piece.isBare names)) :
    fill values template =
      .ok (String.ofList ((piecesFrom 0 template.toList).flatMap (Piece.shown values))) := by
  unfold fill depth fillNested
  rw [fillPieces_of_isBare hnames _ htemplate]
  rfl

end Template

/-! The catalog -/

namespace PromptText

theorem toList_unlines (lines : List String) :
    (unlines lines).toList = lines.flatMap fun l => l.toList ++ ['\n'] := by
  simp [unlines, String.toList_join, List.flatMap_map]

theorem unlines_ne_empty (line : String) (lines : List String) : unlines (line :: lines) ≠ "" := by
  intro h
  have htext := congrArg String.toList h
  simp [toList_unlines] at htext

theorem isBare_base : (Template.piecesFrom 0 base.toList).all (Piece.isBare ["DATABASE_TYPE"]) := by
  unfold base
  rw [toList_unlines]
  simp only [List.flatMap_cons, List.flatMap_nil, String.toList_append]
  repeat rw [String.toList_ofList]
  decide +kernel

theorem isBare_footer :
    (Template.piecesFrom 0 footer.toList).all (Piece.isBare ["DATABASE_TYPE", "SQL_SCRIPT"]) := by
  unfold footer
  rw [toList_unlines]
  simp only [List.flatMap_cons, List.flatMap_nil, String.toList_append]
  repeat rw [String.toList_ofList]
  decide +kernel

end PromptText

namespace Catalog

/-- Every file of the catalog is found under its name. -/
theorem text?_of_mem_texts {name text : String} (h : (name, text) ∈ texts) :
    shipped.text? name = .ok (some text) := by
  simp only [texts, List.mem_cons, List.not_mem_nil, or_false, Prod.mk.injEq] at h
  rcases h with ⟨rfl, rfl⟩ | ⟨rfl, rfl⟩ | ⟨rfl, rfl⟩ | ⟨rfl, rfl⟩ | ⟨rfl, rfl⟩ | ⟨rfl, rfl⟩ | ⟨rfl, rfl⟩
  all_goals rfl

theorem load_of_mem_texts {name text : String} (h : (name, text) ∈ texts) :
    shipped.load name = .ok text := by
  rw [load, text?_of_mem_texts h]

/-- The instructions on a dialect are the file of its name. -/
theorem instructions_of_mem_texts {d : Dialect} {text : String} (h : (d.promptName, text) ∈ texts) :
    shipped.instructions d = .ok text := by
  have hcontains : shipped.contains d.promptName = .ok true := by
    rw [contains, text?_of_mem_texts h]
    rfl
  simp [instructions, hcontains, load_of_mem_texts h, Except.mapError, bind, Except.bind]

theorem instructions_of_missing {c : Catalog} {d : Dialect} (h : c.text? d.promptName = .ok none) :
    c.instructions d = .ok "" := by
  have hcontains : c.contains d.promptName = .ok false := by
    rw [contains, h]
    rfl
  simp [instructions, hcontains, Except.mapError, bind, Except.bind, pure, Except.pure]

/-- Each dialect but the generic one has a file, which is not empty. -/
theorem exists_mem_texts {d : Dialect} (hd : d ≠ .generic) :
    ∃ text, (d.promptName, text) ∈ texts ∧ text ≠ "" := by
  have hfile (name text : String) (hname : d.promptName = name) (hmem : (name, text) ∈ texts)
      (htext : text ≠ "") : ∃ text, (d.promptName, text) ∈ texts ∧ text ≠ "" :=
    ⟨text, hname ▸ hmem, htext⟩
  cases d with
  | generic => exact absurd rfl hd
  | postgresql =>
    exact hfile "dialects/postgresql.txt" PromptText.postgresql (by decide +kernel) (by simp [texts])
      (PromptText.unlines_ne_empty _ _)
  | mysql =>
    exact hfile "dialects/mysql.txt" PromptText.mysql (by decide +kernel) (by simp [texts])
      (PromptText.unlines_ne_empty _ _)
  | mariadb =>
    exact hfile "dialects/mariadb.txt" PromptText.mariadb (by decide +kernel) (by simp [texts])
      (PromptText.unlines_ne_empty _ _)
  | sqlServer =>
    exact hfile "dialects/sql_server.txt" PromptText.sqlServer (by decide +kernel) (by simp [texts])
      (PromptText.unlines_ne_empty _ _)
  | sqlite =>
    exact hfile "dialects/sqlite.txt" PromptText.sqlite (by decide +kernel) (by simp [texts])
      (PromptText.unlines_ne_empty _ _)

theorem exists_instructions (d : Dialect) : ∃ text, shipped.instructions d = .ok text := by
  by_cases hd : d = .generic
  · subst hd
    exact ⟨"", instructions_of_missing rfl⟩
  · obtain ⟨text, hmem, -⟩ := exists_mem_texts hd
    exact ⟨text, instructions_of_mem_texts hmem⟩

end Catalog

namespace Dialect

theorem isWord_databaseType : Placeholder.IsWord "DATABASE_TYPE" := by
  refine ⟨by decide, by decide +kernel, rfl⟩

theorem isWord_sqlScript : Placeholder.IsWord "SQL_SCRIPT" := by
  refine ⟨by decide, by decide +kernel, rfl⟩

/-- A request is put together from two filled prompts and the instructions. -/
theorem promptFrom_eq {c : Catalog} {d : Dialect} {sql base footer instructions : String}
    {baseText footerText : String} (hbaseText : c.load Catalog.basePrompt = .ok baseText)
    (hfooterText : c.load Catalog.footerPrompt = .ok footerText)
    (hbase : Template.fill [d.dialectValue] baseText = .ok base)
    (hfooter : Template.fill [d.dialectValue, ("SQL_SCRIPT", .text sql)] footerText = .ok footer)
    (hinstructions : c.instructions d = .ok instructions) :
    promptFrom c d sql = .ok (base ++ "\n" ++ instructions ++ "\n" ++ footer) := by
  unfold promptFrom
  simp only [hbaseText, hfooterText, hbase, hfooter, hinstructions, bind, Except.bind,
    Except.mapError]
  rfl

theorem exportPrompt_eq {d : Dialect} {sql base footer instructions : String}
    (hbase : Template.fill [d.dialectValue] PromptText.base = .ok base)
    (hfooter : Template.fill [d.dialectValue, ("SQL_SCRIPT", .text sql)] PromptText.footer = .ok footer)
    (hinstructions : Catalog.shipped.instructions d = .ok instructions) :
    d.exportPrompt sql = .ok (base ++ "\n" ++ instructions ++ "\n" ++ footer) :=
  promptFrom_eq (Catalog.load_of_mem_texts List.mem_cons_self)
    (Catalog.load_of_mem_texts (List.mem_cons_of_mem _ List.mem_cons_self)) hbase hfooter hinstructions

/-- The request for a script in a dialect, which there always is. -/
theorem exists_exportPrompt (d : Dialect) (sql : String) : ∃ prompt, d.exportPrompt sql = .ok prompt := by
  have hbase := Template.fill_of_isBare [d.dialectValue]
    (by simp [isWord_databaseType, dialectValue, textNamed?]) PromptText.isBare_base
  have hfooter := Template.fill_of_isBare [d.dialectValue, ("SQL_SCRIPT", .text sql)]
    (by simp [isWord_databaseType, isWord_sqlScript, dialectValue, textNamed?, List.lookup_cons])
    PromptText.isBare_footer
  obtain ⟨instructions, hinstructions⟩ := Catalog.exists_instructions d
  exact ⟨_, exportPrompt_eq hbase hfooter hinstructions⟩

end Dialect

end SchemaScript
