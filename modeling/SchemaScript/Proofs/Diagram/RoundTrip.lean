import SchemaScript.Diagram.File
import SchemaScript.Proofs.Diagram.Members
import SchemaScript.Proofs.Files.Tree
import SchemaScript.Proofs.Json.Characters

/-! Saving a diagram and loading it again. The text of a diagram is that of a value without
floating-point numbers and of bounded depth, which is read back as long as its integers are not too
long; blanks around it are trimmed away. -/

namespace SchemaScript

/-- The integers a field holds. -/
def Field.integers (f : Field) : List Int :=
  f.length.toList ++ f.precision.toList ++ f.scale.toList

/-- No integer of the diagram has more digits. -/
def Diagram.DigitsWithin (digits : Nat) (d : Diagram) : Prop :=
  ∀ t ∈ d.tables, ∀ f ∈ t.fields, ∀ i ∈ f.integers, digitCount i ≤ digits

instance (digits : Nat) (d : Diagram) : Decidable (d.DigitsWithin digits) :=
  inferInstanceAs (Decidable (∀ t ∈ d.tables, ∀ f ∈ t.fields, ∀ i ∈ f.integers, digitCount i ≤ digits))

section Plain

open Json (Plain)

variable {digits depth : Nat}

theorem Json.Plain.ofOption {write : α → Json} {o : Option α}
    (h : ∀ a ∈ o, Plain digits depth (write a)) : Plain digits depth (.ofOption write o) := by
  cases o with
  | none => exact .null
  | some a => exact h a rfl

theorem Json.Plain.optionString (o : Option String) : Plain digits depth (.ofOption .string o) :=
  .ofOption fun s _ => .string s

theorem Json.Plain.map {write : α → Json} {as : List α} (h : ∀ a ∈ as, Plain digits depth (write a)) :
    Plain digits (depth + 1) (.array (as.map write)) := by
  refine .array fun v hv => ?_
  obtain ⟨a, ha, rfl⟩ := List.mem_map.mp hv
  exact h a ha

theorem Field.plain_toJson {f : Field} (h : ∀ i ∈ f.integers, digitCount i ≤ digits) :
    Plain digits (depth + 1) f.toJson := by
  have hinteger (o : Option Int) (ho : ∀ i ∈ o, i ∈ f.integers) :
      Plain digits depth (.ofOption .int o) := .ofOption fun i hi => .int (h i (ho i hi))
  have hlength := hinteger f.length fun i hi => by simp_all [integers]
  have hprecision := hinteger f.precision fun i hi => by simp_all [integers]
  have hscale := hinteger f.scale fun i hi => by simp_all [integers]
  refine .object ?_
  simp only [List.forall_mem_cons, List.not_mem_nil, false_implies, implies_true, and_true]
  exact ⟨.string _, .string _, .string _, hlength, hprecision, hscale, .bool _, .optionString _, .bool _⟩

theorem Index.plain_toJson (i : Index) : Plain digits (depth + 2) i.toJson := by
  refine .object ?_
  simp only [List.forall_mem_cons, List.not_mem_nil, false_implies, implies_true, and_true]
  exact ⟨.optionString _, .string _, .bool _, .map fun id _ => .string id⟩

theorem Table.plain_toJson {t : Table} (h : ∀ f ∈ t.fields, ∀ i ∈ f.integers, digitCount i ≤ digits) :
    Plain digits (depth + 4) t.toJson := by
  refine .object ?_
  simp only [List.forall_mem_cons, List.not_mem_nil, false_implies, implies_true, and_true]
  exact ⟨.string _, .string _, .bool _, .map fun f hf => f.plain_toJson (h f hf),
    .map fun i _ => i.plain_toJson⟩

theorem Relationship.plain_toJson (r : Relationship) : Plain digits (depth + 1) r.toJson := by
  refine .object ?_
  simp only [List.forall_mem_cons, List.not_mem_nil, false_implies, implies_true, and_true]
  exact ⟨.optionString _, .string _, .string _, .string _, .string _, .string _⟩

theorem Diagram.plain_toJson {d : Diagram} (h : d.DigitsWithin digits) :
    Plain digits (depth + 6) d.toJson := by
  refine .object ?_
  simp only [List.forall_mem_cons, List.not_mem_nil, false_implies, implies_true, and_true]
  exact ⟨.optionString _, .optionString _, .ofOption fun s _ => .string _,
    .map fun t ht => t.plain_toJson (h t ht), .map fun r _ => r.plain_toJson⟩

end Plain

namespace Diagram

open Json (Plain)

theorem toList_toText (d : Diagram) : d.toText.toList = Json.print 0 d.toJson :=
  String.toList_ofList

theorem trimmed_toText (d : Diagram) : Text.Trimmed d.toText.toList := by
  rw [toList_toText]
  exact Json.trimmed_print_object 0 _

theorem return_notMem_toText {digits : Nat} {d : Diagram} (h : d.DigitsWithin digits) :
    '\r' ∉ d.toText.toList := by
  have hplain : Plain digits 6 d.toJson := plain_toJson h
  rw [toList_toText]
  exact Json.return_notMem_print hplain 0

/-- The text of a diagram is read as that diagram, whatever blanks there are around it. -/
theorem ofText_surrounded {d : Diagram} (h : d.DigitsWithin textLimits.digits)
    {before after : List Char} (hbefore : Text.Blank before) (hafter : Text.Blank after) :
    ofText (String.ofList (before ++ (d.toText.toList ++ after))) = .accepted d := by
  have hplain : Plain textLimits.digits textLimits.depth d.toJson := plain_toJson h
  rw [ofText, String.toList_ofList, Text.trim_surrounded hbefore d.trimmed_toText hafter,
    toList_toText, Json.parse?_print hplain]
  exact ofJson_toJson d

end Diagram

namespace FileTree

/-- A file with the text of a diagram and blanks around it is loaded as that diagram. -/
theorem loadDiagram_surrounded {d : Diagram} (h : d.DigitsWithin Diagram.textLimits.digits)
    {before after : String} (hbefore : Text.isBlankText before = true)
    (hafter : Text.isBlankText after = true) {t : FileTree} {directory : Location} {p : Path}
    {c : Content} (hfind : t.find directory p = .ok (.file c))
    (hc : c.toBytes = Text.utf8 (before ++ d.toText ++ after)) :
    t.loadDiagram directory p = .ok d := by
  obtain ⟨hcontains, hread⟩ := read_of_find hfind
  obtain ⟨before', after', hbefore', hafter', hunify⟩ := Text.unifyNewlines_surrounded
    (List.all_eq_true.mp hbefore) d.trimmed_toText (Diagram.return_notMem_toText h)
    (List.all_eq_true.mp hafter)
  rw [Content.read_of_toBytes hc, String.toList_append, String.toList_append, List.append_assoc,
    hunify] at hread
  rw [loadDiagram, hcontains, hread]
  simp only [Text.not_isBlankText_surrounded d.trimmed_toText, Bool.false_eq_true, if_false,
    Diagram.ofText_surrounded h hbefore' hafter']

/-- The path a diagram was saved under leads to a file with its text. -/
theorem find_of_saveDiagram {t t' : FileTree} {directory : Location} {p : Path} {d : Diagram}
    (h : t.saveDiagram directory p d = .ok t') :
    t'.find directory p = .ok (.file (.text d.toText)) := by
  simp only [saveDiagram] at h
  cases hensure : t.ensureDirectories directory p.parent with
  | error e =>
    rw [hensure] at h
    cases h
  | ok u =>
    rw [hensure] at h
    exact find_of_write h

/-- A diagram is saved wherever its path leads to a file. -/
theorem exists_saveDiagram_of_find {t : FileTree} {directory : Location} {p : Path} {c : Content}
    (hnames : p.names ≠ []) (h : t.find directory p = .ok (.file c)) (d : Diagram) :
    ∃ t', t.saveDiagram directory p d = .ok t' := by
  obtain ⟨t', hwrite⟩ := exists_write_of_find h d.toText
  have hparent := ensureDirectories_of_find (find_parent h hnames)
  exact ⟨t', by simp only [saveDiagram, hparent, bind, Except.bind, hwrite]⟩

/-- Saving a diagram and loading it again gives the diagram back, also if blanks have been put before
and after the text that was saved. A diagram can be saved again where a file is. -/
theorem loadDiagram_savedText (d : Diagram) (hd : d.DigitsWithin 4300) :
    (∀ (t t' : FileTree) (directory : Location) (p : Path),
      t.saveDiagram directory p d = .ok t' →
        t'.find directory p = .ok (.file (.text d.toText)) ∧ t'.loadDiagram directory p = .ok d) ∧
    (∀ (before after : String), Text.isBlankText before = true → Text.isBlankText after = true →
      ∀ (t : FileTree) (directory : Location) (p : Path) (c : Content),
        t.find directory p = .ok (.file c) →
          c.toBytes = Text.utf8 (before ++ d.toText ++ after) →
            t.loadDiagram directory p = .ok d) ∧
    ∀ (t : FileTree) (directory : Location) (p : Path) (c : Content), p.names ≠ [] →
      t.find directory p = .ok (.file c) → ∃ t', t.saveDiagram directory p d = .ok t' := by
  refine ⟨fun t t' directory p hsave => ?_, fun before after hbefore hafter t directory p c => ?_,
    fun t directory p c hnames hfind => exists_saveDiagram_of_find hnames hfind d⟩
  · have hfind := find_of_saveDiagram hsave
    have hblank : Text.isBlankText "" = true := rfl
    refine ⟨hfind, loadDiagram_surrounded hd hblank hblank hfind ?_⟩
    simp [Content.toBytes]
  · exact loadDiagram_surrounded hd hbefore hafter

/-- Texts with quotes, backslashes, control characters and line separators, and negative numbers. -/
def annotated : Diagram where
  id := some "a\\b\tc"
  name := some "\"quoted\"\r\nline\u2028\x07"
  dialect := some .sqlServer
  tables := [⟨"", "päris 🚆", true,
    [⟨"\x1f", "/\\/", "decimal", some (-12), some 0, none, true, some "''", false⟩], []⟩]
  relationships := [⟨none, "", ⟨"", "\x1f"⟩, ⟨"gone", "\x00"⟩⟩]

/-- The diagram above is saved where no directory is yet, and loaded. It is loaded, too, from bytes
that begin with a carriage return and end with a paragraph separator, and replaces a file whose bytes are no text. -/
theorem annotated_loadDiagram_savedText :
    (∃ t, FileTree.empty.saveDiagram [] ⟨"", ["out", "d.json"]⟩ annotated = .ok t ∧
      t.loadDiagram [] ⟨"", ["out", "d.json"]⟩ = .ok annotated) ∧
    (⟨[(["e.json"], .file (.bytes (Text.utf8 ("\r\n " ++ annotated.toText ++ "\u2029"))))]⟩ :
      FileTree).loadDiagram [] ⟨"", ["e.json"]⟩ = .ok annotated ∧
    ∃ t, (⟨[(["e.json"], .file (.bytes [0xFF]))]⟩ : FileTree).saveDiagram [] ⟨"", ["e.json"]⟩
      annotated = .ok t := by
  obtain ⟨hsaved, hsurrounded, hreplaced⟩ := loadDiagram_savedText annotated (by decide)
  have hsave : FileTree.empty.saveDiagram [] ⟨"", ["out", "d.json"]⟩ annotated =
      .ok ⟨[(["out", "d.json"], .file (.text annotated.toText)), (["out"], .directory)]⟩ := rfl
  refine ⟨⟨_, hsave, (hsaved _ _ _ _ hsave).2⟩, ?_, ?_⟩
  · exact hsurrounded "\r\n " "\u2029" (by decide) (by decide) _ [] ⟨"", ["e.json"]⟩ _ rfl rfl
  · exact hreplaced _ [] ⟨"", ["e.json"]⟩ (.bytes [0xFF]) (by decide) rfl

end FileTree

end SchemaScript
