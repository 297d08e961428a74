import SchemaScript.Proofs.Script.Words

/-! The lines of a script. While no word of it holds the end of a line, the lines of its text are those of
the layout: one for each column, index and foreign key, and a few around the columns. Of these only
foreign keys start as foreign keys do, whatever the words are, for every other line begins with what the
layout puts there. So counting the lines that start so counts the foreign keys. -/

namespace SchemaScript

namespace Text

/-- No line ends within the text. -/
def OneLine (s : String) : Prop := ∀ c ∈ s.toList, isLineBoundary c = false

-- Over all of a text's characters, and not over all characters there are.
instance (s : String) : Decidable (OneLine s) :=
  List.decidableBAll (isLineBoundary · = false) s.toList

@[simp] theorem oneLine_append {s t : String} : OneLine (s ++ t) ↔ OneLine s ∧ OneLine t := by
  simp only [OneLine, String.toList_append, List.forall_mem_append]

theorem oneLine_intercalate {gap : String} (hgap : OneLine gap) {texts : List String}
    (h : ∀ t ∈ texts, OneLine t) : OneLine (gap.intercalate texts) := by
  induction texts with
  | nil => simp [OneLine]
  | cons t texts ih =>
    have ht := h t List.mem_cons_self
    have hrest := ih fun u hu => h u (List.mem_cons_of_mem t hu)
    cases texts with
    | nil => simpa using ht
    | cons u texts =>
      rw [String.intercalate_cons_cons]
      simp [hgap, ht, hrest]

/-- Lines as a text, each with its end. -/
def joinLines (ls : List String) : List Char := ls.flatMap fun l => l.toList ++ ['\n']

theorem lines_append_newline {cs : List Char} (h : ∀ c ∈ cs, isLineBoundary c = false)
    (rest : List Char) : lines (cs ++ '\n' :: rest) = cs :: lines rest := by
  induction cs with
  | nil => simp [lines, isLineBoundary]
  | cons c cs ih =>
    obtain ⟨hc, hcs⟩ := List.forall_mem_cons.mp h
    have hreturn : c ≠ '\r' := by
      rintro rfl
      simp [isLineBoundary] at hc
    rw [List.cons_append, lines, hc, ih hcs]
    · rfl
    · intro tail hchar _
      exact hreturn hchar

theorem lines_joinLines {ls : List String} (h : ∀ l ∈ ls, OneLine l) :
    lines (joinLines ls) = ls.map String.toList := by
  induction ls with
  | nil => rfl
  | cons l ls ih =>
    obtain ⟨hl, hls⟩ := List.forall_mem_cons.mp h
    have hsplit : joinLines (l :: ls) = l.toList ++ '\n' :: joinLines ls := by simp [joinLines]
    rw [hsplit, lines_append_newline hl, ih hls, List.map_cons]

end Text

open Text (OneLine joinLines)

namespace Script

/-! The layout -/

/-- The lines in the brackets of a block. Brackets around nothing have an empty line between them. -/
def columnLines : List String → List String
  | [] => [""]
  | [c] => ["  " ++ c]
  | c :: d :: cs => ("  " ++ c ++ ",") :: columnLines (d :: cs)

def IndexDef.line (table : String) (i : IndexDef) : String :=
  "CREATE " ++ (if i.unique then "UNIQUE " else "") ++ "INDEX " ++ i.name ++ " ON " ++ table ++ " ("
    ++ ", ".intercalate i.columns ++ ");"

def ForeignKey.line (k : ForeignKey) : String :=
  "ALTER TABLE " ++ k.sourceTable ++ " ADD CONSTRAINT " ++ k.name ++ " FOREIGN KEY ("
    ++ k.sourceColumn ++ ") REFERENCES " ++ k.targetTable ++ " (" ++ k.targetColumn ++ ");"

def Block.lines (b : Block) : List String :=
  ("CREATE TABLE " ++ b.table ++ " (") :: (columnLines (b.columns.map Column.text)
    ++ ");" :: "" :: (b.indexes.map (IndexDef.line b.table) ++ [""]))

def lines (s : Script) : List String :=
  s.blocks.flatMap Block.lines ++ s.foreignKeys.map ForeignKey.line

theorem joinLines_columnLines (columns : List String) : joinLines (columnLines columns) =
    (",\n".intercalate (columns.map ("  " ++ ·))).toList ++ ['\n'] := by
  induction columns using columnLines.induct with
  | case1 => rfl
  | case2 c => simp [columnLines, joinLines]
  | case3 c d cs ih =>
    have hcons : joinLines (columnLines (c :: d :: cs)) =
        ("  " ++ c ++ ",").toList ++ '\n' :: joinLines (columnLines (d :: cs)) := by
      simp [columnLines, joinLines]
    rw [hcons, ih]
    simp [String.intercalate_cons_cons]

theorem toList_statementEnd : ");\n".toList = ");".toList ++ ['\n'] := by decide

theorem toList_indexText_eq (table : String) (i : IndexDef) :
    (i.text table).toList = (i.line table).toList ++ ['\n'] := by
  unfold IndexDef.text IndexDef.line
  simp only [String.toList_append, toList_statementEnd, List.append_assoc]

theorem toList_foreignKeyText_eq (k : ForeignKey) : k.text.toList = k.line.toList ++ ['\n'] := by
  unfold ForeignKey.text ForeignKey.line
  simp only [String.toList_append, toList_statementEnd, List.append_assoc]

theorem toList_blockText_eq (b : Block) : b.text.toList = joinLines b.lines := by
  have hcolumns := joinLines_columnLines (b.columns.map Column.text)
  simp only [joinLines, List.map_map, Function.comp_def] at hcolumns
  rw [toList_blockText]
  simp [Block.lines, joinLines, hcolumns, toList_indexText_eq, List.flatMap_map]

theorem toList_text_eq (s : Script) : s.text.toList = joinLines s.lines := by
  rw [toList_scriptText]
  simp [lines, joinLines, toList_blockText_eq, toList_foreignKeyText_eq, List.flatMap_map,
    List.flatMap_assoc]

/-! Lines that stay whole -/

theorem oneLine_toString (i : Int) : OneLine (toString i) := by
  have hdigits : ∀ c ∈ Nat.toDigits 10 i.natAbs, Text.isLineBoundary c = false := by
    intro c hc
    have hdigit := Json.isDigit_of_mem_toDigits _ c hc
    simp only [Char.isDigit, Bool.and_eq_true, decide_eq_true_eq] at hdigit
    have hleast : 48 ≤ c.toNat := UInt32.le_iff_toNat_le.mp hdigit.1
    have hgreatest : c.toNat ≤ 57 := UInt32.le_iff_toNat_le.mp hdigit.2
    simp [Text.isLineBoundary]
    omega
  unfold OneLine
  rw [toList_toString]
  rcases Json.printInt_cases i with ⟨-, hprint⟩ | ⟨-, hprint⟩
  · rw [hprint]
    exact List.forall_mem_cons.mpr ⟨by decide, hdigits⟩
  · rwa [hprint]

theorem oneLine_sizeText (size : List Int) : OneLine (sizeText size) := by
  have hparts : ∀ t ∈ size.map toString, OneLine t := by
    intro t ht
    obtain ⟨i, -, rfl⟩ := List.mem_map.mp ht
    exact oneLine_toString i
  unfold sizeText
  split
  · decide
  · simp only [Text.oneLine_append, and_assoc]
    exact ⟨by decide, Text.oneLine_intercalate (by decide) hparts, by decide⟩

theorem oneLine_clauseText {word : String} (h : OneLine word) (present : Bool) :
    OneLine (clauseText word present) := by
  unfold clauseText
  split
  · exact h
  · decide

theorem oneLine_columnText {c : Column} (h : ∀ w ∈ c.words, OneLine w) : OneLine c.text := by
  simp only [Column.words, List.forall_mem_cons, Option.mem_toList] at h
  obtain ⟨hname, htype, hdefault⟩ := h
  have hclause : OneLine (defaultText c.default) := by
    cases hvalue : c.default with
    | none => decide
    | some value => exact Text.oneLine_append.mpr ⟨by decide, hdefault value hvalue⟩
  rw [columnText_eq]
  simp only [Text.oneLine_append, and_assoc]
  exact ⟨hname, by decide, htype, oneLine_sizeText _, oneLine_clauseText (by decide) _, hclause,
    oneLine_clauseText (by decide) _⟩

theorem oneLine_indexLine {table : String} (htable : OneLine table) {i : IndexDef}
    (h : ∀ w ∈ i.words, OneLine w) : OneLine (i.line table) := by
  obtain ⟨hname, hcolumns⟩ := List.forall_mem_cons.mp h
  have hunique : OneLine (if i.unique then "UNIQUE " else "") := by split <;> decide
  unfold IndexDef.line
  simp only [Text.oneLine_append, and_assoc]
  exact ⟨by decide, hunique, by decide, hname, by decide, htable, by decide,
    Text.oneLine_intercalate (by decide) hcolumns, by decide⟩

theorem oneLine_foreignKeyLine {k : ForeignKey} (h : ∀ w ∈ k.words, OneLine w) :
    OneLine k.line := by
  simp only [ForeignKey.words, List.forall_mem_cons] at h
  obtain ⟨hname, hsource, hsourceColumn, htarget, htargetColumn, -⟩ := h
  unfold ForeignKey.line
  simp only [Text.oneLine_append, and_assoc]
  exact ⟨by decide, hsource, by decide, hname, by decide, hsourceColumn, by decide, htarget,
    by decide, htargetColumn, by decide⟩

theorem oneLine_columnLines {columns : List String} (h : ∀ c ∈ columns, OneLine c) :
    ∀ l ∈ columnLines columns, OneLine l := by
  have hindent : OneLine "  " := by decide
  have hcomma : OneLine "," := by decide
  induction columns using columnLines.induct with
  | case1 => simp [columnLines, OneLine]
  | case2 c => simpa [columnLines, hindent] using h
  | case3 c d cs ih =>
    obtain ⟨hc, hcs⟩ := List.forall_mem_cons.mp h
    rw [columnLines]
    exact List.forall_mem_cons.mpr ⟨by simp [hindent, hcomma, hc], ih hcs⟩

theorem oneLine_blockLines {b : Block} (h : ∀ w ∈ b.words, OneLine w) :
    ∀ l ∈ b.lines, OneLine l := by
  simp only [Block.words, List.forall_mem_cons, List.forall_mem_append, List.forall_mem_flatMap] at h
  obtain ⟨htable, hcolumns, hindexes⟩ := h
  have hfirst : OneLine ("CREATE TABLE " ++ b.table ++ " (") := by
    simp only [Text.oneLine_append, and_assoc]
    exact ⟨by decide, htable, by decide⟩
  have hbetween : ∀ l ∈ columnLines (b.columns.map Column.text), OneLine l :=
    oneLine_columnLines (List.forall_mem_map.mpr fun c hc => oneLine_columnText (hcolumns c hc))
  have hindex : ∀ l ∈ b.indexes.map (IndexDef.line b.table), OneLine l :=
    List.forall_mem_map.mpr fun i hi => oneLine_indexLine htable (hindexes i hi)
  simp only [Block.lines, List.forall_mem_cons, List.forall_mem_append]
  exact ⟨hfirst, hbetween, by decide, by decide, hindex, by decide, List.forall_mem_nil _⟩

theorem oneLine_lines {s : Script} (h : ∀ w ∈ s.words, OneLine w) : ∀ l ∈ s.lines, OneLine l := by
  simp only [words, List.forall_mem_append, List.forall_mem_flatMap] at h
  simp only [lines, List.forall_mem_append, List.forall_mem_flatMap, List.forall_mem_map]
  exact ⟨fun b hb => oneLine_blockLines (h.1 b hb), fun k hk => oneLine_foreignKeyLine (h.2 k hk)⟩

/-- The text of a script has the lines of its layout if no word of it holds the end of a line. -/
theorem lines_text {s : Script} (h : ∀ w ∈ s.words, OneLine w) :
    Text.lines s.text.toList = s.lines.map String.toList := by
  rw [toList_text_eq, Text.lines_joinLines (oneLine_lines h)]

/-! Counting foreign keys -/

theorem isPrefixOf_foreignKeyLine (k : ForeignKey) :
    foreignKeyStart.isPrefixOf k.line.toList = true := by
  unfold ForeignKey.line foreignKeyStart
  simp only [String.toList_append, List.append_assoc]
  exact List.isPrefixOf_iff_prefix.mpr (List.prefix_append _ _)

theorem not_isPrefixOf_of_head? {l : String} (h : l.toList.head? ≠ some 'A') :
    foreignKeyStart.isPrefixOf l.toList = false := by
  rw [Bool.eq_false_iff]
  intro hprefix
  obtain ⟨rest, hrest⟩ := List.isPrefixOf_iff_prefix.mp hprefix
  rw [← hrest] at h
  exact h rfl

theorem head?_columnLines (columns : List String) :
    ∀ l ∈ columnLines columns, l.toList.head? ≠ some 'A' := by
  induction columns using columnLines.induct with
  | case1 => simp [columnLines]
  | case2 c => simp [columnLines]
  | case3 c d cs ih =>
    rw [columnLines]
    exact List.forall_mem_cons.mpr ⟨by simp, ih⟩

theorem head?_indexLine (table : String) (i : IndexDef) :
    (i.line table).toList.head? ≠ some 'A' := by
  unfold IndexDef.line
  simp

theorem head?_blockLines (b : Block) : ∀ l ∈ b.lines, l.toList.head? ≠ some 'A' := by
  have hindex : ∀ l ∈ b.indexes.map (IndexDef.line b.table), l.toList.head? ≠ some 'A' :=
    List.forall_mem_map.mpr fun i _ => head?_indexLine _ i
  simp only [Block.lines, List.forall_mem_cons, List.forall_mem_append]
  exact ⟨by simp, head?_columnLines _, by decide, by decide, hindex, by decide, List.forall_mem_nil _⟩

theorem foreignKeyLines_text {s : Script} (h : ∀ w ∈ s.words, OneLine w) :
    foreignKeyLines s.text = s.foreignKeys.length := by
  have hblocks : (s.blocks.flatMap Block.lines).countP (foreignKeyStart.isPrefixOf ∘ String.toList) =
      0 := by
    rw [List.countP_eq_zero]
    intro l hl
    obtain ⟨b, -, hl⟩ := List.mem_flatMap.mp hl
    rw [Function.comp_apply, not_isPrefixOf_of_head? (head?_blockLines b l hl)]
    exact Bool.false_ne_true
  have hkeys : (s.foreignKeys.map ForeignKey.line).countP
      (foreignKeyStart.isPrefixOf ∘ String.toList) = s.foreignKeys.length := by
    rw [List.countP_map, List.countP_eq_length]
    intro k _
    rw [Function.comp_apply, Function.comp_apply, isPrefixOf_foreignKeyLine]
  rw [foreignKeyLines, lines_text h, List.countP_map, lines, List.countP_append, hblocks, hkeys,
    Nat.zero_add]

-- A default that goes on in another line can look like a foreign key.
example :
    let f : Field := ⟨"f", "c", "int", none, none, none, true, some "0,\nALTER TABLE t", false⟩
    let d : Diagram := ⟨none, none, none, [⟨"t", "t", false, [f], []⟩], []⟩
    d.sql.toOption.map foreignKeyLines = some 1 ∧ d.script.foreignKeys = [] := by
  decide +kernel

end Script

end SchemaScript
