import SchemaScript.Proofs.Script.ColumnReader
import SchemaScript.Script.Export

/-! Reading a script back from its text, if its words are bare. The first letter of a line tells
whether a block, one of its indexes, or a foreign key follows. So the script of a diagram can be told
from its text, and two diagrams have the same text only if they have the same script. -/

namespace SchemaScript

namespace Script

open Json (Stops Reads Space separated)

/-! Runs of statements -/

/-- Reads items as long as the text goes on with the letter that each of them begins with. -/
def readRunUpTo (letter : Char) (item : Reader α) : (bound : Nat) → Reader (List α)
  | 0, cs => some ([], cs)
  | bound + 1, cs =>
    if cs.head? = some letter then
      (do
        let a ← item
        let as ← readRunUpTo letter item bound
        pure (a :: as)) cs
    else some ([], cs)

/-- Every item takes a character, so the length of the text bounds their number. -/
def readRun (letter : Char) (item : Reader α) : Reader (List α) := fun cs =>
  readRunUpTo letter item cs.length cs

theorem readRunUpTo_flatMap {item : Reader α} {text : α → List Char} {letter : Char} {as : List α}
    (hletter : ∀ a ∈ as, (text a).head? = some letter)
    (hitem : ∀ a ∈ as, ∀ rest, item (text a ++ rest) = some (a, rest)) {rest : List Char}
    (hrest : rest.head? ≠ some letter) {bound : Nat} (hbound : as.length ≤ bound) :
    readRunUpTo letter item bound (as.flatMap text ++ rest) = some (as, rest) := by
  induction as generalizing bound with
  | nil => cases bound <;> simp [readRunUpTo, hrest]
  | cons a as ih =>
    obtain ⟨bound, rfl⟩ : ∃ n, bound = n + 1 := ⟨bound - 1, by simp at hbound; omega⟩
    have hrun := ih (fun b hb => hletter b (List.mem_cons_of_mem a hb))
      (fun b hb => hitem b (List.mem_cons_of_mem a hb)) (by simpa using hbound)
    have hhead : (text a ++ (as.flatMap text ++ rest)).head? = some letter := by
      rw [List.head?_append, hletter a List.mem_cons_self]
      rfl
    rw [List.flatMap_cons, List.append_assoc, readRunUpTo, if_pos hhead,
      bind_eq_of_reads (hitem a List.mem_cons_self _), bind_eq_of_reads hrun]
    rfl

theorem length_le_length_flatMap {text : α → List Char} {letter : Char} {as : List α}
    (hletter : ∀ a ∈ as, (text a).head? = some letter) : as.length ≤ (as.flatMap text).length := by
  induction as with
  | nil => simp
  | cons a as ih =>
    have ha : 0 < (text a).length := by
      refine List.length_pos_of_ne_nil fun hnil => ?_
      have hfirst := hletter a List.mem_cons_self
      simp [hnil] at hfirst
    have hrest := ih fun b hb => hletter b (List.mem_cons_of_mem a hb)
    simp only [List.length_cons, List.flatMap_cons, List.length_append]
    omega

theorem readRun_flatMap {item : Reader α} {text : α → List Char} {letter : Char} {as : List α}
    (hletter : ∀ a ∈ as, (text a).head? = some letter)
    (hitem : ∀ a ∈ as, ∀ rest, item (text a ++ rest) = some (a, rest)) {rest : List Char}
    (hrest : rest.head? ≠ some letter) :
    readRun letter item (as.flatMap text ++ rest) = some (as, rest) := by
  refine readRunUpTo_flatMap hletter hitem hrest ?_
  have hlength := length_le_length_flatMap hletter
  simp only [List.length_append]
  omega

/-! Indexes -/

structure IndexDef.Bare (i : IndexDef) : Prop where
  name : BareWord i.name
  columns : ∀ c ∈ i.columns, BareWord c

def readIndex : Reader IndexDef := do
  literal "CREATE "
  let unique ← readClause "UNIQUE "
  literal "INDEX "
  let name ← readWord
  literal " ON "
  let _ ← readWord
  literal " ("
  let columns ← readList readWord
  literal ";\n"
  pure ⟨unique, name, columns⟩

theorem toList_indexText (i : IndexDef) (table : String) :
    (i.text table).toList = "CREATE ".toList ++ ((clauseText "UNIQUE " i.unique).toList ++
      ("INDEX ".toList ++ (i.name.toList ++ (" ON ".toList ++ (table.toList ++ (" (".toList ++
        ((", ".intercalate i.columns).toList ++ ')' :: ";\n".toList))))))) := by
  have hend : ");\n".toList = ')' :: ";\n".toList := by decide
  have hunique : (if i.unique then "UNIQUE " else "") = clauseText "UNIQUE " i.unique := rfl
  unfold IndexDef.text
  simp only [hunique, String.toList_append, hend, List.append_assoc]

theorem head?_indexText (i : IndexDef) (table : String) : (i.text table).toList.head? = some 'C' := by
  rw [toList_indexText, List.head?_append_of_ne_nil _ (by decide)]
  decide

theorem readIndex_text {i : IndexDef} (hi : i.Bare) {table : String} (htable : BareWord table)
    (rest : List Char) : readIndex ((i.text table).toList ++ rest) = some (i, rest) := by
  have hunique (cs : List Char) : ¬ "UNIQUE ".toList <+: "INDEX ".toList ++ cs := by
    rintro ⟨tail, htail⟩
    simp at htail
  have hcolumns (cs : List Char) :
      readList readWord ((", ".intercalate i.columns).toList ++ ')' :: cs) = some (i.columns, cs) := by
    have hlist := readList_commas (fun c hc => reads_word (hi.columns c hc)) cs
    rwa [List.map_id'] at hlist
  simp only [toList_indexText, List.append_assoc, List.cons_append]
  rw [readIndex, bind_eq_of_reads (literal_append "CREATE " _),
    bind_eq_of_reads (readClause_append (hunique _) i.unique),
    bind_eq_of_reads (literal_append "INDEX " _),
    bind_eq_of_reads (readWord_append hi.name (ends_space (by decide) _)),
    bind_eq_of_reads (literal_append " ON " _),
    bind_eq_of_reads (readWord_append htable (ends_space (by decide) _)),
    bind_eq_of_reads (literal_append " (" _), bind_eq_of_reads (hcolumns _),
    bind_eq_of_reads (literal_append ";\n" _)]
  rfl

/-! Blocks -/

structure Block.Bare (b : Block) : Prop where
  table : BareWord b.table
  columns : ∀ c ∈ b.columns, c.Bare
  indexes : ∀ i ∈ b.indexes, i.Bare

def readBlock : Reader Block := do
  literal "CREATE TABLE "
  let table ← readWord
  literal " ("
  let columns ← readList readColumn
  literal ";\n\n"
  let indexes ← readRun 'C' readIndex
  literal "\n"
  pure ⟨table, columns, indexes⟩

/-- Lines that are indented are a sequence whose items have a line end and two spaces before them. -/
theorem toList_indented (t : String) (ts : List String) :
    (",\n".intercalate ((t :: ts).map ("  " ++ ·))).toList =
      "  ".toList ++ separated "\n  ".toList ((t :: ts).map String.toList) := by
  induction ts generalizing t with
  | nil => simp [separated]
  | cons u ts ih =>
    have hrest := ih u
    simp only [List.map_cons, String.intercalate_cons_cons, String.toList_append, separated,
      List.intercalate_cons_cons] at hrest ⊢
    rw [hrest]
    simp

/-- The lines in the brackets of a block. -/
theorem readList_columns {columns : List Column} (h : ∀ c ∈ columns, c.Bare) (rest : List Char) :
    readList readColumn ('\n' :: ((",\n".intercalate (columns.map fun c => "  " ++ c.text)).toList ++
      '\n' :: ')' :: rest)) = some (columns, rest) := by
  have hclose : Json.IsCloser ')' := .inl rfl
  have hgap : Space "\n  ".toList := by simp [Space, Json.isSpace]
  have hline : Space ['\n'] := by simp [Space, Json.isSpace]
  have hstops (cs : List Char) : Stops (['\n'] ++ ')' :: cs) := by simp [Stops]
  have hreads (c : Column) (hc : c ∈ columns) : Reads readColumn c.text.toList c :=
    reads_column (h c hc)
  cases columns with
  | nil =>
    refine Json.readSequence_of_separated hline hgap hline hclose hstops hreads ?_
    simp [separated]
  | cons c columns =>
    refine Json.readSequence_of_separated hgap hgap hline hclose hstops hreads ?_
    have hlines := toList_indented c.text (columns.map Column.text)
    have hbefore : "\n  ".toList = '\n' :: "  ".toList := by decide
    simp only [List.map_cons, List.map_map, Function.comp_def] at hlines ⊢
    rw [hlines, hbefore, List.cons_append, List.append_assoc]
    rfl

theorem toList_blockText (b : Block) :
    b.text.toList = "CREATE TABLE ".toList ++ (b.table.toList ++ (" (".toList ++
      ('\n' :: ((",\n".intercalate (b.columns.map fun c => "  " ++ c.text)).toList ++ '\n' :: ')' ::
        (";\n\n".toList ++
          (b.indexes.flatMap (fun i => (i.text b.table).toList) ++ "\n".toList)))))) := by
  have hopen : " (\n".toList = " (".toList ++ ['\n'] := by decide
  have hend : "\n);\n\n".toList = '\n' :: ')' :: ";\n\n".toList := by decide
  unfold Block.text createTableText
  simp only [String.toList_append, String.toList_join, List.map_map, List.flatMap_map,
    Function.comp_def, hopen, hend, List.append_assoc, List.cons_append, List.nil_append]

theorem head?_blockText (b : Block) : b.text.toList.head? = some 'C' := by
  rw [toList_blockText, List.head?_append_of_ne_nil _ (by decide)]
  decide

theorem readBlock_text {b : Block} (hb : b.Bare) (rest : List Char) :
    readBlock (b.text.toList ++ rest) = some (b, rest) := by
  have hletter : ∀ i ∈ b.indexes, (i.text b.table).toList.head? = some 'C' :=
    fun i _ => head?_indexText i b.table
  have hindex : ∀ i ∈ b.indexes, ∀ cs, readIndex ((i.text b.table).toList ++ cs) = some (i, cs) :=
    fun i hi cs => readIndex_text (hb.indexes i hi) hb.table cs
  have hline : ("\n".toList ++ rest).head? ≠ some 'C' := by simp
  simp only [toList_blockText, List.append_assoc, List.cons_append]
  rw [readBlock, bind_eq_of_reads (literal_append "CREATE TABLE " _),
    bind_eq_of_reads (readWord_append hb.table (ends_space (by decide) _)),
    bind_eq_of_reads (literal_append " (" _), bind_eq_of_reads (readList_columns hb.columns _),
    bind_eq_of_reads (literal_append ";\n\n" _),
    bind_eq_of_reads (readRun_flatMap hletter hindex hline),
    bind_eq_of_reads (literal_append "\n" _)]
  rfl

/-! Foreign keys -/

structure ForeignKey.Bare (k : ForeignKey) : Prop where
  name : BareWord k.name
  sourceTable : BareWord k.sourceTable
  sourceColumn : BareWord k.sourceColumn
  targetTable : BareWord k.targetTable
  targetColumn : BareWord k.targetColumn

def readForeignKey : Reader ForeignKey := do
  literal "ALTER TABLE "
  let sourceTable ← readWord
  literal " ADD CONSTRAINT "
  let name ← readWord
  literal " FOREIGN KEY ("
  let sourceColumn ← readWord
  literal ") REFERENCES "
  let targetTable ← readWord
  literal " ("
  let targetColumn ← readWord
  literal ");\n"
  pure ⟨name, sourceTable, sourceColumn, targetTable, targetColumn⟩

theorem toList_foreignKeyText (k : ForeignKey) :
    k.text.toList = "ALTER TABLE ".toList ++ (k.sourceTable.toList ++ (" ADD CONSTRAINT ".toList ++
      (k.name.toList ++ (" FOREIGN KEY (".toList ++ (k.sourceColumn.toList ++ (") REFERENCES ".toList ++
        (k.targetTable.toList ++ (" (".toList ++ (k.targetColumn.toList ++ ");\n".toList))))))))) := by
  unfold ForeignKey.text
  simp only [String.toList_append, List.append_assoc]

theorem head?_foreignKeyText (k : ForeignKey) : k.text.toList.head? = some 'A' := by
  rw [toList_foreignKeyText, List.head?_append_of_ne_nil _ (by decide)]
  decide

theorem readForeignKey_text {k : ForeignKey} (hk : k.Bare) (rest : List Char) :
    readForeignKey (k.text.toList ++ rest) = some (k, rest) := by
  simp only [toList_foreignKeyText, List.append_assoc]
  rw [readForeignKey, bind_eq_of_reads (literal_append "ALTER TABLE " _),
    bind_eq_of_reads (readWord_append hk.sourceTable (ends_space (by decide) _)),
    bind_eq_of_reads (literal_append " ADD CONSTRAINT " _),
    bind_eq_of_reads (readWord_append hk.name (ends_space (by decide) _)),
    bind_eq_of_reads (literal_append " FOREIGN KEY (" _),
    bind_eq_of_reads (readWord_append hk.sourceColumn (ends_bracket (by decide) _)),
    bind_eq_of_reads (literal_append ") REFERENCES " _),
    bind_eq_of_reads (readWord_append hk.targetTable (ends_space (by decide) _)),
    bind_eq_of_reads (literal_append " (" _),
    bind_eq_of_reads (readWord_append hk.targetColumn (ends_bracket (by decide) _)),
    bind_eq_of_reads (literal_append ");\n" _)]
  rfl

/-! Scripts -/

def readScript : Reader Script := do
  let blocks ← readRun 'C' readBlock
  let foreignKeys ← readRun 'A' readForeignKey
  pure ⟨blocks, foreignKeys⟩

/-- The script that a text holds, and nothing else. -/
def read? (text : String) : Option Script :=
  match readScript text.toList with
  | some (s, []) => some s
  | _ => none

/-- All words of the script are bare. -/
structure Bare (s : Script) : Prop where
  blocks : ∀ b ∈ s.blocks, b.Bare
  foreignKeys : ∀ k ∈ s.foreignKeys, k.Bare

theorem toList_scriptText (s : Script) :
    s.text.toList = (s.blocks.flatMap fun b => b.text.toList) ++
      (s.foreignKeys.flatMap fun k => k.text.toList) := by
  simp only [text, String.toList_append, String.toList_join, List.flatMap_map]

theorem readScript_text {s : Script} (hs : s.Bare) : readScript s.text.toList = some (s, []) := by
  have hnext : (s.foreignKeys.flatMap fun k => k.text.toList).head? ≠ some 'C' := by
    cases s.foreignKeys with
    | nil => simp
    | cons k ks => simp [List.head?_append, head?_foreignKeyText]
  have hend : ([] : List Char).head? ≠ some 'A' := by simp
  have hblocks := readRun_flatMap (fun b _ => head?_blockText b)
    (fun b hb => readBlock_text (hs.blocks b hb)) hnext
  have hkeys := readRun_flatMap (fun k _ => head?_foreignKeyText k)
    (fun k hk => readForeignKey_text (hs.foreignKeys k hk)) hend
  rw [List.append_nil] at hkeys
  rw [toList_scriptText, readScript, bind_eq_of_reads hblocks, bind_eq_of_reads hkeys]
  rfl

/-- A script of bare words is read back from its text. -/
theorem read?_text {s : Script} (hs : s.Bare) : read? s.text = some s := by
  rw [read?, readScript_text hs]

end Script

/-! Diagrams -/

open Script (BareWord)

/-- The names and types of a table are bare words, and so are its defaults, unless they are empty. -/
structure Table.Bare (t : Table) : Prop where
  name : BareWord t.name
  fieldNames : ∀ f ∈ t.fields, BareWord f.name
  fieldTypes : ∀ f ∈ t.fields, BareWord f.type
  fieldDefaults : ∀ f ∈ t.fields, ∀ value ∈ f.default, value ≠ "" → BareWord value
  indexNames : ∀ i ∈ t.indexes, BareWord i.name

/-- The names, types and defaults of a diagram are bare words; only a default may be empty. -/
structure Diagram.Bare (d : Diagram) : Prop where
  tables : ∀ t ∈ d.tables, t.Bare
  relationshipNames : ∀ r ∈ d.relationships, BareWord r.name

instance (t : Table) : Decidable t.Bare :=
  decidable_of_iff (BareWord t.name ∧ (∀ f ∈ t.fields, BareWord f.name) ∧
      (∀ f ∈ t.fields, BareWord f.type) ∧
      (∀ f ∈ t.fields, ∀ value ∈ f.default, value ≠ "" → BareWord value) ∧
      ∀ i ∈ t.indexes, BareWord i.name)
    ⟨fun ⟨hname, hnames, htypes, hdefaults, hindexes⟩ => ⟨hname, hnames, htypes, hdefaults, hindexes⟩,
      fun h => ⟨h.name, h.fieldNames, h.fieldTypes, h.fieldDefaults, h.indexNames⟩⟩

instance (d : Diagram) : Decidable d.Bare :=
  decidable_of_iff ((∀ t ∈ d.tables, t.Bare) ∧ ∀ r ∈ d.relationships, BareWord r.name)
    ⟨fun ⟨htables, hnames⟩ => ⟨htables, hnames⟩, fun h => ⟨h.tables, h.relationshipNames⟩⟩

theorem Table.Bare.block {t : Table} (ht : t.Bare) : t.block.Bare where
  table := ht.name
  columns := by
    intro c hc
    obtain ⟨f, hf, rfl⟩ := List.mem_map.mp hc
    refine ⟨ht.fieldNames f hf, ht.fieldTypes f hf, fun value hvalue => ?_⟩
    simp only [Field.column, Option.mem_def, Option.filter_eq_some_iff, bne_iff_ne] at hvalue
    exact ht.fieldDefaults f hf value hvalue.1 hvalue.2
  indexes := by
    intro e he
    obtain ⟨i, hi, hdef⟩ := List.mem_filterMap.mp he
    unfold Table.indexDef? at hdef
    split at hdef
    · cases hdef
    · cases hdef
      refine ⟨ht.indexNames i hi, fun c hc => ?_⟩
      obtain ⟨id, -, hid⟩ := List.mem_filterMap.mp hc
      obtain ⟨f, hf, rfl⟩ := Option.map_eq_some_iff.mp hid
      exact ht.fieldNames f (List.mem_of_find?_eq_some hf)

namespace Diagram

theorem Bare.foreignKey {d : Diagram} (hd : d.Bare) {r : Relationship} (hr : r ∈ d.relationships)
    {k : Script.ForeignKey} (hk : d.foreignKey? r = some k) : k.Bare := by
  simp only [foreignKey?, Option.bind_eq_bind, Option.bind_eq_some_iff] at hk
  obtain ⟨s, hs, t, ht, f, hf, g, hg, hkey⟩ := hk
  cases hkey
  have hsource := hd.tables s (List.mem_of_find?_eq_some hs)
  have htarget := hd.tables t (List.mem_of_find?_eq_some ht)
  exact ⟨hd.relationshipNames r hr, hsource.name, hsource.fieldNames f (List.mem_of_find?_eq_some hf),
    htarget.name, htarget.fieldNames g (List.mem_of_find?_eq_some hg)⟩

theorem Bare.script {d : Diagram} (hd : d.Bare) : d.script.Bare where
  blocks := by
    intro b hb
    obtain ⟨t, ht, rfl⟩ := List.mem_map.mp hb
    exact (hd.tables t (List.mem_of_mem_filter ht)).block
  foreignKeys := by
    intro k hk
    obtain ⟨r, hr, hkey⟩ := List.mem_filterMap.mp hk
    exact hd.foreignKey hr hkey

theorem script_eq_of_text_eq {d e : Diagram} (hd : d.Bare) (he : e.Bare)
    (h : d.script.text = e.script.text) : d.script = e.script := by
  have hread := Script.read?_text hd.script
  rw [h, Script.read?_text he.script] at hread
  exact (Option.some.inj hread).symm

/-- A diagram whose words are those of the statements. -/
def reserved : Diagram where
  id := none
  name := none
  dialect := none
  tables := [
    ⟨"1", "TABLE", false,
      [⟨"a", "NOT", "NULL", some 0, some (-3), some 7, false, some "DEFAULT", true⟩,
        ⟨"b", "PRIMARY", "KEY", some 12, none, some 4, true, some "", false⟩],
      [⟨none, "UNIQUE", true, ["b", "gone", "a"]⟩]⟩,
    ⟨"2", "INDEX", false, [], []⟩]
  relationships := [⟨none, "CONSTRAINT", ⟨"1", "a"⟩, ⟨"1", "b"⟩⟩]

/-- It differs in what a script does not show: a view, numbers that do not count, an empty default, and
an index and a relationship that do not resolve. -/
def reservedOtherwise : Diagram where
  id := some "2"
  name := none
  dialect := some .mysql
  tables := [
    ⟨"2", "VIEW", true, [], []⟩,
    ⟨"1", "TABLE", false,
      [⟨"a", "NOT", "NULL", none, some (-3), some 7, false, some "DEFAULT", true⟩,
        ⟨"b", "PRIMARY", "KEY", some 12, some 9, none, true, none, false⟩],
      [⟨none, "UNIQUE", true, ["b", "a"]⟩, ⟨none, "ON", false, ["gone"]⟩]⟩,
    ⟨"2", "INDEX", false, [], []⟩]
  relationships := [⟨none, "CONSTRAINT", ⟨"1", "a"⟩, ⟨"1", "b"⟩⟩, ⟨none, "ADD", ⟨"1", "a"⟩, ⟨"2", "b"⟩⟩]

def reservedUnkeyed : Diagram :=
  { reserved with tables := reserved.tables.map fun t =>
      { t with fields := t.fields.map fun f => { f with primaryKey := false } } }

end Diagram

end SchemaScript
