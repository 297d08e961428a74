import SchemaScript.Files.Tree
import SchemaScript.Proofs.Text.Utf8

/-! What a write leaves in a tree. A path is followed through directories only, and no write replaces
one, so the path a file was written under still leads to that file; and where a path leads to a file,
the path without its last name leads to a directory, so that none has to be made to write it again.
What a file holds counts by its bytes: whether they are kept as a text or not, they are read as the
text they encode. -/

namespace SchemaScript

/-- A file is read as the text its bytes encode. -/
theorem Content.read_of_toBytes {c : Content} {s : String} (h : c.toBytes = Text.utf8 s) :
    c.read = .ok (String.ofList (Text.unifyNewlines s.toList)) := by
  cases c with
  | text s' => rw [Text.utf8_inj h, read]
  | bytes bs =>
    have hbs : bs = Text.utf8 s := h
    rw [hbs, read, Text.decode_utf8]

theorem Path.hasNull_parent {p : Path} (h : p.hasNull = false) : p.parent.hasNull = false := by
  simp only [hasNull, parent, List.any_eq_false] at h ⊢
  exact fun n hn => h n (List.dropLast_subset p.names hn)

theorem Path.utf8ByteSize_intercalate_dropLast (names : List String) :
    ("/".intercalate names.dropLast).utf8ByteSize ≤ ("/".intercalate names).utf8ByteSize := by
  by_cases hnames : names = []
  · simp [hnames]
  by_cases hfirst : names.dropLast = []
  · simp [hfirst]
  · rw [← List.dropLast_concat_getLast hnames,
      String.intercalate_append_of_ne_nil (by simpa using hfirst) (by simp)]
    simp only [List.dropLast_concat, String.utf8ByteSize_append]
    omega

/-- The parent of a path is written no longer, unless it is the dot. -/
theorem Path.utf8ByteSize_text_parent (p : Path) :
    p.parent.text.utf8ByteSize ≤ max 1 p.text.utf8ByteSize := by
  by_cases hempty : p.root = "" ∧ p.parent.names = []
  · have htext : p.parent.text = "." := if_pos hempty
    rw [htext]
    exact Nat.le_max_left _ _
  · have hnames : ¬ (p.root = "" ∧ p.names = []) := by
      rintro ⟨hroot, hnil⟩
      exact hempty ⟨hroot, by simp [parent, hnil]⟩
    have hparent : p.parent.text = p.root ++ "/".intercalate p.names.dropLast := if_neg hempty
    have htext : p.text = p.root ++ "/".intercalate p.names := if_neg hnames
    have hshorter := utf8ByteSize_intercalate_dropLast p.names
    rw [hparent, htext, String.utf8ByteSize_append, String.utf8ByteSize_append]
    omega

namespace FileTree

/-! Following a path -/

theorem follow_cons_eq_ok_iff {t : FileTree} {here last : Location} {name : String}
    {names : List String} : t.follow here (name :: names) = .ok last ↔
      ∃ next, t.step here name = .ok next ∧ t.follow next names = .ok last := by
  unfold follow
  rw [List.foldlM_cons]
  cases t.step here name <;> simp [bind, Except.bind]

theorem locate_eq_ok_iff {t : FileTree} {directory l : Location} {p : Path} :
    t.locate directory p = .ok l ↔ p.hasNull = false ∧ p.text.utf8ByteSize ≤ pathLimit ∧
      t.follow (if p.isAbsolute then [] else directory) p.names = .ok l := by
  unfold locate
  split
  · simp [*]
  · split
    · have hlong : ¬ p.text.utf8ByteSize ≤ pathLimit := by omega
      simp [hlong]
    · simp_all

theorem find_eq_ok_iff {t : FileTree} {directory : Location} {p : Path} {n : Node} :
    t.find directory p = .ok n ↔ ∃ l, t.locate directory p = .ok l ∧ t.node? l = some n := by
  unfold find
  cases t.locate directory p with
  | error e => simp [bind, Except.bind]
  | ok l =>
    simp only [bind, Except.bind, Except.ok.injEq, exists_eq_left']
    cases t.node? l <;> simp

theorem node?_of_step {t : FileTree} {here next : Location} {name : String}
    (h : t.step here name = .ok next) : t.node? here = some .directory := by
  unfold step at h
  split at h
  · cases h
  · cases h
  · assumption

/-! Writing -/

theorem lookup_filter_ne {nodes : List (Location × Node)} {k l : Location} (h : k ≠ l) :
    (nodes.filter (·.1 != l)).lookup k = nodes.lookup k := by
  induction nodes with
  | nil => rfl
  | cons e nodes ih =>
    obtain ⟨m, n⟩ := e
    by_cases hm : m = l
    · have hk : (k == m) = false := by simpa [hm] using h
      simp [hm, ih, List.lookup_cons, hm ▸ hk]
    · simp [hm, ih, List.lookup_cons]

theorem node?_put_self (t : FileTree) {l : Location} (hl : l ≠ []) (n : Node) :
    (t.put l n).node? l = some n := by
  cases l with
  | nil => exact absurd rfl hl
  | cons name l => simp [node?, put]

theorem node?_put_of_ne (t : FileTree) {k l : Location} (h : k ≠ l) (n : Node) :
    (t.put l n).node? k = t.node? k := by
  cases k with
  | nil => rfl
  | cons name k =>
    have hk : (name :: k == l) = false := by simpa using h
    simp only [node?, put, List.lookup_cons, hk, lookup_filter_ne h]

/-- Where a path leads does not depend on a location that is no directory. -/
theorem follow_put {t : FileTree} {l : Location} (hl : t.node? l ≠ some .directory) (n : Node)
    {names : List String} {here last : Location} (h : t.follow here names = .ok last) :
    (t.put l n).follow here names = .ok last := by
  induction names generalizing here with
  | nil => exact h
  | cons name names ih =>
    obtain ⟨next, hstep, hrest⟩ := follow_cons_eq_ok_iff.mp h
    have hhere : here ≠ l := by
      rintro rfl
      exact hl (node?_of_step hstep)
    have hsame : (t.put l n).step here name = .ok next := by
      rw [← hstep, step, step, node?_put_of_ne t hhere]
    exact follow_cons_eq_ok_iff.mpr ⟨next, hsame, ih hrest⟩

theorem locate_put {t : FileTree} {directory l last : Location} {p : Path}
    (hl : t.node? l ≠ some .directory) (n : Node) (h : t.locate directory p = .ok last) :
    (t.put l n).locate directory p = .ok last := by
  obtain ⟨hnull, hlimit, hfollow⟩ := locate_eq_ok_iff.mp h
  exact locate_eq_ok_iff.mpr ⟨hnull, hlimit, follow_put hl n hfollow⟩

/-- An update makes a file of what is where the path leads, which is a file already or nothing. -/
theorem put_of_update {t t' : FileTree} {directory : Location} {p : Path} {f : Option Content → Content}
    (h : t.update directory p f = .ok t') :
    ∃ l c, t.locate directory p = .ok l ∧ t.node? l = c.map .file ∧ t' = t.put l (.file (f c)) := by
  unfold update at h
  cases hl : t.locate directory p with
  | error e =>
    rw [hl] at h
    cases h
  | ok l =>
    rw [hl] at h
    simp only [bind, Except.bind] at h
    split at h
    · cases h
    · rename_i c hnode
      cases h
      exact ⟨l, some c, rfl, hnode, rfl⟩
    · rename_i hnode
      split at h
      · cases h
        exact ⟨l, none, rfl, hnode, rfl⟩
      · cases h
      · cases h

theorem ne_directory_of_map_file {n : Option Node} {c : Option Content} (h : n = c.map .file) :
    n ≠ some .directory := by
  cases c <;> simp [h]

/-- A write puts the text where the path leads, in a place that is no directory. -/
theorem put_of_write {t t' : FileTree} {directory : Location} {p : Path} {s : String}
    (h : t.write directory p s = .ok t') :
    ∃ l, t.locate directory p = .ok l ∧ t.node? l ≠ some .directory ∧
      t' = t.put l (.file (.text s)) := by
  obtain ⟨l, c, hlocate, hnode, ht⟩ := put_of_update h
  exact ⟨l, hlocate, ne_directory_of_map_file hnode, ht⟩

/-- The path that a text was written under leads to a file with this text. -/
theorem find_of_write {t t' : FileTree} {directory : Location} {p : Path} {s : String}
    (h : t.write directory p s = .ok t') : t'.find directory p = .ok (.file (.text s)) := by
  obtain ⟨l, hlocate, hnode, rfl⟩ := put_of_write h
  have hl : l ≠ [] := by
    rintro rfl
    exact hnode rfl
  exact find_eq_ok_iff.mpr ⟨l, locate_put hnode _ hlocate, node?_put_self t hl _⟩

/-- A path that leads to a file is read as that file. -/
theorem read_of_find {t : FileTree} {directory : Location} {p : Path} {c : Content}
    (h : t.find directory p = .ok (.file c)) :
    t.contains directory p = .ok true ∧ t.read directory p = c.read := by
  constructor
  · rw [contains, h]
  · rw [read, h]
    rfl

/-! Where a file is already -/

/-- All but the last name lead to a directory. -/
theorem follow_dropLast {t : FileTree} {here last : Location} {names : List String}
    (h : t.follow here names = .ok last) (hnames : names ≠ []) :
    ∃ k, t.follow here names.dropLast = .ok k ∧ t.node? k = some .directory := by
  induction names generalizing here with
  | nil => exact absurd rfl hnames
  | cons name names ih =>
    obtain ⟨next, hstep, hrest⟩ := follow_cons_eq_ok_iff.mp h
    cases names with
    | nil => exact ⟨here, rfl, node?_of_step hstep⟩
    | cons name' names =>
      obtain ⟨k, hk, hdirectory⟩ := ih hrest (by simp)
      exact ⟨k, follow_cons_eq_ok_iff.mpr ⟨next, hstep, hk⟩, hdirectory⟩

theorem find_parent {t : FileTree} {directory : Location} {p : Path} {n : Node}
    (h : t.find directory p = .ok n) (hnames : p.names ≠ []) :
    t.find directory p.parent = .ok .directory := by
  obtain ⟨l, hlocate, -⟩ := find_eq_ok_iff.mp h
  obtain ⟨hnull, hlimit, hfollow⟩ := locate_eq_ok_iff.mp hlocate
  obtain ⟨k, hparent, hk⟩ := follow_dropLast hfollow hnames
  have hshorter := p.utf8ByteSize_text_parent
  have hone : 1 ≤ pathLimit := by decide
  have hparentLimit : p.parent.text.utf8ByteSize ≤ pathLimit := by omega
  exact find_eq_ok_iff.mpr
    ⟨k, locate_eq_ok_iff.mpr ⟨Path.hasNull_parent hnull, hparentLimit, hparent⟩, hk⟩

theorem ensureDirectory_of_find {t : FileTree} {directory : Location} {p : Path}
    (h : t.find directory p = .ok .directory) : t.ensureDirectory directory p = .ok t := by
  obtain ⟨l, hlocate, hnode⟩ := find_eq_ok_iff.mp h
  have hmake : t.makeDirectory directory p = .error .alreadyExists := by
    simp only [makeDirectory, hlocate, bind, Except.bind, hnode]
  simp only [ensureDirectory, hmake, h]

/-- Nothing has to be made where a directory is. -/
theorem ensureDirectories_of_find {t : FileTree} {directory : Location} {p : Path}
    (h : t.find directory p = .ok .directory) : t.ensureDirectories directory p = .ok t := by
  have hensure := ensureDirectory_of_find h
  unfold ensureDirectories
  cases hnames : p.names.reverse with
  | nil =>
    have hp : (⟨p.root, []⟩ : Path) = p := by
      rw [← List.reverse_eq_nil_iff.mp hnames]
    rw [ensureAbove, hp, hensure]
  | cons n above =>
    have hp : (⟨p.root, (n :: above).reverse⟩ : Path) = p := by
      rw [← hnames, List.reverse_reverse]
    rw [ensureAbove, hp, hensure]

/-- A file that is there is replaced. -/
theorem exists_write_of_find {t : FileTree} {directory : Location} {p : Path} {c : Content}
    (h : t.find directory p = .ok (.file c)) (s : String) : ∃ t', t.write directory p s = .ok t' := by
  obtain ⟨l, hlocate, hnode⟩ := find_eq_ok_iff.mp h
  exact ⟨t.put l (.file (.text s)), by simp only [write, update, hlocate, bind, Except.bind, hnode]⟩

end FileTree

end SchemaScript
