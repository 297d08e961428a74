import Mathlib.Data.Bool.AllAny
import Mathlib.Data.List.Forall2
import SchemaScript.Proofs.Diagram.Members
import SchemaScript.Proofs.Text.Blanks

/-! The texts that name a dialect, said without the form in which they are looked up. Of the ASCII texts
these are the spellings of the dialect, with letters in either case, with a hyphen or a space in the place
of an underscore, and with blanks around the whole; no other text is read. -/

namespace SchemaScript.Dialect

open Text (Blank Trimmed isBlank)

/-- The spellings of a dialect: its own name, and those in common use. -/
inductive Spelling : Dialect → String → Prop
  | name (d : Dialect) : Spelling d d.name
  | postgres : Spelling .postgresql "POSTGRES"
  | pg : Spelling .postgresql "PG"
  | mssql : Spelling .sqlServer "MSSQL"
  | sqlServer : Spelling .sqlServer "SQLSERVER"
  | sqlite3 : Spelling .sqlite "SQLITE3"

/-- A character that may be written for one of a spelling: the same but for its case, and a hyphen or a
space for an underscore. -/
def StandsFor (c x : Char) : Prop := c.toLower = x.toLower ∨ x = '_' ∧ (c = '-' ∨ c = ' ')

instance (c x : Char) : Decidable (StandsFor c x) :=
  inferInstanceAs (Decidable (c.toLower = x.toLower ∨ x = '_' ∧ (c = '-' ∨ c = ' ')))

/-- There are only characters of ASCII in the text. -/
def Ascii (s : String) : Prop := ∀ c ∈ s.toList, c.toNat < 128

instance (s : String) : Decidable (Ascii s) :=
  List.decidableBAll (fun c : Char => c.toNat < 128) s.toList

/-- The text is a spelling of the dialect, written out with blanks around it. -/
def WrittenAs (d : Dialect) (s : String) : Prop :=
  ∃ before word after, Blank before ∧ Blank after ∧ s.toList = before ++ (word ++ after) ∧
    ∃ w, Spelling d w ∧ List.Forall₂ StandsFor word w.toList

/-! Characters -/

/-- How a character is looked up, if it is one of ASCII. -/
def folded (c : Char) : Char := joinWords c.toUpper

theorem ascii_forall {p : Char → Prop} (h : ∀ n < 128, p (Char.ofNat n)) {c : Char}
    (hc : c.toNat < 128) : p c := by
  have hn := h c.toNat hc
  rwa [Char.ofNat_toNat] at hn

theorem toUpper_toLower {c : Char} (hc : c.toNat < 128) : c.toLower.toUpper = c.toUpper :=
  ascii_forall (p := fun c => c.toLower.toUpper = c.toUpper) (by decide) hc

theorem isBlank_toLower {c : Char} (hc : c.toNat < 128) : isBlank c.toLower = isBlank c :=
  ascii_forall (p := fun c => isBlank c.toLower = isBlank c) (by decide) hc

theorem standsFor_folded {c : Char} (hc : c.toNat < 128) : StandsFor c (folded c) :=
  ascii_forall (p := fun c => StandsFor c (folded c)) (by decide) hc

/-- A character that spellings are made of. -/
structure IsLetter (x : Char) : Prop where
  ascii : x.toNat < 128
  folded : folded x = x

instance (x : Char) : Decidable (IsLetter x) :=
  decidable_of_iff (x.toNat < 128 ∧ folded x = x) ⟨fun h => ⟨h.1, h.2⟩, fun h => ⟨h.1, h.2⟩⟩

theorem folded_eq_iff {c x : Char} (hc : c.toNat < 128) (hx : IsLetter x) :
    folded c = x ↔ StandsFor c x := by
  constructor
  · rintro rfl
    exact standsFor_folded hc
  · rintro (hcase | ⟨rfl, rfl | rfl⟩)
    · calc folded c = joinWords c.toLower.toUpper := by rw [toUpper_toLower hc, folded]
        _ = joinWords x.toLower.toUpper := by rw [hcase]
        _ = folded x := by rw [toUpper_toLower hx.ascii, folded]
        _ = x := hx.folded
    · decide
    · decide

theorem map_folded_eq_iff {cs xs : List Char} (hcs : ∀ c ∈ cs, c.toNat < 128)
    (hxs : ∀ x ∈ xs, IsLetter x) : cs.map folded = xs ↔ List.Forall₂ StandsFor cs xs := by
  induction cs generalizing xs with
  | nil => simp [eq_comm]
  | cons c cs ih =>
    obtain ⟨hc, hcs⟩ := List.forall_mem_cons.mp hcs
    cases xs with
    | nil => simp
    | cons x xs =>
      obtain ⟨hx, hxs⟩ := List.forall_mem_cons.mp hxs
      rw [List.map_cons, List.cons.injEq, List.forall₂_cons, folded_eq_iff hc hx, ih hcs hxs]

/-! Spellings -/

theorem mem_spellings_of_lookup {w : String} {d : Dialect} (h : spellings.lookup w = some d) :
    (w, d) ∈ spellings := by
  obtain ⟨front, back, hsplit, -⟩ := List.lookup_eq_some_iff.mp h
  simp [hsplit]

theorem lookup_spellings_eq_some_iff {w : String} {d : Dialect} :
    spellings.lookup w = some d ↔ Spelling d w := by
  constructor
  · intro h
    have hmem := mem_spellings_of_lookup h
    simp only [spellings, all, aliases, List.map_cons, List.map_nil, List.cons_append,
      List.nil_append, List.mem_cons, Prod.mk.injEq, List.not_mem_nil, or_false] at hmem
    rcases hmem with ⟨rfl, rfl⟩ | ⟨rfl, rfl⟩ | ⟨rfl, rfl⟩ | ⟨rfl, rfl⟩ | ⟨rfl, rfl⟩ | ⟨rfl, rfl⟩ |
      ⟨rfl, rfl⟩ | ⟨rfl, rfl⟩ | ⟨rfl, rfl⟩ | ⟨rfl, rfl⟩ | ⟨rfl, rfl⟩ <;> constructor
  · intro h
    cases h with
    | name => cases d <;> decide
    | postgres => decide
    | pg => decide
    | mssql => decide
    | sqlServer => decide
    | sqlite3 => decide

/-- What the whole table passes, each spelling passes. -/
theorem Spelling.passes {p : String → Bool} (hall : spellings.all fun x => p x.1) {d : Dialect}
    {w : String} (h : Spelling d w) : p w :=
  List.all_eq_true.mp hall (w, d) (mem_spellings_of_lookup (lookup_spellings_eq_some_iff.mpr h))

theorem Spelling.isLetter {d : Dialect} {w : String} (h : Spelling d w) :
    ∀ x ∈ w.toList, IsLetter x := by
  have hletters : w.toList.all fun x => decide (IsLetter x) :=
    h.passes (p := fun w => w.toList.all fun x => decide (IsLetter x)) (by decide)
  exact List.all_iff_forall_prop.mp hletters

/-- What stands for the character is no blank. -/
def isSolid (x : Char) : Bool := x != '_' && !isBlank x

/-- At both ends of a spelling there are letters or digits. -/
theorem Spelling.ends {d : Dialect} {w : String} (h : Spelling d w) :
    w.toList.head?.any isSolid ∧ w.toList.getLast?.any isSolid := by
  have hends : w.toList.head?.any isSolid && w.toList.getLast?.any isSolid :=
    h.passes (p := fun w => w.toList.head?.any isSolid && w.toList.getLast?.any isSolid) (by decide)
  exact Bool.and_eq_true_iff.mp hends

theorem StandsFor.isBlank_eq_false {c x : Char} (h : StandsFor c x) (hc : c.toNat < 128)
    (hx : x.toNat < 128) (hsolid : isSolid x) : isBlank c = false := by
  simp only [isSolid, Bool.and_eq_true, bne_iff_ne, Bool.not_eq_true'] at hsolid
  rcases h with hcase | ⟨hline, -⟩
  · rw [← isBlank_toLower hc, hcase, isBlank_toLower hx]
    exact hsolid.2
  · exact absurd hline hsolid.1

theorem exists_head_not_blank {cs xs : List Char} (h : List.Forall₂ StandsFor cs xs)
    (hcs : ∀ c ∈ cs, c.toNat < 128) (hxs : ∀ x ∈ xs, IsLetter x)
    (hsolid : xs.head?.any isSolid) : ∃ c rest, cs = c :: rest ∧ isBlank c = false := by
  cases h with
  | nil => cases hsolid
  | @cons c x cs xs hc _ =>
    have hletter := hxs x List.mem_cons_self
    exact ⟨c, cs, rfl, hc.isBlank_eq_false (hcs c List.mem_cons_self) hletter.ascii hsolid⟩

/-- Nothing is trimmed off a spelling that is written out. -/
theorem Spelling.trimmed {d : Dialect} {w : String} (h : Spelling d w) {word : List Char}
    (hword : List.Forall₂ StandsFor word w.toList) (hascii : ∀ c ∈ word, c.toNat < 128) :
    Trimmed word := by
  obtain ⟨hfirst, hlast⟩ := h.ends
  constructor
  · exact exists_head_not_blank hword hascii h.isLetter hfirst
  · -- the last character is the first one from behind
    rw [← List.head?_reverse] at hlast
    obtain ⟨c, rest, hreverse, hc⟩ := exists_head_not_blank (List.forall₂_reverse_iff.mpr hword)
      (fun c hc => hascii c (List.mem_reverse.mp hc))
      (fun x hx => h.isLetter x (List.mem_reverse.mp hx)) hlast
    exact ⟨c, rest.reverse, by rw [← List.reverse_cons, ← hreverse, List.reverse_reverse], hc⟩

/-- The form in which an ASCII text is looked up. -/
theorem toList_key {s : String} (hs : Ascii s) :
    (key s).toList = (Text.trim s.toList).map folded := by
  have hupper : ∀ c ∈ Text.trim s.toList, Text.upperChar c = [c.toUpper] := by
    intro c hc
    have hmem := (Text.trim_isInfix s.toList).subset hc
    rw [Text.upperChar, if_pos (hs c hmem)]
  rw [key, String.toList_ofList, List.flatMap_congr hupper, ← List.map_eq_flatMap, List.map_map]
  rfl

theorem parse?_eq_some_iff {s : String} (hs : Ascii s) (d : Dialect) :
    parse? s = some d ↔ d.WrittenAs s := by
  rw [parse?, lookup_spellings_eq_some_iff]
  have hascii : ∀ c ∈ Text.trim s.toList, c.toNat < 128 :=
    fun c hc => hs c ((Text.trim_isInfix s.toList).subset hc)
  constructor
  · intro h
    obtain ⟨before, after, hbefore, hafter, hsplit⟩ := Text.exists_surrounded s.toList
    refine ⟨before, Text.trim s.toList, after, hbefore, hafter, hsplit, key s, h, ?_⟩
    rw [← map_folded_eq_iff hascii h.isLetter, toList_key hs]
  · rintro ⟨before, word, after, hbefore, hafter, hsplit, w, hw, hword⟩
    have hmem : ∀ c ∈ word, c.toNat < 128 := fun c hc => hs c (by simp [hsplit, hc])
    have htrim : Text.trim s.toList = word := by
      rw [hsplit, Text.trim_surrounded hbefore (hw.trimmed hword hmem) hafter]
    have hkey : key s = w := by
      rw [← String.toList_inj, toList_key hs, htrim, map_folded_eq_iff hmem hw.isLetter]
      exact hword
    rwa [hkey]

/-- Of the ASCII texts exactly the spellings of a dialect are read as it, and every other is refused. The
name under which a diagram writes its dialect is one of them. -/
theorem parse?_reads_spellings {s : String} (hs : Ascii s) :
    (∀ d : Dialect, parse? s = some d ↔ d.WrittenAs s) ∧
      (parse? s = none ↔ ∀ d : Dialect, ¬ d.WrittenAs s) ∧
      ∀ (e : Diagram) (d : Dialect), e.dialect = some d → ∃ members name,
        e.toJson = .object members ∧ Json.member? "databaseType" members = some (.string name) ∧
          parse? name = some d := by
  refine ⟨parse?_eq_some_iff hs, ?_, ?_⟩
  · simp only [← parse?_eq_some_iff hs]
    exact Option.eq_none_iff_forall_ne_some
  · intro e d hd
    refine ⟨_, d.name, rfl, ?_, parse?_name d⟩
    rw [hd]
    rfl

-- Beyond ASCII other texts are read too: the upper case of the long s is an S.
example : parse? "po\u017ftgres" = some .postgresql := by decide +kernel

/-- A spelling with a hyphen, in two cases, and with two kinds of blanks around it. -/
theorem sqlServer_parse?_reads_spelling :
    Ascii "\x1cSql-server\t " ∧ sqlServer.WrittenAs "\x1cSql-server\t " ∧
      parse? "\x1cSql-server\t " = some .sqlServer := by
  have hascii : Ascii "\x1cSql-server\t " := by decide
  have hword : List.Forall₂ StandsFor "Sql-server".toList sqlServer.name.toList := by decide
  have hbefore : Blank ['\x1c'] := List.forall_mem_singleton.mpr (by decide)
  have hafter : Blank ['\t', ' '] :=
    List.forall_mem_cons.mpr ⟨by decide, List.forall_mem_singleton.mpr (by decide)⟩
  have hwritten : sqlServer.WrittenAs "\x1cSql-server\t " :=
    ⟨['\x1c'], "Sql-server".toList, ['\t', ' '], hbefore, hafter, by decide, _, .name _, hword⟩
  exact ⟨hascii, hwritten, ((parse?_reads_spellings hascii).1 _).mpr hwritten⟩

end SchemaScript.Dialect
