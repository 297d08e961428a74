import SchemaScript.Proofs.Json.Scalars
import SchemaScript.Proofs.Script.Printing

/-! Reading a column back from its line, if its words are bare: made of ASCII letters, digits and
underscores. What follows the type are clauses that no other can be taken for, each known by the
letter after its space, up to the comma or the line end behind the column. -/

namespace SchemaScript.Script

open Json (Stops Reads Opens Space separated literal? readSequence)

/-! Readers -/

/-- Takes a value off the front of a text. -/
abbrev Reader (α : Type) := StateT (List Char) Option α

theorem bind_eq_of_reads {m : Reader α} {f : α → Reader β} {cs rest : List Char} {a : α}
    (h : m cs = some (a, rest)) : (m >>= f) cs = f a rest := by
  simp only [bind, StateT.bind, h, Option.bind_some]

def literal (word : String) : Reader Unit := fun cs => (literal? word.toList cs).map ((), ·)

theorem literal_append (word : String) (rest : List Char) :
    literal word (word.toList ++ rest) = some ((), rest) := by
  simp [literal, literal?]

/-- Reads items with commas between them, up to the closing bracket. -/
def readList (item : Reader α) : Reader (List α) := fun cs => readSequence ')' item cs.length cs

theorem toList_commas (texts : List String) :
    (", ".intercalate texts).toList = separated [' '] (texts.map String.toList) := by
  simp [separated]

theorem readList_commas {item : Reader α} {text : α → String} {as : List α}
    (hreads : ∀ a ∈ as, Reads item (text a).toList a) (rest : List Char) :
    readList item ((", ".intercalate (as.map text)).toList ++ ')' :: rest) = some (as, rest) := by
  have hgap : Space [' '] := by simp [Space, Json.isSpace]
  have hempty : Space [] := by simp [Space]
  have hclose : Json.IsCloser ')' := .inl rfl
  refine Json.readSequence_of_separated hempty hgap hempty hclose (Json.stops_closer hclose) hreads ?_
  rw [toList_commas, List.map_map]
  rfl

/-! Words -/

def isBareChar (c : Char) : Bool := c.isAlphanum || c == '_'

/-- A word that needs no quotes. -/
def BareWord (s : String) : Prop := s ≠ "" ∧ s.toList.all isBareChar = true

instance (s : String) : Decidable (BareWord s) :=
  inferInstanceAs (Decidable (s ≠ "" ∧ s.toList.all isBareChar = true))

/-- A word ends here. -/
def Ends (cs : List Char) : Prop := ∀ c ∈ cs.head?, isBareChar c = false

def readWord : Reader String := fun cs =>
  let word := cs.takeWhile isBareChar
  if word.isEmpty then none else some (String.ofList word, cs.dropWhile isBareChar)

theorem ends_cons {c : Char} (hc : isBareChar c = false) (cs : List Char) : Ends (c :: cs) := by
  rintro d ⟨⟩
  exact hc

theorem ends_literal {word : String} {c : Char} (h : word.toList.head? = some c)
    (hc : isBareChar c = false) (rest : List Char) : Ends (word.toList ++ rest) := by
  obtain ⟨more, hmore⟩ := List.head?_eq_some_iff.mp h
  rw [hmore]
  exact ends_cons hc _

theorem ends_space {word : String} (h : word.toList.head? = some ' ') (rest : List Char) :
    Ends (word.toList ++ rest) := ends_literal h (by decide) rest

theorem ends_bracket {word : String} (h : word.toList.head? = some ')') (rest : List Char) :
    Ends (word.toList ++ rest) := ends_literal h (by decide) rest

theorem ends_of_stops {cs : List Char} (h : Stops cs) : Ends cs := by
  intro c hc
  rcases h c hc with rfl | rfl | rfl | rfl | rfl <;> decide

theorem readWord_append {s : String} (hs : BareWord s) {rest : List Char} (hrest : Ends rest) :
    readWord (s.toList ++ rest) = some (s, rest) := by
  obtain ⟨htake, hdrop⟩ := Json.span_append (List.all_eq_true.mp hs.2) hrest
  have hne : s.toList.isEmpty = false := by simpa using hs.1
  simp only [readWord, htake, hdrop, hne, Bool.false_eq_true, if_false, String.ofList_toList]

theorem BareWord.opens {s : String} (hs : BareWord s) : Opens s.toList := by
  obtain ⟨c, cs, hcs⟩ := List.exists_cons_of_ne_nil (mt String.toList_eq_nil_iff.mp hs.1)
  have hc : isBareChar c = true := List.all_eq_true.mp hs.2 c (by simp [hcs])
  refine ⟨c, cs, hcs, ?_, ?_⟩
  · by_contra hspace
    simp only [Json.isSpace, Bool.not_eq_false, Bool.or_eq_true, beq_iff_eq] at hspace
    rcases hspace with ((rfl | rfl) | rfl) | rfl <;> revert hc <;> decide
  · rintro (rfl | rfl | rfl) <;> revert hc <;> decide

theorem reads_word {s : String} (hs : BareWord s) : Reads readWord s.toList s :=
  ⟨hs.opens, fun _ hrest => readWord_append hs (ends_of_stops hrest)⟩

/-! Sizes -/

def readInt : Reader Int := fun cs =>
  match Json.readScalar ⟨0, cs.length⟩ cs with
  | some (.int i, rest) => some (i, rest)
  | _ => none

theorem toList_toString (i : Int) : (toString i).toList = Json.printInt i := by
  cases i <;> simp [Json.printInt, Int.toString_eq_repr, Int.repr]

theorem reads_toString (i : Int) : Reads readInt (toString i).toList i := by
  have hlength : (Nat.toDigits 10 i.natAbs).length ≤ (Json.printInt i).length := by
    rcases Json.printInt_cases i with ⟨-, hprint⟩ | ⟨-, hprint⟩ <;> simp [hprint]
  have hreads (limit : Nat) (h : (Nat.toDigits 10 i.natAbs).length ≤ limit) :
      Reads (Json.readScalar ⟨0, limit⟩) (Json.printInt i) (.int i) := Json.reads_printInt h
  rw [toList_toString]
  refine ⟨(hreads _ hlength).opens, fun rest hrest => ?_⟩
  have hread := (hreads (Json.printInt i ++ rest).length (by simp; omega)).reads rest hrest
  rw [readInt, hread]

def sizeText (size : List Int) : String :=
  if (size.map toString).isEmpty then "" else "(" ++ ", ".intercalate (size.map toString) ++ ")"

def readSize : Reader (List Int) := fun cs =>
  match cs with
  | '(' :: cs => readList readInt cs
  | cs => some ([], cs)

theorem readSize_append (size : List Int) {rest : List Char} (hrest : rest.head? ≠ some '(') :
    readSize ((sizeText size).toList ++ rest) = some (size, rest) := by
  cases size with
  | nil =>
    have hempty : (sizeText []).toList = [] := rfl
    rw [hempty, List.nil_append]
    unfold readSize
    split
    · simp at hrest
    · rfl
  | cons i size =>
    have htext : (sizeText (i :: size)).toList ++ rest =
        '(' :: ((", ".intercalate ((i :: size).map toString)).toList ++ ')' :: rest) := by
      simp [sizeText]
    rw [htext, readSize]
    exact readList_commas (fun j _ => reads_toString j) rest

theorem ends_sizeText (size : List Int) {rest : List Char} (hrest : Ends rest) :
    Ends ((sizeText size).toList ++ rest) := by
  cases size with
  | nil => exact hrest
  | cons i size =>
    obtain ⟨more, hmore⟩ : ∃ more, (sizeText (i :: size)).toList = '(' :: more := by simp [sizeText]
    rw [hmore]
    exact ends_cons (by decide) _

/-! Clauses -/

theorem literal?_eq_none {word cs : List Char} (h : ¬ word <+: cs) : literal? word cs = none := by
  simp [literal?, h]

def clauseText (word : String) (present : Bool) : String := if present then word else ""

def readClause (word : String) : Reader Bool := fun cs =>
  match literal? word.toList cs with
  | some rest => some (true, rest)
  | none => some (false, cs)

theorem readClause_append {word : String} {rest : List Char} (h : ¬ word.toList <+: rest)
    (present : Bool) :
    readClause word ((clauseText word present).toList ++ rest) = some (present, rest) := by
  cases present with
  | false => simp [readClause, clauseText, literal?_eq_none h]
  | true => simp [readClause, clauseText, literal?]

def defaultText : Option String → String
  | some value => " DEFAULT " ++ value
  | none => ""

def readDefault : Reader (Option String) := do
  if ← readClause " DEFAULT " then
    let value ← readWord
    pure (some value)
  else pure none

theorem readDefault_append {default : Option String} (hdefault : ∀ value ∈ default, BareWord value)
    {rest : List Char} (h : ¬ " DEFAULT ".toList <+: rest) (hends : Ends rest) :
    readDefault ((defaultText default).toList ++ rest) = some (default, rest) := by
  cases default with
  | none =>
    have hclause : readClause " DEFAULT " rest = some (false, rest) := readClause_append h false
    have hempty : (defaultText none).toList = [] := rfl
    rw [hempty, List.nil_append, readDefault, bind_eq_of_reads hclause]
    rfl
  | some value =>
    have hvalue : BareWord value := hdefault value rfl
    have hclause : readClause " DEFAULT " (" DEFAULT ".toList ++ (value.toList ++ rest)) =
        some (true, value.toList ++ rest) := by simp [readClause, literal?]
    rw [defaultText, String.toList_append, List.append_assoc, readDefault, bind_eq_of_reads hclause,
      if_pos rfl, bind_eq_of_reads (readWord_append hvalue hends)]
    rfl

/-- The text begins with a space and this letter. -/
def Begins (c : Char) (cs : List Char) : Prop := ∃ rest, cs = ' ' :: c :: rest

/-- Either the column ends here, or a clause follows that has one of these letters behind its space. -/
def Continues (letters : List Char) (cs : List Char) : Prop := Stops cs ∨ ∃ c ∈ letters, Begins c cs

theorem begins_clauseText {word : String} {c : Char} (hword : Begins c word.toList) (present : Bool) :
    (clauseText word present).toList = [] ∨ Begins c (clauseText word present).toList := by
  cases present with
  | false => exact .inl rfl
  | true => exact .inr hword

theorem begins_defaultText (default : Option String) :
    (defaultText default).toList = [] ∨ Begins 'D' (defaultText default).toList := by
  cases default with
  | none => exact .inl rfl
  | some value => exact .inr (by simp [defaultText, Begins])

section Continues

variable {letters : List Char} {cs : List Char} (h : Continues letters cs)

include h

theorem Continues.append {text : List Char} {c : Char} (htext : text = [] ∨ Begins c text) :
    Continues (c :: letters) (text ++ cs) := by
  rcases htext with rfl | ⟨more, rfl⟩
  · rcases h with hstops | ⟨d, hd, hbegins⟩
    · exact .inl hstops
    · exact .inr ⟨d, List.mem_cons_of_mem c hd, hbegins⟩
  · exact .inr ⟨c, List.mem_cons_self, more ++ cs, rfl⟩

theorem Continues.not_prefix {c : Char} (hc : c ∉ letters) {word : List Char} (hword : Begins c word) :
    ¬ word <+: cs := by
  obtain ⟨more, rfl⟩ := hword
  rintro ⟨rest, rfl⟩
  rcases h with hstops | ⟨d, hd, tail, htail⟩
  · have hspace := hstops ' ' rfl
    revert hspace
    simp [Json.IsCloser]
  · have hletter : c = d := by simp_all
    exact hc (hletter ▸ hd)

theorem Continues.ends : Ends cs := by
  rcases h with hstops | ⟨c, -, rest, rfl⟩
  · exact ends_of_stops hstops
  · exact ends_cons (by decide) _

theorem Continues.not_bracket : cs.head? ≠ some '(' := by
  rcases h with hstops | ⟨c, -, rest, rfl⟩
  · intro hbracket
    have hstop := hstops '(' hbracket
    revert hstop
    simp [Json.IsCloser]
  · simp

end Continues

/-! Columns -/

/-- All that a column shows beside its size are bare words. -/
structure Column.Bare (c : Column) : Prop where
  name : BareWord c.name
  type : BareWord c.type
  default : ∀ value ∈ c.default, BareWord value

-- Without that, a default could end as the clause behind it does.
example : (⟨"a", "b", [], true, some "0 PRIMARY KEY", false⟩ : Column).text =
    (⟨"a", "b", [], true, some "0", true⟩ : Column).text := by decide

def readColumn : Reader Column := do
  let name ← readWord
  literal " "
  let type ← readWord
  let size ← readSize
  let notNull ← readClause " NOT NULL"
  let default ← readDefault
  let primaryKey ← readClause " PRIMARY KEY"
  pure ⟨name, type, size, !notNull, default, primaryKey⟩

theorem columnText_eq (c : Column) :
    c.text = c.name ++ " " ++ c.type ++ sizeText c.size ++ clauseText " NOT NULL" (!c.nullable)
      ++ defaultText c.default ++ clauseText " PRIMARY KEY" c.primaryKey := by
  have hnull : clauseText " NOT NULL" (!c.nullable) = if c.nullable then "" else " NOT NULL" := by
    cases c.nullable <;> rfl
  rw [hnull]
  rfl

theorem reads_column {c : Column} (hc : c.Bare) : Reads readColumn c.text.toList c := by
  have hkeyWord : Begins 'P' " PRIMARY KEY".toList := ⟨_, rfl⟩
  have hnullWord : Begins 'N' " NOT NULL".toList := ⟨_, rfl⟩
  have hdefaultWord : Begins 'D' " DEFAULT ".toList := ⟨_, rfl⟩
  simp only [columnText_eq, String.toList_append, List.append_assoc]
  refine ⟨hc.name.opens.append _, fun rest hrest => ?_⟩
  -- From the end of the line to the type, what may follow gains one clause after the other.
  have hend : Continues [] rest := .inl hrest
  have hkey := hend.append (begins_clauseText hkeyWord c.primaryKey)
  have hdefault := hkey.append (begins_defaultText c.default)
  have hnull := hdefault.append (begins_clauseText hnullWord (!c.nullable))
  have hnotNull := readClause_append (hdefault.not_prefix (by decide) hnullWord) (!c.nullable)
  have hvalue := readDefault_append hc.default (hkey.not_prefix (by decide) hdefaultWord) hkey.ends
  have hprimary := readClause_append (hend.not_prefix (by decide) hkeyWord) c.primaryKey
  simp only [List.append_assoc]
  rw [readColumn, bind_eq_of_reads (readWord_append hc.name (ends_space (by decide) _)),
    bind_eq_of_reads (literal_append " " _),
    bind_eq_of_reads (readWord_append hc.type (ends_sizeText _ hnull.ends)),
    bind_eq_of_reads (readSize_append _ hnull.not_bracket), bind_eq_of_reads hnotNull,
    bind_eq_of_reads hvalue, bind_eq_of_reads hprimary, Bool.not_not]
  rfl

end SchemaScript.Script
