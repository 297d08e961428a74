import SchemaScript.Proofs.Json.RoundTrip
import SchemaScript.Proofs.Text.Blanks

/-! The characters of a printed text: it has no control characters but line feeds, for those that
strings hold are escaped. So reading a file as text, which unifies line ends, leaves it as it is. An
object begins and ends with a bracket, so that trimming its text takes nothing off. -/

namespace SchemaScript.Json

def IsTextChar (c : Char) : Prop := c = '\n' ∨ 0x20 ≤ c.toNat

theorem isTextChar_newline (indent : Nat) : ∀ c ∈ newline indent, IsTextChar c := by
  intro c hc
  simp only [newline, List.mem_cons, List.mem_replicate] at hc
  rcases hc with rfl | ⟨-, rfl⟩
  · exact .inl rfl
  · exact .inr (by decide)

theorem isTextChar_separated {gap : List Char} (hgap : ∀ c ∈ gap, IsTextChar c)
    {texts : List (List Char)} (h : ∀ t ∈ texts, ∀ c ∈ t, IsTextChar c) :
    ∀ c ∈ separated gap texts, IsTextChar c := by
  induction texts with
  | nil => simp [separated]
  | cons t texts ih =>
    have ht := h t List.mem_cons_self
    have hrest := ih fun u hu => h u (List.mem_cons_of_mem t hu)
    cases texts with
    | nil => simpa [separated] using ht
    | cons u texts =>
      intro c hc
      simp only [separated, List.intercalate_cons_cons, List.mem_append, List.mem_cons] at hc
      rcases hc with (hc | rfl | hc) | hc
      · exact ht c hc
      · exact .inr (by decide)
      · exact hgap c hc
      · exact hrest c hc

theorem isTextChar_printSequence {openMark closeMark : Char} (hopen : IsTextChar openMark)
    (hclose : IsTextChar closeMark) {indent : Nat} {texts : List (List Char)}
    (h : ∀ t ∈ texts, ∀ c ∈ t, IsTextChar c) :
    ∀ c ∈ printSequence openMark closeMark indent texts, IsTextChar c := by
  intro c hc
  cases texts with
  | nil =>
    simp only [printSequence, List.mem_cons, List.not_mem_nil, or_false] at hc
    rcases hc with rfl | rfl
    · exact hopen
    · exact hclose
  | cons t ts =>
    have hseparated := isTextChar_separated (isTextChar_newline (indent + 1)) h
    simp only [printSequence, List.append_assoc] at hc
    rw [← List.append_assoc t, ← separated_newline] at hc
    simp only [List.mem_cons, List.mem_append, List.not_mem_nil, or_false] at hc
    rcases hc with rfl | hc | hc | hc | rfl
    · exact hopen
    · exact isTextChar_newline _ c hc
    · exact hseparated c hc
    · exact isTextChar_newline _ c hc
    · exact hclose

theorem isTextChar_hexDigits {width n : Nat} : ∀ c ∈ Text.hexDigits width n, IsTextChar c := by
  have hdigit : ∀ d < 16, 0x20 ≤ (Text.hexDigit d).toNat := by decide
  induction width generalizing n with
  | zero => simp [Text.hexDigits]
  | succ width ih =>
    intro c hc
    rcases List.mem_append.mp hc with hc | hc
    · exact ih c hc
    · obtain rfl := List.mem_singleton.mp hc
      exact .inr (hdigit _ (Nat.mod_lt _ (by decide)))

theorem isTextChar_escapeChar {c : Char} : ∀ d ∈ escapeChar c, IsTextChar d := by
  unfold escapeChar
  split
  case h_8 =>
    split
    · intro d hd
      rcases List.mem_cons.mp hd with rfl | hd
      · exact .inr (by decide)
      · rcases List.mem_cons.mp hd with rfl | hd
        · exact .inr (by decide)
        · exact isTextChar_hexDigits d hd
    · rename_i hcontrol
      intro d hd
      obtain rfl := List.mem_singleton.mp hd
      exact .inr (by omega)
  all_goals simp [IsTextChar]

theorem isTextChar_printString {s : String} : ∀ c ∈ printString s, IsTextChar c := by
  intro c hc
  simp only [printString, List.mem_cons, List.mem_append, List.mem_flatMap, List.not_mem_nil,
    or_false] at hc
  rcases hc with rfl | ⟨d, -, hc⟩ | rfl
  · exact .inr (by decide)
  · exact isTextChar_escapeChar c hc
  · exact .inr (by decide)

theorem isTextChar_printInt {i : Int} : ∀ c ∈ printInt i, IsTextChar c := by
  have hdigits : ∀ c ∈ Nat.toDigits 10 i.natAbs, IsTextChar c := by
    intro c hc
    have hdigit := isDigit_of_mem_toDigits _ c hc
    simp only [Char.isDigit, Bool.and_eq_true, decide_eq_true_eq] at hdigit
    have hleast : 48 ≤ c.toNat := UInt32.le_iff_toNat_le.mp hdigit.1
    exact .inr (by omega)
  rcases printInt_cases i with ⟨-, hprint⟩ | ⟨-, hprint⟩
  · rw [hprint]
    intro c hc
    rcases List.mem_cons.mp hc with rfl | hc
    · exact .inr (by decide)
    · exact hdigits c hc
  · rwa [hprint]

theorem isTextChar_print {digits depth : Nat} {v : Json} (h : Plain digits depth v) {indent : Nat} :
    ∀ c ∈ print indent v, IsTextChar c := by
  induction h generalizing indent with
  | null => simp [print, IsTextChar]
  | bool b => cases b <;> simp [print, IsTextChar]
  | int => exact isTextChar_printInt
  | string => exact isTextChar_printString
  | array _ ih =>
    rw [print, printItems_eq_map]
    refine isTextChar_printSequence (.inr (by decide)) (.inr (by decide)) fun t ht => ?_
    obtain ⟨v, hv, rfl⟩ := List.mem_map.mp ht
    exact ih v hv
  | object _ ih =>
    rw [print, printMembers_eq_map]
    refine isTextChar_printSequence (.inr (by decide)) (.inr (by decide)) fun t ht => ?_
    obtain ⟨m, hm, rfl⟩ := List.mem_map.mp ht
    intro c hc
    simp only [printMember, List.mem_append, List.mem_cons] at hc
    rcases hc with hc | rfl | rfl | hc
    · exact isTextChar_printString c hc
    · exact .inr (by decide)
    · exact .inr (by decide)
    · exact ih m hm c hc

theorem return_notMem_print {digits depth : Nat} {v : Json} (h : Plain digits depth v)
    (indent : Nat) : '\r' ∉ print indent v := by
  intro hmem
  rcases isTextChar_print h _ hmem with hreturn | hreturn
  · exact absurd hreturn (by decide)
  · exact absurd hreturn (by decide)

theorem trimmed_printSequence {openMark closeMark : Char} (hopen : Text.isBlank openMark = false)
    (hclose : Text.isBlank closeMark = false) (indent : Nat) (texts : List (List Char)) :
    Text.Trimmed (printSequence openMark closeMark indent texts) := by
  cases texts with
  | nil => exact ⟨⟨openMark, _, rfl, hopen⟩, ⟨closeMark, [openMark], rfl, hclose⟩⟩
  | cons t ts =>
    refine ⟨⟨openMark, _, rfl, hopen⟩, ⟨closeMark, openMark :: (newline (indent + 1) ++ t
      ++ printMore (indent + 1) ts ++ newline indent), ?_, hclose⟩⟩
    simp [printSequence]

theorem trimmed_print_object (indent : Nat) (members : List (String × Json)) :
    Text.Trimmed (print indent (.object members)) := by
  rw [print]
  exact trimmed_printSequence (by decide) (by decide) indent _

end SchemaScript.Json
