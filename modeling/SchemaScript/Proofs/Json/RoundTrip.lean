import SchemaScript.Proofs.Json.Scalars

/-! Values are read back from the texts they are written as, as long as they hold no floating-point
number, no integer of more digits than the reader takes, and are not nested deeper than it follows. -/

namespace SchemaScript.Json

/-- A value without floating-point numbers, whose integers have so many digits at most and that is
nested so deep at most. -/
inductive Plain (digits : Nat) : Nat → Json → Prop
  | null {depth : Nat} : Plain digits depth .null
  | bool {depth : Nat} (b : Bool) : Plain digits depth (.bool b)
  | int {depth : Nat} {i : Int} : digitCount i ≤ digits → Plain digits depth (.int i)
  | string {depth : Nat} (s : String) : Plain digits depth (.string s)
  | array {depth : Nat} {items : List Json} :
      (∀ v ∈ items, Plain digits depth v) → Plain digits (depth + 1) (.array items)
  | object {depth : Nat} {members : List (String × Json)} :
      (∀ m ∈ members, Plain digits depth m.2) → Plain digits (depth + 1) (.object members)

def printMember (indent : Nat) (m : String × Json) : List Char :=
  printString m.1 ++ ':' :: ' ' :: print indent m.2

theorem printItems_eq_map (indent : Nat) (vs : List Json) :
    printItems indent vs = vs.map (print indent) := by
  induction vs with
  | nil => rfl
  | cons v vs ih => simp [printItems, ih]

theorem printMembers_eq_map (indent : Nat) (ms : List (String × Json)) :
    printMembers indent ms = ms.map (printMember indent) := by
  induction ms with
  | nil => rfl
  | cons m ms ih => simp [printMembers, printMember, ih]

theorem separated_newline (indent : Nat) (t : List Char) (ts : List (List Char)) :
    separated (newline indent) (t :: ts) = t ++ printMore indent ts := by
  induction ts generalizing t with
  | nil => simp [separated, printMore]
  | cons u ts ih =>
    simp only [separated, List.intercalate_cons_cons, printMore] at ih ⊢
    simp [ih]

theorem space_newline (indent : Nat) : Space (newline indent) := by
  intro c hc
  simp only [newline, List.mem_cons, List.mem_replicate] at hc
  rcases hc with rfl | ⟨-, rfl⟩ <;> decide

theorem stops_newline (indent : Nat) (cs : List Char) : Stops (newline indent ++ cs) := by
  simp [Stops, newline]

/-- A printed sequence is read back between its brackets. -/
theorem readSequence_printSequence {item : List Char → Option (α × List Char)} {f : α → List Char}
    (openMark : Char) {closeMark : Char} (hclose : IsCloser closeMark) (indent : Nat) {as : List α}
    (hreads : ∀ a ∈ as, Reads item (f a) a) {bound : Nat} (hbound : as.length ≤ bound)
    (rest : List Char) :
    ∃ cs, printSequence openMark closeMark indent (as.map f) ++ rest = openMark :: cs ∧
      readSequence closeMark item bound cs = some (as, rest) := by
  cases as with
  | nil =>
    refine ⟨closeMark :: rest, rfl, ?_⟩
    simp [readSequence, skipSpace_cons hclose.not_space]
  | cons a as =>
    have hread := readSequence_separated (space_newline (indent + 1)) (space_newline (indent + 1))
      (space_newline indent) hclose (fun cs => stops_newline indent (closeMark :: cs)) hreads hbound rest
    refine ⟨_, ?_, hread⟩
    simp [printSequence, separated_newline]

theorem length_printSequence_cons (openMark closeMark : Char) (indent : Nat) (t : List Char)
    (ts : List (List Char)) :
    (separated (newline (indent + 1)) (t :: ts)).length ≤
      (printSequence openMark closeMark indent (t :: ts)).length := by
  simp only [printSequence, separated_newline, List.length_cons, List.length_append]
  omega

theorem length_le_length_printSequence (openMark closeMark : Char) (indent : Nat)
    {texts : List (List Char)} {t : List Char} (ht : t ∈ texts) :
    t.length ≤ (printSequence openMark closeMark indent texts).length := by
  cases texts with
  | nil => simp at ht
  | cons u us =>
    exact Nat.le_trans (length_le_length_separated _ ht) (length_printSequence_cons _ _ indent u us)

theorem length_le_of_printSequence (openMark closeMark : Char) (indent : Nat)
    {texts : List (List Char)} (h : ∀ t ∈ texts, t ≠ []) :
    texts.length ≤ (printSequence openMark closeMark indent texts).length := by
  cases texts with
  | nil => simp
  | cons u us =>
    exact Nat.le_trans (length_le_of_separated _ h) (length_printSequence_cons _ _ indent u us)

theorem reads_printMember {value : List Char → Option (Json × List Char)} {indent : Nat}
    {m : String × Json} (h : Reads value (print indent m.2) m.2) :
    Reads (readMember value) (printMember indent m) m := by
  refine ⟨⟨'"', _, rfl, by decide, by simp [IsCloser]⟩, fun rest hrest => ?_⟩
  have hgap : Space [' '] := by simp [Space, isSpace]
  have hspace : skipSpace (' ' :: (print indent m.2 ++ rest)) = print indent m.2 ++ rest :=
    (skipSpace_append hgap _).trans (h.opens.skipSpace_append rest)
  simp [printMember, printString, readMember, readString_printed, hspace, h.reads rest hrest,
    skipSpace_cons (show isSpace ':' = false by decide)]

/-- Where no bracket opens a sequence, the depth that is left does not matter. -/
theorem reads_of_readScalar {limits : Limits} {bound depth : Nat} {text : List Char} {v : Json}
    (h : Reads (readScalar limits) text v) (harray : text.head? ≠ some '[')
    (hobject : text.head? ≠ some '\x7b') : Reads (readValue limits bound depth) text v := by
  refine ⟨h.opens, fun rest hrest => ?_⟩
  have hscalar := h.reads rest hrest
  obtain ⟨c, cs, rfl, -⟩ := h.opens
  cases depth with
  | zero => exact hscalar
  | succ depth =>
    rw [List.cons_append] at hscalar ⊢
    unfold readValue
    split <;> simp_all

theorem reads_printSequence {limits : Limits} {bound depth indent : Nat}
    {item : List Char → Option (α × List Char)} {f : α → List Char} {wrap : List α → Json}
    {openMark closeMark : Char}
    (hvalue : ∀ cs, readValue limits bound (depth + 1) (openMark :: cs) =
      (readSequence closeMark item bound cs).map fun (as, rest) => (wrap as, rest))
    (hopen : isSpace openMark = false ∧ ¬ IsCloser openMark) (hclose : IsCloser closeMark)
    {as : List α}
    (hbound : (printSequence openMark closeMark indent (as.map f)).length ≤ bound)
    (hreads : ∀ a ∈ as, (f a).length ≤ bound → Reads item (f a) a) :
    Reads (readValue limits bound (depth + 1)) (printSequence openMark closeMark indent (as.map f))
      (wrap as) := by
  have hitems (a : α) (ha : a ∈ as) : Reads item (f a) a := by
    have hlength := length_le_length_printSequence openMark closeMark indent
      (List.mem_map_of_mem (f := f) ha)
    exact hreads a ha (Nat.le_trans hlength hbound)
  have hcount : as.length ≤ bound := by
    refine Nat.le_trans ?_ hbound
    have hne : ∀ t ∈ as.map f, t ≠ [] := by
      intro t ht
      obtain ⟨a, ha, rfl⟩ := List.mem_map.mp ht
      exact (hitems a ha).opens.ne_nil
    simpa using length_le_of_printSequence openMark closeMark indent hne
  refine ⟨?_, fun rest _ => ?_⟩
  · obtain ⟨cs, hcs, -⟩ := readSequence_printSequence openMark hclose indent hitems hcount []
    exact ⟨openMark, cs, by simpa using hcs, hopen⟩
  · obtain ⟨cs, hcs, hread⟩ := readSequence_printSequence openMark hclose indent hitems hcount rest
    rw [hcs, hvalue, hread]
    rfl

theorem reads_null (limits : Limits) : Reads (readScalar limits) "null".toList .null := by
  refine ⟨⟨'n', "ull".toList, by decide, by decide, by simp [IsCloser]⟩, fun rest _ => ?_⟩
  simp [readScalar, literal?]

theorem reads_bool (limits : Limits) (b : Bool) :
    Reads (readScalar limits) (if b then "true" else "false").toList (.bool b) := by
  cases b with
  | true =>
    refine ⟨⟨'t', "rue".toList, by decide, by decide, by simp [IsCloser]⟩, fun rest _ => ?_⟩
    simp [readScalar, literal?]
  | false =>
    refine ⟨⟨'f', "alse".toList, by decide, by decide, by simp [IsCloser]⟩, fun rest _ => ?_⟩
    simp [readScalar, literal?]

theorem reads_printString (limits : Limits) (s : String) :
    Reads (readScalar limits) (printString s) (.string s) := by
  refine ⟨⟨'"', _, rfl, by decide, by simp [IsCloser]⟩, fun rest _ => ?_⟩
  simp [printString, readScalar, readString_printed]

theorem head?_printInt_ne {i : Int} {c : Char} (hc : c.isDigit = false) (hminus : c ≠ '-') :
    (printInt i).head? ≠ some c := by
  intro h
  rcases printInt_cases i with ⟨-, hprint⟩ | ⟨-, hprint⟩
  · rw [hprint] at h
    exact hminus (Option.some.inj h).symm
  · rw [hprint] at h
    have := isDigit_of_mem_toDigits _ c (List.mem_of_mem_head? h)
    simp [hc] at this

theorem reads_print {limits : Limits} {depth : Nat} {v : Json} (h : Plain limits.digits depth v)
    {bound indent : Nat} (hbound : (print indent v).length ≤ bound) :
    Reads (readValue limits bound depth) (print indent v) v := by
  induction h generalizing indent with
  | null => exact reads_of_readScalar (reads_null limits) (by simp [print]) (by simp [print])
  | bool b =>
    exact reads_of_readScalar (reads_bool limits b) (by cases b <;> simp [print])
      (by cases b <;> simp [print])
  | int hi =>
    exact reads_of_readScalar (reads_printInt hi) (head?_printInt_ne (by decide) (by decide))
      (head?_printInt_ne (by decide) (by decide))
  | string s =>
    exact reads_of_readScalar (reads_printString limits s) (by simp [print, printString])
      (by simp [print, printString])
  | array _ ih =>
    rw [print, printItems_eq_map] at hbound ⊢
    refine reads_printSequence (fun _ => rfl) ⟨by decide, by simp [IsCloser]⟩ (.inr (.inl rfl)) hbound ?_
    exact fun v hv hlength => ih v hv hlength
  | object _ ih =>
    rw [print, printMembers_eq_map] at hbound ⊢
    refine reads_printSequence (fun _ => rfl) ⟨by decide, by simp [IsCloser]⟩ (.inr (.inr rfl)) hbound ?_
    intro m hm hlength
    refine reads_printMember (ih m hm (Nat.le_trans ?_ hlength))
    simp [printMember]
    omega

/-- The value of a printed text. -/
theorem parse?_print {limits : Limits} {v : Json} (h : Plain limits.digits limits.depth v) :
    parse? limits (print 0 v) = some v := by
  have hreads := reads_print h (Nat.le_refl (print 0 v).length)
  have hspace : skipSpace (print 0 v) = print 0 v := by
    simpa using hreads.opens.skipSpace_append []
  have hread := hreads.reads [] stops_nil
  rw [List.append_nil] at hread
  have hend : skipSpace [] = [] := rfl
  simp [parse?, hspace, hread, hend]

end SchemaScript.Json
