import Mathlib.Data.List.Basic
import SchemaScript.Json.Reader

/-! Reading back a sequence of items that was written with a comma between any two of them and with
space between the brackets and the items. An item is read back wherever nothing follows it, or one of
the characters that end an item. -/

namespace SchemaScript.Json

def IsCloser (c : Char) : Prop := c = ')' ∨ c = ']' ∨ c = '\x7d'

/-- Nothing follows, or what follows ends an item. -/
def Stops (cs : List Char) : Prop := ∀ c ∈ cs.head?, c = ',' ∨ c = '\n' ∨ IsCloser c

/-- The text begins as an item does: not with space, nor with what closes a sequence. -/
def Opens (cs : List Char) : Prop := ∃ c rest, cs = c :: rest ∧ isSpace c = false ∧ ¬ IsCloser c

/-- The reader takes the text off for this item, whatever follows that ends an item. -/
structure Reads (item : List Char → Option (α × List Char)) (text : List Char) (a : α) : Prop where
  opens : Opens text
  reads : ∀ rest, Stops rest → item (text ++ rest) = some (a, rest)

/-- All of it is space. -/
def Space (cs : List Char) : Prop := ∀ c ∈ cs, isSpace c = true

theorem IsCloser.ne_comma {c : Char} (h : IsCloser c) : c ≠ ',' := by
  rcases h with rfl | rfl | rfl <;> decide

theorem IsCloser.not_space {c : Char} (h : IsCloser c) : isSpace c = false := by
  rcases h with rfl | rfl | rfl <;> decide

theorem stops_nil : Stops [] := by simp [Stops]

theorem stops_comma (cs : List Char) : Stops (',' :: cs) := by simp [Stops]

theorem stops_closer {c : Char} (h : IsCloser c) (cs : List Char) : Stops (c :: cs) := by
  simp [Stops, h]

/-- A reader that takes the characters of a class stops where no other follows. -/
theorem span_append {p : Char → Bool} {cs rest : List Char} (hcs : ∀ c ∈ cs, p c = true)
    (hrest : ∀ c ∈ rest.head?, p c = false) :
    (cs ++ rest).takeWhile p = cs ∧ (cs ++ rest).dropWhile p = rest := by
  rw [List.takeWhile_append_of_pos hcs, List.dropWhile_append_of_pos hcs]
  cases rest with
  | nil => simp
  | cons c rest =>
    have hc : p c = false := hrest c rfl
    simp [hc]

theorem skipSpace_append {gap : List Char} (hgap : Space gap) (cs : List Char) :
    skipSpace (gap ++ cs) = skipSpace cs :=
  List.dropWhile_append_of_pos hgap

theorem skipSpace_cons {c : Char} (hc : isSpace c = false) (cs : List Char) :
    skipSpace (c :: cs) = c :: cs := by
  simp [skipSpace, hc]

theorem Opens.ne_nil {text : List Char} (h : Opens text) : text ≠ [] := by
  obtain ⟨c, cs, rfl, -⟩ := h
  simp

theorem Opens.skipSpace_append {text : List Char} (h : Opens text) (rest : List Char) :
    skipSpace (text ++ rest) = text ++ rest := by
  obtain ⟨c, cs, rfl, hc, -⟩ := h
  exact skipSpace_cons hc _

theorem Opens.append {text : List Char} (h : Opens text) (rest : List Char) : Opens (text ++ rest) := by
  obtain ⟨c, cs, rfl, hc⟩ := h
  exact ⟨c, cs ++ rest, rfl, hc⟩

section Sequence

variable {item : List Char → Option (α × List Char)} {text : α → List Char}
  {before gap behind : List Char} {close : Char}

/-- The texts of items in a row, each but the first behind a comma and some space. -/
def separated (gap : List Char) (texts : List (List Char)) : List Char :=
  List.intercalate (',' :: gap) texts

theorem readItems_separated (hgap : Space gap) (hbehind : Space behind) (hclose : IsCloser close)
    (hstops : ∀ cs, Stops (behind ++ close :: cs)) {a : α} {as : List α}
    (hreads : ∀ b ∈ a :: as, Reads item (text b) b) (hbefore : Space before) {bound : Nat}
    (hbound : as.length < bound) (rest : List Char) :
    readItems close item bound
        (before ++ (separated gap ((a :: as).map text) ++ (behind ++ close :: rest))) =
      some (a :: as, rest) := by
  have ha := hreads a List.mem_cons_self
  obtain ⟨bound, rfl⟩ : ∃ n, bound = n + 1 := ⟨bound - 1, by omega⟩
  induction as generalizing a before bound with
  | nil =>
    have hitem := ha.reads _ (hstops rest)
    have hend : skipSpace (behind ++ close :: rest) = close :: rest := by
      rw [skipSpace_append hbehind, skipSpace_cons hclose.not_space]
    simp only [readItems, separated, List.map_cons, List.map_nil, List.intercalate_singleton,
      skipSpace_append hbefore, ha.opens.skipSpace_append, hitem, hend, beq_self_eq_true, if_true]
  | cons b as ih =>
    have hb := hreads b (by simp)
    have hitem := ha.reads _ (stops_comma
      (gap ++ (separated gap ((b :: as).map text) ++ (behind ++ close :: rest))))
    obtain ⟨bound, rfl⟩ : ∃ n, bound = n + 1 := ⟨bound - 1, by simp at hbound; omega⟩
    have hmore (c : α) (hc : c ∈ b :: as) : Reads item (text c) c :=
      hreads c (List.mem_cons_of_mem a hc)
    have hrest := ih hmore hgap hb bound (by simpa using hbound)
    have hcomma : (',' == close) = false := by simpa using hclose.ne_comma.symm
    simp only [separated, List.map_cons, List.intercalate_cons_cons, List.append_assoc,
      List.cons_append] at hitem hrest ⊢
    rw [readItems, skipSpace_append hbefore, ha.opens.skipSpace_append, hitem]
    simp only [skipSpace_cons (show isSpace ',' = false by decide), hcomma, Bool.false_eq_true,
      if_false, beq_self_eq_true, if_true, hrest, Option.map_some]

/-- A sequence is read back, if the reader of items reads back the text of each of them. -/
theorem readSequence_separated (hbefore : Space before) (hgap : Space gap) (hbehind : Space behind)
    (hclose : IsCloser close) (hstops : ∀ cs, Stops (behind ++ close :: cs)) {as : List α}
    (hreads : ∀ a ∈ as, Reads item (text a) a) {bound : Nat} (hbound : as.length ≤ bound)
    (rest : List Char) :
    readSequence close item bound
        (before ++ (separated gap (as.map text) ++ (behind ++ close :: rest))) = some (as, rest) := by
  cases as with
  | nil =>
    simp only [readSequence, separated, List.map_nil, List.intercalate_nil, List.nil_append,
      skipSpace_append hbefore, skipSpace_append hbehind, skipSpace_cons hclose.not_space,
      beq_self_eq_true, if_true]
  | cons a as =>
    obtain ⟨c, cs, htext, hspace, hcloser⟩ := (hreads a List.mem_cons_self).opens
    have hopens : Opens (separated gap ((a :: as).map text)) := by
      refine ⟨c, separated gap (cs :: as.map text), ?_, hspace, hcloser⟩
      simp [separated, htext]
    have hempty : Space [] := by simp [Space]
    have hitems := readItems_separated hgap hbehind hclose hstops hreads hempty
      (Nat.lt_of_succ_le hbound) rest
    rw [readSequence, skipSpace_append hbefore, hopens.skipSpace_append]
    obtain ⟨c, cs, hfirst, -, hcloser⟩ := hopens
    have hc : (c == close) = false := by
      simp only [beq_eq_false_iff_ne]
      rintro rfl
      exact hcloser hclose
    rw [List.nil_append, hfirst] at hitems
    rw [hfirst]
    simpa only [List.cons_append, hc, Bool.false_eq_true, if_false] using hitems

end Sequence

/-- A sequence is at least as long as each of its items. -/
theorem length_le_length_separated (gap : List Char) {texts : List (List Char)} {t : List Char}
    (ht : t ∈ texts) : t.length ≤ (separated gap texts).length := by
  induction texts with
  | nil => simp at ht
  | cons u texts ih =>
    cases texts with
    | nil => simp_all [separated]
    | cons v texts =>
      simp only [separated, List.intercalate_cons_cons, List.length_append] at ih ⊢
      rcases List.mem_cons.mp ht with rfl | ht
      · omega
      · have := ih ht
        omega

/-- A sequence has no more items than characters. -/
theorem length_le_of_separated (gap : List Char) {texts : List (List Char)}
    (h : ∀ t ∈ texts, t ≠ []) : texts.length ≤ (separated gap texts).length := by
  induction texts with
  | nil => simp
  | cons u texts ih =>
    have hu : 0 < u.length := List.length_pos_of_ne_nil (h u List.mem_cons_self)
    cases texts with
    | nil => simpa [separated, Nat.succ_le_iff] using hu
    | cons v texts =>
      have := ih fun t ht => h t (List.mem_cons_of_mem u ht)
      simp only [separated, List.intercalate_cons_cons, List.length_append, List.length_cons] at this ⊢
      omega

/-- The length of the text is always bound enough. -/
theorem readSequence_of_separated {item : List Char → Option (α × List Char)} {text : α → List Char}
    {before gap behind : List Char} {close : Char} (hbefore : Space before) (hgap : Space gap)
    (hbehind : Space behind) (hclose : IsCloser close) (hstops : ∀ cs, Stops (behind ++ close :: cs))
    {as : List α} (hreads : ∀ a ∈ as, Reads item (text a) a) {cs rest : List Char}
    (hcs : cs = before ++ (separated gap (as.map text) ++ (behind ++ close :: rest))) :
    readSequence close item cs.length cs = some (as, rest) := by
  have hne : ∀ t ∈ as.map text, t ≠ [] := by
    intro t ht
    obtain ⟨a, ha, rfl⟩ := List.mem_map.mp ht
    exact (hreads a ha).opens.ne_nil
  have hlength := length_le_of_separated gap hne
  have hbound : as.length ≤ cs.length := by
    rw [hcs]
    simp only [List.length_map, List.length_append] at hlength ⊢
    omega
  rw [hcs] at hbound ⊢
  exact readSequence_separated hbefore hgap hbehind hclose hstops hreads hbound rest

end SchemaScript.Json
