import Mathlib.Data.List.DropRight
import SchemaScript.Text.Blank
import SchemaScript.Text.Lines

/-! Blanks around a text. Trimming takes them off again and nothing else, and unifying the line ends of
the whole, as reading a file does, changes nothing but the blanks. -/

namespace SchemaScript.Text

def Blank (cs : List Char) : Prop := ∀ c ∈ cs, isBlank c = true

theorem Blank.of_cons {c : Char} {cs : List Char} (h : Blank (c :: cs)) : Blank cs :=
  fun d hd => h d (List.mem_cons_of_mem c hd)

theorem Blank.cons {c : Char} {cs : List Char} (hc : isBlank c = true) (h : Blank cs) :
    Blank (c :: cs) :=
  List.forall_mem_cons.mpr ⟨hc, h⟩

/-- Neither end of the text is blank. -/
structure Trimmed (cs : List Char) : Prop where
  first : ∃ c rest, cs = c :: rest ∧ isBlank c = false
  last : ∃ c front, cs = front ++ [c] ∧ isBlank c = false

theorem Trimmed.append {cs ds : List Char} (hcs : Trimmed cs) (middle : List Char)
    (hds : Trimmed ds) : Trimmed (cs ++ (middle ++ ds)) := by
  obtain ⟨c, rest, rfl, hc⟩ := hcs.first
  obtain ⟨d, front, rfl, hd⟩ := hds.last
  exact ⟨⟨c, _, rfl, hc⟩, ⟨d, c :: rest ++ (middle ++ front), by simp, hd⟩⟩

theorem trim_eq (cs : List Char) : trim cs = (cs.dropWhile isBlank).rdropWhile isBlank := rfl

theorem trim_surrounded {before cs after : List Char} (hbefore : Blank before) (hcs : Trimmed cs)
    (hafter : Blank after) : trim (before ++ (cs ++ after)) = cs := by
  obtain ⟨c, rest, hfirst, hc⟩ := hcs.first
  obtain ⟨d, front, hlast, hd⟩ := hcs.last
  have hleft : (before ++ (cs ++ after)).dropWhile isBlank = cs ++ after := by
    rw [List.dropWhile_append_of_pos hbefore, hfirst, List.cons_append, List.dropWhile_cons_of_neg]
    simp [hc]
  have hright : (after.reverse ++ cs.reverse).dropWhile isBlank = cs.reverse := by
    have hreverse : Blank after.reverse := fun e he => hafter e (List.mem_reverse.mp he)
    rw [List.dropWhile_append_of_pos hreverse, hlast, List.reverse_append, List.reverse_singleton,
      List.singleton_append, List.dropWhile_cons_of_neg]
    simp [hd]
  rw [trim, trimBy, hleft, List.reverse_append, hright, List.reverse_reverse]

theorem trim_isInfix (cs : List Char) : trim cs <:+: cs :=
  (List.rdropWhile_prefix isBlank (cs.dropWhile isBlank)).isInfix.trans
    (List.dropWhile_suffix isBlank).isInfix

theorem trim_eq_nil_iff {cs : List Char} : trim cs = [] ↔ Blank cs := by
  rw [trim_eq, List.rdropWhile_eq_nil_iff]
  constructor
  · intro h c hc
    rw [← List.takeWhile_append_dropWhile (p := isBlank) (l := cs), List.mem_append] at hc
    rcases hc with hc | hc
    · exact List.mem_takeWhile_imp hc
    · exact h c hc
  · intro h c hc
    exact h c ((List.dropWhile_suffix isBlank).subset hc)

theorem exists_surrounded (cs : List Char) :
    ∃ before after, Blank before ∧ Blank after ∧ cs = before ++ (trim cs ++ after) := by
  refine ⟨cs.takeWhile isBlank, (cs.dropWhile isBlank).rtakeWhile isBlank,
    fun c hc => List.mem_takeWhile_imp hc, fun c hc => List.mem_rtakeWhile_imp hc, ?_⟩
  rw [trim_eq, List.rdropWhile_append_rtakeWhile, List.takeWhile_append_dropWhile]

theorem trimmed_trim {cs : List Char} (h : trim cs ≠ []) : Trimmed (trim cs) := by
  constructor
  · -- the first character left is the one that stopped the blanks in front
    obtain ⟨rest, hrest⟩ := List.rdropWhile_prefix isBlank (cs.dropWhile isBlank)
    rw [← trim_eq] at hrest
    cases htext : trim cs with
    | nil => exact absurd htext h
    | cons c left =>
      refine ⟨c, left, rfl, ?_⟩
      have hhead := List.head?_dropWhile_not isBlank cs
      rw [← hrest, htext] at hhead
      simpa using hhead
  · refine ⟨(trim cs).getLast h, (trim cs).dropLast, (List.dropLast_append_getLast h).symm, ?_⟩
    rw [trim_eq] at h
    exact Bool.eq_false_iff.mpr (List.rdropWhile_last_not isBlank _ h)

/-- A line end behind a trimmed text is what trimming takes off it. -/
theorem trim_append_newline {cs : List Char} (h : cs = [] ∨ Trimmed cs) : trim (cs ++ ['\n']) = cs := by
  have hline : Blank ['\n'] := Blank.cons (by decide) (by simp [Blank])
  rcases h with rfl | h
  · exact trim_eq_nil_iff.mpr hline
  · exact trim_surrounded (List.forall_mem_nil _) h hline

theorem isEmpty_trim (s : String) : (trim s.toList).isEmpty = isBlankText s := by
  rw [Bool.eq_iff_iff, List.isEmpty_iff, trim_eq_nil_iff, isBlankText, List.all_eq_true]
  rfl

theorem blank_unifyNewlines {cs : List Char} (h : Blank cs) : Blank (unifyNewlines cs) := by
  fun_induction unifyNewlines cs with
  | case1 => exact h
  | case2 cs ih => exact .cons (by decide) (ih h.of_cons.of_cons)
  | case3 cs _ ih => exact .cons (by decide) (ih h.of_cons)
  | case4 c cs _ _ ih => exact .cons (h c List.mem_cons_self) (ih h.of_cons)

/-- Only a carriage return and a line feed next to each other belong together. -/
theorem unifyNewlines_append (cs : List Char) {ds : List Char} (h : ds.head? ≠ some '\n') :
    unifyNewlines (cs ++ ds) = unifyNewlines cs ++ unifyNewlines ds := by
  fun_induction unifyNewlines cs with
  | case1 => rfl
  | case2 cs ih => simp [unifyNewlines, ih]
  | case3 cs hcs ih =>
    rw [List.cons_append, unifyNewlines, ih, List.cons_append]
    intro rest hrest
    cases cs with
    | nil => simp [show ds = '\n' :: rest from hrest] at h
    | cons c cs => exact hcs cs (by simp_all)
  | case4 c cs _ _ ih => simp_all [unifyNewlines]

theorem unifyNewlines_cons {c : Char} (h : c ≠ '\r') (cs : List Char) :
    unifyNewlines (c :: cs) = c :: unifyNewlines cs := by
  rw [unifyNewlines] <;> simp [h]

/-- A text without carriage returns stays as it is. -/
theorem unifyNewlines_append_of_notMem {cs : List Char} (h : '\r' ∉ cs) (ds : List Char) :
    unifyNewlines (cs ++ ds) = cs ++ unifyNewlines ds := by
  induction cs with
  | nil => rfl
  | cons c cs ih =>
    rw [List.mem_cons, not_or] at h
    rw [List.cons_append, unifyNewlines_cons (Ne.symm h.1), ih h.2, List.cons_append]

/-- Reading a file that holds a text with blanks around it. -/
theorem unifyNewlines_surrounded {before cs after : List Char} (hbefore : Blank before)
    (hcs : Trimmed cs) (hreturn : '\r' ∉ cs) (hafter : Blank after) :
    ∃ before' after', Blank before' ∧ Blank after' ∧
      unifyNewlines (before ++ (cs ++ after)) = before' ++ (cs ++ after') := by
  obtain ⟨c, rest, hfirst, hc⟩ := hcs.first
  have hhead : (cs ++ after).head? ≠ some '\n' := by
    rw [hfirst]
    rintro ⟨⟩
    simp [isBlank, isWhiteSpace] at hc
  refine ⟨_, _, blank_unifyNewlines hbefore, blank_unifyNewlines hafter, ?_⟩
  rw [unifyNewlines_append _ hhead, unifyNewlines_append_of_notMem hreturn]

theorem not_isBlankText_surrounded {before cs after : List Char} (hcs : Trimmed cs) :
    isBlankText (String.ofList (before ++ (cs ++ after))) = false := by
  obtain ⟨c, rest, rfl, hc⟩ := hcs.first
  simp [isBlankText, hc]

end SchemaScript.Text
