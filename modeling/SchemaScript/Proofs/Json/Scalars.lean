import SchemaScript.Json.Printer
import SchemaScript.Number.Whole
import SchemaScript.Proofs.Json.Sequence

/-! Strings and integers are read back as they were written. Every character of a string stands for
itself or is the escape of one, and an integer ends where its digits do. -/

namespace SchemaScript.Json

theorem stops_digit {c : Char} (h : c = ',' ∨ c = '\n' ∨ IsCloser c) : c.isDigit = false := by
  rcases h with rfl | rfl | rfl | rfl | rfl <;> decide

/-! Digits -/

theorem isDigit_of_mem_toDigits (n : Nat) : ∀ c ∈ Nat.toDigits 10 n, c.isDigit = true :=
  fun _ hc => Nat.isDigit_of_mem_toDigits (by decide) (by decide) hc

theorem digitsValue_toDigits (n : Nat) : digitsValue (Nat.toDigits 10 n) = n := by
  have h := Nat.ofDigitChars_ten_toDigits (n := n)
  rw [Nat.ofDigitChars_eq_foldl] at h
  simpa only [digitsValue, Nat.mul_comm] using h

theorem eq_zero_of_digitChar {d : Nat} (hd : d < 10) (h : d.digitChar = '0') : d = 0 := by
  revert d
  decide

/-- No number but zero begins with the digit zero. -/
theorem eq_zero_of_head?_toDigits {n : Nat} (h : (Nat.toDigits 10 n).head? = some '0') : n = 0 := by
  induction n using Nat.base_induction 10 (by decide) with
  | single m hm =>
    rw [Nat.toDigits_of_lt_base hm] at h
    exact eq_zero_of_digitChar hm (Option.some.inj h)
  | digit m k hk hm ih =>
    rw [← Nat.toDigits_append_toDigits (by decide) hm hk,
      List.head?_append_of_ne_nil _ Nat.toDigits_ne_nil] at h
    exact absurd (ih h) (by omega)

theorem readMagnitude_toDigits {limits : Limits} (negative : Bool) {n : Nat}
    (hn : (Nat.toDigits 10 n).length ≤ limits.digits) {rest : List Char} (hrest : Stops rest) :
    readMagnitude limits negative (Nat.toDigits 10 n ++ rest) =
      some (.int (if negative then -n else n), rest) := by
  obtain ⟨htake, hdrop⟩ := span_append (isDigit_of_mem_toDigits n)
    fun c hc => stops_digit (hrest c hc)
  have hzero : ((Nat.toDigits 10 n).head? == some '0' && (Nat.toDigits 10 n).length != 1) = false := by
    by_contra hne
    simp only [Bool.not_eq_false, Bool.and_eq_true, beq_iff_eq, bne_iff_ne] at hne
    obtain rfl := eq_zero_of_head?_toDigits hne.1
    exact hne.2 rfl
  have hfraction : readFraction rest = some (none, rest) := by
    cases rest with
    | nil => rfl
    | cons c rest => rcases hrest c rfl with rfl | rfl | rfl | rfl | rfl <;> rfl
  have hexponent : readExponent rest = some (none, rest) := by
    cases rest with
    | nil => rfl
    | cons c rest => rcases hrest c rfl with rfl | rfl | rfl | rfl | rfl <;> rfl
  have hlimit : ¬ limits.digits < (Nat.toDigits 10 n).length := by omega
  simp [readMagnitude, htake, hdrop, hzero, hfraction, hexponent, hlimit, Nat.toDigits_ne_nil,
    digitsValue_toDigits]

/-- What an integer is written with. -/
theorem printInt_cases (i : Int) :
    (i < 0 ∧ printInt i = '-' :: Nat.toDigits 10 i.natAbs) ∨
      (0 ≤ i ∧ printInt i = Nat.toDigits 10 i.natAbs) := by
  unfold printInt
  split
  · exact .inl ⟨‹_›, rfl⟩
  · exact .inr ⟨by omega, rfl⟩

theorem readScalar_digit {c : Char} (hc : c.isDigit = true) (limits : Limits) (cs : List Char) :
    readScalar limits (c :: cs) = readMagnitude limits false (c :: cs) := by
  unfold readScalar
  split <;> simp_all

theorem readScalar_minus {c : Char} (hc : c.isDigit = true) (limits : Limits) (cs : List Char) :
    readScalar limits ('-' :: c :: cs) = readMagnitude limits true (c :: cs) := by
  unfold readScalar
  split <;> simp_all

theorem not_space_of_isDigit {c : Char} (hc : c.isDigit = true) : isSpace c = false := by
  by_contra hspace
  simp only [isSpace, Bool.not_eq_false, Bool.or_eq_true, beq_iff_eq] at hspace
  rcases hspace with ((rfl | rfl) | rfl) | rfl <;> simp at hc

theorem reads_printInt {limits : Limits} {i : Int} (hi : digitCount i ≤ limits.digits) :
    Reads (readScalar limits) (printInt i) (.int i) := by
  obtain ⟨c, cs, hdigits⟩ := List.exists_cons_of_ne_nil (Nat.toDigits_ne_nil (n := i.natAbs) (b := 10))
  have hc : c.isDigit = true := isDigit_of_mem_toDigits i.natAbs c (by simp [hdigits])
  rcases printInt_cases i with ⟨hneg, hprint⟩ | ⟨hpos, hprint⟩
  · refine ⟨⟨'-', _, hprint, by decide, by simp [IsCloser]⟩, fun rest hrest => ?_⟩
    have hread := readMagnitude_toDigits true hi hrest
    rw [hprint, hdigits, List.cons_append, List.cons_append, readScalar_minus hc, ← List.cons_append,
      ← hdigits, hread]
    simp only [if_true, Option.some.injEq, Prod.mk.injEq, Json.int.injEq, and_true]
    omega
  · refine ⟨⟨c, cs, hprint.trans hdigits, not_space_of_isDigit hc, ?_⟩, fun rest hrest => ?_⟩
    · intro hcloser
      simp [stops_digit (.inr (.inr hcloser))] at hc
    · have hread := readMagnitude_toDigits false hi hrest
      rw [hprint, hdigits, List.cons_append, readScalar_digit hc, ← List.cons_append, ← hdigits, hread]
      simp only [Bool.false_eq_true, if_false, Option.some.injEq, Prod.mk.injEq, Json.int.injEq,
        and_true]
      omega

/-! Strings -/

theorem hexValue?_hexDigit : ∀ d < 16, hexValue? (Text.hexDigit d) = some d := by decide

theorem codeUnit?_hexDigits {n : Nat} (hn : n < 65536) :
    ∃ a b c d, Text.hexDigits 4 n = [a, b, c, d] ∧ codeUnit? a b c d = some n := by
  refine ⟨_, _, _, _, rfl, ?_⟩
  have h (k : Nat) : hexValue? (Text.hexDigit (k % 16)) = some (k % 16) :=
    hexValue?_hexDigit _ (Nat.mod_lt _ (by decide))
  simp only [codeUnit?, h, Option.bind_eq_bind, Option.bind_some, Option.some.injEq]
  omega

/-- A character is read back from its escape, or from itself. -/
theorem readString_escapeChar (c : Char) (cs : List Char) :
    readString (escapeChar c ++ cs) = (readString cs).map fun (s, rest) => (c :: s, rest) := by
  unfold escapeChar
  split
  case h_8 _ hquote hslash _ _ _ _ _ =>
    split
    · rename_i hcontrol
      obtain ⟨d₃, d₂, d₁, d₀, hdigits, hunit⟩ := codeUnit?_hexDigits (n := c.toNat) (by omega)
      have hhigh : isHighSurrogate c.toNat = false := by
        simp only [isHighSurrogate, Bool.and_eq_false_iff, decide_eq_false_iff_not]
        omega
      have hlow : isLowSurrogate c.toNat = false := by
        simp only [isLowSurrogate, Bool.and_eq_false_iff, decide_eq_false_iff_not]
        omega
      rw [hdigits]
      simp [readString, hunit, hhigh, hlow]
    · rw [List.singleton_append, readString.eq_def]
      split <;> simp_all [Nat.not_lt.mpr]
  all_goals simp [readString, escaped?]

theorem readString_printed (cs rest : List Char) :
    readString (cs.flatMap escapeChar ++ '"' :: rest) = some (cs, rest) := by
  induction cs with
  | nil => simp [readString]
  | cons c cs ih => simp [readString_escapeChar, ih]

end SchemaScript.Json
