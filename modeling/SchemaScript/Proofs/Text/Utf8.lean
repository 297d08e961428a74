import SchemaScript.Text.Utf8

/-! Decoding the bytes of a text gives its characters: the first byte of a character tells how many
follow and the range of the second, which the encoding of a character keeps to. -/

namespace SchemaScript.Text

/-! The bytes of a text -/

theorem toList_loop (bs : ByteArray) (i : Nat) (acc : List UInt8) :
    ByteArray.toList.loop bs i acc = acc.reverse ++ bs.data.toList.drop i := by
  fun_induction ByteArray.toList.loop bs i acc with
  | case1 i acc h ih =>
    have hi : i < bs.data.toList.length := h
    have hget : bs.get! i = bs.data.toList[i] := getElem!_pos bs.data i h
    rw [ih, List.drop_eq_getElem_cons hi, hget]
    simp
  | case2 i acc h =>
    have hi : bs.data.toList.length ≤ i := Nat.le_of_not_lt h
    simp [List.drop_eq_nil_of_le hi]

theorem utf8_eq_flatMap (s : String) : utf8 s = s.toList.flatMap String.utf8EncodeChar := by
  have hbytes : s.toUTF8 = (s.toList.flatMap String.utf8EncodeChar).toByteArray := by
    rw [String.toUTF8_eq_toByteArray, ← String.utf8Encode_toList, List.utf8Encode]
  rw [utf8, hbytes, ByteArray.toList, toList_loop]
  simp

/-! Characters of several bytes -/

theorem decodeFrom_start {b : UInt8} {p : Pending} (hb : 0x80 ≤ b.toNat)
    (hp : Pending.start? b = some p) (position : Nat) (bs : List UInt8) :
    decodeFrom position none (b :: bs) = decodeFrom (position + 1) (some p) bs := by
  have hnot : ¬ b.toNat < 0x80 := by omega
  simp [decodeFrom, hnot, hp]

theorem decodeFrom_next {b : UInt8} {p : Pending} (hrange : p.least ≤ b.toNat ∧ b.toNat ≤ p.greatest)
    (howed : 1 < p.owed) (position : Nat) (bs : List UInt8) :
    decodeFrom position (some p) (b :: bs) = decodeFrom (position + 1) (some (p.next b)) bs := by
  have hmore : (p.next b).owed ≠ 0 := by
    simp only [Pending.next]
    omega
  simp [decodeFrom, hrange, hmore]

theorem decodeFrom_last {b : UInt8} {p : Pending} (hrange : p.least ≤ b.toNat ∧ b.toNat ≤ p.greatest)
    (howed : p.owed = 1) (position : Nat) (bs : List UInt8) :
    decodeFrom position (some p) (b :: bs) =
      (Char.ofNat (p.next b).value :: ·) <$> decodeFrom (position + 1) none bs := by
  have hdone : (p.next b).owed = 0 := by simp [Pending.next, howed]
  simp [decodeFrom, hrange, hdone]

/-- The first of two bytes. -/
theorem start?_two {b : UInt8} (hleast : 0xC2 ≤ b.toNat) (hgreatest : b.toNat < 0xE0) :
    Pending.start? b = some ⟨[b], b.toNat - 0xC0, 1, 0x80, 0xBF⟩ := by
  simp [Pending.start?, hleast, hgreatest]

/-- The first of three bytes. The second is at least 0xA0 in a character beyond U+07FF, and at most
0x9F before the surrogates. -/
theorem start?_three {b : UInt8} (hleast : 0xE0 ≤ b.toNat) (hgreatest : b.toNat < 0xF0) :
    ∃ least greatest, Pending.start? b = some ⟨[b], b.toNat - 0xE0, 2, least, greatest⟩ ∧
      ∀ n, 0x80 ≤ n → n ≤ 0xBF → (b.toNat = 0xE0 → 0xA0 ≤ n) → (b.toNat = 0xED → n ≤ 0x9F) →
        least ≤ n ∧ n ≤ greatest := by
  have hnot : ¬ (0xC2 ≤ b.toNat ∧ b.toNat < 0xE0) := by omega
  by_cases hlow : b.toNat = 0xE0
  · exact ⟨0xA0, 0xBF, by simp [Pending.start?, hlow], fun n _ h hn _ => ⟨hn hlow, h⟩⟩
  by_cases hsurrogate : b.toNat = 0xED
  · exact ⟨0x80, 0x9F, by simp [Pending.start?, hsurrogate], fun n h _ _ hn => ⟨h, hn hsurrogate⟩⟩
  refine ⟨0x80, 0xBF, ?_, fun n h h' _ _ => ⟨h, h'⟩⟩
  have hbetween : 0xE0 < b.toNat ∧ b.toNat < 0xF0 := by omega
  rw [Pending.start?, if_neg hnot, if_neg hlow, if_neg hsurrogate, if_pos hbetween]

/-- The first of four bytes. The second is at least 0x90 in a character beyond U+FFFF, and at most
0x8F up to the last character. -/
theorem start?_four {b : UInt8} (hleast : 0xF0 ≤ b.toNat) (hgreatest : b.toNat ≤ 0xF4) :
    ∃ least greatest, Pending.start? b = some ⟨[b], b.toNat - 0xF0, 3, least, greatest⟩ ∧
      ∀ n, 0x80 ≤ n → n ≤ 0xBF → (b.toNat = 0xF0 → 0x90 ≤ n) → (b.toNat = 0xF4 → n ≤ 0x8F) →
        least ≤ n ∧ n ≤ greatest := by
  have htwo : ¬ (0xC2 ≤ b.toNat ∧ b.toNat < 0xE0) := by omega
  have hthree : ¬ (0xE0 < b.toNat ∧ b.toNat < 0xF0) := by omega
  by_cases hlow : b.toNat = 0xF0
  · exact ⟨0x90, 0xBF, by simp [Pending.start?, hlow], fun n _ h hn _ => ⟨hn hlow, h⟩⟩
  by_cases hhigh : b.toNat = 0xF4
  · exact ⟨0x80, 0x8F, by simp [Pending.start?, hhigh], fun n h _ _ hn => ⟨h, hn hhigh⟩⟩
  refine ⟨0x80, 0xBF, ?_, fun n h h' _ _ => ⟨h, h'⟩⟩
  have hfirst : b.toNat ≠ 0xE0 ∧ b.toNat ≠ 0xED := by omega
  have hbetween : 0xF0 < b.toNat ∧ b.toNat < 0xF4 := by omega
  rw [Pending.start?, if_neg htwo, if_neg hfirst.1, if_neg hfirst.2, if_neg hthree, if_neg hlow,
    if_neg hhigh, if_pos hbetween]

theorem toNat_lt_or_lt (c : Char) : c.toNat < 0xD800 ∨ 0xDFFF < c.toNat ∧ c.toNat < 0x110000 :=
  c.valid

/-- The bytes of a character, with what they are made of. -/
theorem utf8EncodeChar_cases (c : Char) :
    (c.toNat < 0x80 ∧ ∃ b, String.utf8EncodeChar c = [b] ∧ b.toNat = c.toNat) ∨
    (0x80 ≤ c.toNat ∧ c.toNat < 0x800 ∧ ∃ b₁ b₀ : UInt8, String.utf8EncodeChar c = [b₁, b₀] ∧
      b₁.toNat = c.toNat / 64 + 0xC0 ∧ b₀.toNat = c.toNat % 64 + 0x80) ∨
    (0x800 ≤ c.toNat ∧ c.toNat < 0x10000 ∧ ∃ b₂ b₁ b₀ : UInt8,
      String.utf8EncodeChar c = [b₂, b₁, b₀] ∧ b₂.toNat = c.toNat / 4096 + 0xE0 ∧
      b₁.toNat = c.toNat / 64 % 64 + 0x80 ∧ b₀.toNat = c.toNat % 64 + 0x80) ∨
    (0x10000 ≤ c.toNat ∧ ∃ b₃ b₂ b₁ b₀ : UInt8, String.utf8EncodeChar c = [b₃, b₂, b₁, b₀] ∧
      b₃.toNat = c.toNat / 262144 + 0xF0 ∧ b₂.toNat = c.toNat / 4096 % 64 + 0x80 ∧
      b₁.toNat = c.toNat / 64 % 64 + 0x80 ∧ b₀.toNat = c.toNat % 64 + 0x80) := by
  have hvalid := toNat_lt_or_lt c
  have hval : c.val.toNat = c.toNat := rfl
  have hbyte (n : Nat) (hn : n < 256) : (UInt8.ofNat n).toNat = n := by
    simp [Nat.mod_eq_of_lt hn]
  unfold String.utf8EncodeChar
  simp only [hval]
  split
  · exact .inl ⟨by omega, _, rfl, hbyte _ (by omega)⟩
  split
  · refine .inr (.inl ⟨by omega, by omega, _, _, rfl, ?_, ?_⟩)
    · rw [hbyte _ (by omega)]
      omega
    · rw [hbyte _ (by omega)]
  split
  · refine .inr (.inr (.inl ⟨by omega, by omega, _, _, _, rfl, ?_, ?_, ?_⟩))
    · rw [hbyte _ (by omega)]
      omega
    · rw [hbyte _ (by omega)]
    · rw [hbyte _ (by omega)]
  · refine .inr (.inr (.inr ⟨by omega, _, _, _, _, rfl, ?_, ?_, ?_, ?_⟩))
    · rw [hbyte _ (by omega)]
      omega
    · rw [hbyte _ (by omega)]
    · rw [hbyte _ (by omega)]
    · rw [hbyte _ (by omega)]

/-- A character is decoded from its bytes. -/
theorem decodeFrom_utf8EncodeChar (c : Char) (position : Nat) (bs : List UInt8) :
    decodeFrom position none (String.utf8EncodeChar c ++ bs) =
      (c :: ·) <$> decodeFrom (position + (String.utf8EncodeChar c).length) none bs := by
  have hvalid := toNat_lt_or_lt c
  rcases utf8EncodeChar_cases c with ⟨hc, b, hencode, hb⟩ | ⟨hlow, hhigh, b₁, b₀, hencode, h₁, h₀⟩ |
    ⟨hlow, hhigh, b₂, b₁, b₀, hencode, h₂, h₁, h₀⟩ | ⟨hlow, b₃, b₂, b₁, b₀, hencode, h₃, h₂, h₁, h₀⟩
  · have hascii : b.toNat < 0x80 := by omega
    rw [hencode, List.singleton_append, decodeFrom, if_pos hascii, hb, Char.ofNat_toNat]
    rfl
  · have hstart := start?_two (b := b₁) (by omega) (by omega)
    have hvalue : (b₁.toNat - 0xC0) * 64 + (b₀.toNat - 0x80) = c.toNat := by omega
    rw [hencode, List.cons_append, decodeFrom_start (by omega) hstart, List.cons_append,
      decodeFrom_last (by simp only; omega) rfl]
    simp only [Pending.next, hvalue, Char.ofNat_toNat]
    rfl
  · obtain ⟨least, greatest, hstart, hrange⟩ := start?_three (b := b₂) (by omega) (by omega)
    have hsecond := hrange b₁.toNat (by omega) (by omega) (by omega) (by omega)
    have hvalue : ((b₂.toNat - 0xE0) * 64 + (b₁.toNat - 0x80)) * 64 + (b₀.toNat - 0x80) = c.toNat := by
      omega
    rw [hencode, List.cons_append, decodeFrom_start (by omega) hstart, List.cons_append,
      decodeFrom_next hsecond (show 1 < 2 by decide), List.cons_append,
      decodeFrom_last (by simp only [Pending.next]; omega) rfl]
    simp only [Pending.next, hvalue, Char.ofNat_toNat]
    rfl
  · obtain ⟨least, greatest, hstart, hrange⟩ := start?_four (b := b₃) (by omega) (by omega)
    have hsecond := hrange b₂.toNat (by omega) (by omega) (by omega) (by omega)
    have hvalue : (((b₃.toNat - 0xF0) * 64 + (b₂.toNat - 0x80)) * 64 + (b₁.toNat - 0x80)) * 64
        + (b₀.toNat - 0x80) = c.toNat := by
      omega
    rw [hencode, List.cons_append, decodeFrom_start (by omega) hstart, List.cons_append,
      decodeFrom_next hsecond (show 1 < 3 by decide), List.cons_append,
      decodeFrom_next (by simp only [Pending.next]; omega) (show 1 < 2 by decide), List.cons_append,
      decodeFrom_last (by simp only [Pending.next]; omega) rfl]
    simp only [Pending.next, hvalue, Char.ofNat_toNat]
    rfl

/-- The bytes of a text are decoded to its characters. -/
theorem decode_utf8 (s : String) : decode (utf8 s) = .ok s.toList := by
  have hdecode (cs : List Char) (position : Nat) :
      decodeFrom position none (cs.flatMap String.utf8EncodeChar) = .ok cs := by
    induction cs generalizing position with
    | nil => rfl
    | cons c cs ih =>
      rw [List.flatMap_cons, decodeFrom_utf8EncodeChar, ih]
      rfl
  rw [decode, utf8_eq_flatMap, hdecode]

/-- Different texts have different bytes. -/
theorem utf8_inj {s s' : String} (h : utf8 s = utf8 s') : s = s' := by
  have hdecode := congrArg decode h
  rw [decode_utf8, decode_utf8] at hdecode
  exact String.toList_inj.mp (Except.ok.inj hdecode)

end SchemaScript.Text
