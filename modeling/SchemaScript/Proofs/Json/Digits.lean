import Mathlib.Data.List.Induction
import Mathlib.Data.List.TakeWhile
import SchemaScript.Json.Reader
import SchemaScript.Number.Whole

/-! The integers of a value that is read have no more digits than the reader allows. Reading goes through
readers of parts, and what every part that a reader gives has, a sequence of them has in all its items. -/

namespace SchemaScript

theorem digitCount_le_iff {i : Int} {digits : Nat} (h : 0 < digits) :
    digitCount i ≤ digits ↔ i.natAbs < Nat.pow 10 digits :=
  Nat.length_toDigits_le_iff (by decide) h

/-- The sign of a number is no digit. -/
theorem digitCount_signed (negative : Bool) (n : Nat) :
    digitCount (if negative then -n else n) = digitCount n := by
  cases negative with
  | false => rfl
  | true =>
    unfold digitCount
    rw [if_pos rfl, Int.natAbs_neg]

namespace Json

theorem toNat_sub_lt_of_isDigit {c : Char} (h : c.isDigit = true) : c.toNat - '0'.toNat < 10 := by
  have hnine : c.toNat ≤ '9'.toNat := by
    simp only [Char.isDigit, Bool.and_eq_true, decide_eq_true_eq] at h
    exact h.2
  have hvalues : '9'.toNat = '0'.toNat + 9 := by decide
  omega

theorem digitsValue_lt {ds : List Char} (h : ∀ c ∈ ds, c.isDigit = true) :
    digitsValue ds < Nat.pow 10 ds.length := by
  induction ds using List.reverseRecOn with
  | nil => decide
  | append_singleton ds d ih =>
    have hds := ih fun c hc => h c (List.mem_append_left _ hc)
    have hd := toNat_sub_lt_of_isDigit (h d (by simp))
    have hvalue : digitsValue (ds ++ [d]) = digitsValue ds * 10 + (d.toNat - '0'.toNat) := by
      simp [digitsValue, List.foldl_append]
    have hpow : Nat.pow 10 (ds.length + 1) = Nat.pow 10 ds.length * 10 := rfl
    rw [hvalue, List.length_append, List.length_singleton, hpow]
    omega

theorem digitCount_digitsValue_le {ds : List Char} (hne : ds ≠ [])
    (h : ∀ c ∈ ds, c.isDigit = true) : digitCount (digitsValue ds) ≤ ds.length :=
  (digitCount_le_iff (List.length_pos_iff.mpr hne)).mpr (digitsValue_lt h)

/-- No integer of the value has more digits. -/
inductive DigitsWithin (digits : Nat) : Json → Prop
  | null : DigitsWithin digits .null
  | bool (b : Bool) : DigitsWithin digits (.bool b)
  | int {i : Int} : digitCount i ≤ digits → DigitsWithin digits (.int i)
  | float (x : Binary64) : DigitsWithin digits (.float x)
  | string (s : String) : DigitsWithin digits (.string s)
  | array {items : List Json} : (∀ v ∈ items, DigitsWithin digits v) → DigitsWithin digits (.array items)
  | object {members : List (String × Json)} :
    (∀ m ∈ members, DigitsWithin digits m.2) → DigitsWithin digits (.object members)

/-- Whatever the reader takes off the front of a text has the property. -/
def Gives (item : List Char → Option (α × List Char)) (P : α → Prop) : Prop :=
  ∀ cs a rest, item cs = some (a, rest) → P a

section Readers

variable {item : List Char → Option (α × List Char)} {P : α → Prop} {Q : β → Prop}

/-- What is made of something read has a property if that follows from what the reader gives. -/
theorem Gives.of_map (h : Gives item P) {f : α → β} {cs rest : List Char} {b : β}
    (hread : (item cs).map (fun (a, rest) => (f a, rest)) = some (b, rest))
    (hf : ∀ a, P a → Q (f a)) : Q b := by
  obtain ⟨⟨a, rest'⟩, hitem, heq⟩ := Option.map_eq_some_iff.mp hread
  cases heq
  exact hf a (h cs a rest hitem)

theorem Gives.readItems (h : Gives item P) (close : Char) (bound : Nat) :
    Gives (readItems close item bound) fun as => ∀ a ∈ as, P a := by
  induction bound with
  | zero => exact fun cs as rest hread => nomatch hread
  | succ bound ih =>
    intro cs as rest hread
    rw [Json.readItems] at hread
    split at hread
    · cases hread
    · next a cs' hitem =>
      have ha : P a := h _ _ _ hitem
      split at hread
      · cases hread
      · split at hread
        · cases hread
          exact List.forall_mem_singleton.mpr ha
        · split at hread
          · exact ih.of_map (Q := fun as => ∀ b ∈ as, P b) hread fun as has =>
              List.forall_mem_cons.mpr ⟨ha, has⟩
          · cases hread

theorem Gives.readSequence (h : Gives item P) (close : Char) (bound : Nat) :
    Gives (readSequence close item bound) fun as => ∀ a ∈ as, P a := by
  intro cs as rest hread
  unfold Json.readSequence at hread
  split at hread
  · cases hread
  · split at hread
    · cases hread
      exact List.forall_mem_nil P
    · exact h.readItems close bound _ _ _ hread

theorem Gives.readMember {value : List Char → Option (Json × List Char)} {P : Json → Prop}
    (h : Gives value P) : Gives (readMember value) fun m => P m.2 := by
  intro cs m rest hread
  unfold Json.readMember at hread
  split at hread
  · split at hread
    · cases hread
    · split at hread
      · exact h.of_map (Q := fun m : String × Json => P m.2) hread fun v hv => hv
      · cases hread
  · cases hread

end Readers

variable (limits : Limits)

theorem gives_readMagnitude (negative : Bool) :
    Gives (readMagnitude limits negative) (DigitsWithin limits.digits) := by
  intro cs v rest hread
  unfold readMagnitude at hread
  simp only at hread
  split at hread
  · cases hread
  · next hwhole =>
    simp only [Bool.or_eq_true, List.isEmpty_iff, decide_eq_true_eq, not_or, Nat.not_lt] at hwhole
    have hdigits : ∀ c ∈ cs.takeWhile Char.isDigit, c.isDigit = true :=
      fun c hc => List.mem_takeWhile_imp hc
    have hcount := Nat.le_trans (digitCount_digitsValue_le hwhole.1.1 hdigits) hwhole.2
    simp only [Option.bind_eq_bind, Option.bind_eq_some_iff] at hread
    obtain ⟨⟨fraction, cs'⟩, -, ⟨exponent, cs''⟩, -, hread⟩ := hread
    split at hread
    · cases hread
      exact .int (by rw [digitCount_signed]; exact hcount)
    · cases hread
      exact .float _

theorem gives_readScalar : Gives (readScalar limits) (DigitsWithin limits.digits) := by
  have hliteral {word cs rest : List Char} {v w : Json} (hv : DigitsWithin limits.digits v)
      (hread : (literal? word cs).map (v, ·) = some (w, rest)) : DigitsWithin limits.digits w := by
    obtain ⟨rest', -, heq⟩ := Option.map_eq_some_iff.mp hread
    cases heq
    exact hv
  intro cs v rest hread
  unfold readScalar at hread
  split at hread
  · obtain ⟨⟨s, rest'⟩, -, heq⟩ := Option.map_eq_some_iff.mp hread
    cases heq
    exact .string _
  · exact hliteral .null hread
  · exact hliteral (.bool true) hread
  · exact hliteral (.bool false) hread
  · exact hliteral (.float _) hread
  · exact hliteral (.float _) hread
  · exact hliteral (.float _) hread
  · exact gives_readMagnitude limits true _ _ _ hread
  · exact gives_readMagnitude limits false _ _ _ hread

theorem gives_readValue (bound depth : Nat) :
    Gives (readValue limits bound depth) (DigitsWithin limits.digits) := by
  induction depth with
  | zero => exact gives_readScalar limits
  | succ depth ih =>
    intro cs v rest hread
    unfold readValue at hread
    split at hread
    · exact (ih.readSequence ']' bound).of_map hread fun vs => .array
    · exact (ih.readMember.readSequence '\x7d' bound).of_map hread fun ms => .object
    · exact gives_readScalar limits _ _ _ hread

theorem digitsWithin_of_parse? {limits : Limits} {cs : List Char} {v : Json}
    (h : parse? limits cs = some v) : DigitsWithin limits.digits v := by
  unfold parse? at h
  split at h
  · next w rest hread =>
    split at h
    · cases h
      exact gives_readValue limits _ _ _ _ _ hread
    · cases h
  · cases h

end Json

end SchemaScript
