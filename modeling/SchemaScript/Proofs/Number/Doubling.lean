import Mathlib.Algebra.Order.Field.Power
import Mathlib.Algebra.Order.Field.Rat
import Mathlib.Data.Nat.Log
import Mathlib.Tactic.FieldSimp
import Mathlib.Tactic.Positivity
import Mathlib.Tactic.Ring
import SchemaScript.Number.Binary64

/-! Doubling binary numbers. The number nearest to a fraction is found in units of a power of two, which
is chosen such that 53 binary places are left before the point, so it fits unless it is too large. Where
the fraction is a whole number of these units nothing is rounded. So a number times a power of two is
exact as long as it does not become too large. -/

namespace SchemaScript.Binary64

def signed (negative : Bool) (q : ℚ) : ℚ := if negative then -q else q

/-- The least power of two that is too large. -/
def limit : ℚ := 2 ^ (1024 : Int)

/-- The rational number a finite number is. -/
def value? : Binary64 → Option ℚ
  | .finite negative m e _ => some (signed negative (m * 2 ^ e))
  | _ => none

@[simp] theorem value?_zero (negative : Bool) : (zero negative).value? = some 0 := by
  simp [zero, value?, signed]

@[simp] theorem value?_infinite (negative : Bool) : (infinite negative).value? = none := rfl

theorem ratio_div (m : Nat) (e : Int) :
    ((ratio m e).1 : ℚ) / (ratio m e).2 = m * 2 ^ e := by
  unfold ratio
  split
  · next he =>
    obtain ⟨k, rfl⟩ := Int.eq_ofNat_of_zero_le he
    simp
  · next he =>
    obtain ⟨k, hk⟩ := Int.eq_ofNat_of_zero_le (show 0 ≤ -e by omega)
    obtain rfl : e = -k := by omega
    simp [div_eq_mul_inv]

theorem ratio_snd_ne_zero (m : Nat) (e : Int) : (ratio m e).2 ≠ 0 := by
  unfold ratio
  split <;> simp

theorem unitsOf_div (num den : Nat) (e : Int) :
    ((unitsOf num den e).1 : ℚ) / (unitsOf num den e).2 = num / den / 2 ^ e := by
  unfold unitsOf
  split
  · next he =>
    obtain ⟨k, rfl⟩ := Int.eq_ofNat_of_zero_le he
    simp [div_div]
  · next he =>
    obtain ⟨k, hk⟩ := Int.eq_ofNat_of_zero_le (show 0 ≤ -e by omega)
    obtain rfl : e = -k := by omega
    simp [div_eq_mul_inv, mul_right_comm]

theorem unitsOf_snd_ne_zero (num : Nat) {den : Nat} (hden : den ≠ 0) (e : Int) :
    (unitsOf num den e).2 ≠ 0 := by
  unfold unitsOf
  split <;> simp [hden]

section DivRound

variable {n d : Nat} (hd : d ≠ 0)
include hd

/-- A whole number is not rounded. -/
theorem divRound_of_div_eq {m : Nat} (h : (n : ℚ) / d = m) : divRound n d = m := by
  have hn : n = m * d := by
    rw [div_eq_iff (by exact_mod_cast hd)] at h
    exact_mod_cast h
  have hpos : 0 < d := Nat.pos_of_ne_zero hd
  simp [divRound, hn, hpos]

theorem le_divRound {m : Nat} (h : (m : ℚ) ≤ n / d) : m ≤ divRound n d := by
  have hpos : 0 < d := Nat.pos_of_ne_zero hd
  rw [le_div_iff₀ (by exact_mod_cast hpos)] at h
  have hm : m ≤ n / d := (Nat.le_div_iff_mul_le hpos).mpr (by exact_mod_cast h)
  unfold divRound
  grind

theorem divRound_le {m : Nat} (h : (n : ℚ) / d < m) : divRound n d ≤ m := by
  have hpos : 0 < d := Nat.pos_of_ne_zero hd
  rw [div_lt_iff₀ (by exact_mod_cast hpos)] at h
  have hm : n / d < m := (Nat.div_lt_iff_lt_mul hpos).mpr (by exact_mod_cast h)
  unfold divRound
  grind

end DivRound

theorem two_zpow_log2_le {m : Nat} (hm : m ≠ 0) : (2 : ℚ) ^ (m.log2 : ℤ) ≤ m := by
  rw [zpow_natCast]
  exact_mod_cast Nat.log2_self_le hm

theorem lt_two_zpow_log2 (m : Nat) : (m : ℚ) < 2 ^ (m.log2 + 1 : ℤ) := by
  rw [← Nat.cast_succ, zpow_natCast]
  exact_mod_cast Nat.lt_log2_self

/-- A fraction lies between the powers of two that the lengths of its parts suggest. -/
theorem two_zpow_lt_div {num den : Nat} (hnum : num ≠ 0) (hden : den ≠ 0) {e : Int}
    (he : e = num.log2 - den.log2) :
    (2 : ℚ) ^ (e - 1) < num / den ∧ (num / den : ℚ) < 2 ^ (e + 1) := by
  have hpos : (0 : ℚ) < den := by exact_mod_cast Nat.pos_of_ne_zero hden
  constructor
  · rw [lt_div_iff₀ hpos]
    calc (2 : ℚ) ^ (e - 1) * den < 2 ^ (e - 1) * 2 ^ (den.log2 + 1 : ℤ) := by
          gcongr
          exact lt_two_zpow_log2 den
      _ = 2 ^ (num.log2 : ℤ) := by
          rw [← zpow_add₀ two_ne_zero, he]
          ring_nf
      _ ≤ num := two_zpow_log2_le hnum
  · rw [div_lt_iff₀ hpos]
    calc (num : ℚ) < 2 ^ (num.log2 + 1 : ℤ) := lt_two_zpow_log2 num
      _ = 2 ^ (e + 1) * 2 ^ (den.log2 : ℤ) := by
          rw [← zpow_add₀ two_ne_zero, he]
          ring_nf
      _ ≤ 2 ^ (e + 1) * den := by
          gcongr
          exact two_zpow_log2_le hden

/-- In units of `2 ^ e` the number has at most 53 binary places before the point, and no fewer unless
`e` is the least exponent. -/
structure ExponentFor (q : ℚ) (e : Int) : Prop where
  lt : q < 2 ^ (53 + e)
  least : -1074 ≤ e
  full : 2 ^ (52 + e) ≤ q ∨ e = -1074

theorem exponentFor_max {q : ℚ} {e : Int} (hlt : q < 2 ^ (53 + e)) (hle : 2 ^ (52 + e) ≤ q) :
    ExponentFor q (max e (-1074)) := by
  rcases le_total (-1074) e with he | he
  · rw [max_eq_left he]
    exact ⟨hlt, he, .inl hle⟩
  · rw [max_eq_right he]
    refine ⟨hlt.trans_le ?_, le_rfl, .inr rfl⟩
    gcongr
    exact one_le_two

theorem exponentFor_exponentOf {num den : Nat} (hnum : num ≠ 0) (hden : den ≠ 0) :
    ExponentFor (num / den) (exponentOf num den) := by
  let e : Int := (num.log2 : Int) - den.log2 - 52
  have he : e + 52 = num.log2 - den.log2 := by omega
  obtain ⟨hbelow, habove⟩ := two_zpow_lt_div hnum hden he
  have hunits := unitsOf_div num den e
  have hpos : 0 < (unitsOf num den e).2 := Nat.pos_of_ne_zero (unitsOf_snd_ne_zero num hden e)
  have htwo : (0 : ℚ) < 2 ^ e := by positivity
  -- the first guess may be too large by one
  change ExponentFor _ (max (if (unitsOf num den e).1 / (unitsOf num den e).2 < Nat.pow 2 52
    then e - 1 else e) (-1074))
  split
  · next hshort =>
    rw [Nat.div_lt_iff_lt_mul hpos] at hshort
    have hlt : (num / den : ℚ) / 2 ^ e < 2 ^ 52 := by
      rw [← hunits, div_lt_iff₀ (by exact_mod_cast hpos)]
      exact_mod_cast hshort
    refine exponentFor_max ?_ ?_
    · rw [div_lt_iff₀ htwo, ← zpow_natCast, ← zpow_add₀ two_ne_zero] at hlt
      rwa [show 53 + (e - 1) = ((52 : ℕ) : ℤ) + e by omega]
    · rw [show 52 + (e - 1) = e + 52 - 1 by omega]
      exact hbelow.le
  · next hlong =>
    rw [not_lt, Nat.le_div_iff_mul_le hpos] at hlong
    have hle : (2 : ℚ) ^ 52 ≤ num / den / 2 ^ e := by
      rw [← hunits, le_div_iff₀ (by exact_mod_cast hpos)]
      exact_mod_cast hlong
    refine exponentFor_max ?_ ?_
    · rwa [show 53 + e = e + 52 + 1 by omega]
    · rw [le_div_iff₀ htwo, ← zpow_natCast, ← zpow_add₀ two_ne_zero] at hle
      exact_mod_cast hle

namespace ExponentFor

variable {q : ℚ} {e : Int} (h : ExponentFor q e)
include h

theorem units_lt : q / 2 ^ e < (2 ^ 53 : Nat) := by
  rw [div_lt_iff₀ (by positivity), Nat.cast_pow, Nat.cast_two, ← zpow_natCast,
    ← zpow_add₀ two_ne_zero]
  exact h.lt

theorem le_units : (2 ^ 52 : Nat) ≤ q / 2 ^ e ∨ e = -1074 := by
  refine h.full.imp_left fun hle => ?_
  rw [le_div_iff₀ (by positivity), Nat.cast_pow, Nat.cast_two, ← zpow_natCast,
    ← zpow_add₀ two_ne_zero]
  exact hle

/-- Every exponent with which a number has 53 binary places is at least the one chosen. -/
theorem le_of_eq {m : Nat} {j : Int} (hq : q = m * 2 ^ j) (hm : m < 2 ^ 53) (hj : -1074 ≤ j) :
    e ≤ j := by
  rcases h.full with hle | rfl
  · have hlt : (2 : ℚ) ^ (52 + e) < 2 ^ (53 + j) := by
      calc (2 : ℚ) ^ (52 + e) ≤ m * 2 ^ j := hq ▸ hle
        _ < 2 ^ 53 * 2 ^ j := by
            gcongr
            exact_mod_cast hm
        _ = 2 ^ (53 + j) := by
            rw [zpow_add₀ two_ne_zero]
            rfl
    have := (zpow_lt_zpow_iff_right₀ one_lt_two).mp hlt
    omega
  · exact hj

theorem le_greatest (hq : q < limit) : e ≤ 971 := by
  rcases h.full with hle | rfl
  · have := (zpow_lt_zpow_iff_right₀ one_lt_two).mp (hle.trans_lt hq)
    omega
  · omega

theorem greatest_lt (hq : limit ≤ q) : 971 < e := by
  have := (zpow_lt_zpow_iff_right₀ one_lt_two).mp (hq.trans_lt h.lt)
  omega

end ExponentFor

/-- `m * 2 ^ e` is near to `q`, with the exponent chosen for it; it may take one place more than there
are, and then is a power of two. -/
structure Nearly (q : ℚ) (m : Nat) (e : Int) : Prop extends ExponentFor q e where
  places : m ≤ 2 ^ 53
  filled : 2 ^ 52 ≤ m ∨ e = -1074
  whole : ∀ {l : Nat}, q / 2 ^ e = l → m = l

theorem Nearly.fits {q : ℚ} {m : Nat} {e : Int} (h : Nearly q m e) (hm : m ≠ 2 ^ 53)
    (he : e ≤ 971) : Fits m e where
  places := lt_of_le_of_ne h.places hm
  least := h.least
  greatest := he
  full := h.filled

theorem ofParts_of_fits (negative : Bool) {m : Nat} {e : Int} (h : Fits m e) :
    ofParts negative m e = .finite negative m e h := dif_pos h

theorem ofParts_of_greatest_lt (negative : Bool) (m : Nat) {e : Int} (h : 971 < e) :
    ofParts negative m e = .infinite negative :=
  dif_neg fun hfits => absurd hfits.greatest (not_le_of_gt h)

section OfRatio

variable {num den : Nat} (hden : den ≠ 0) (negative : Bool)
include hden

theorem nearly_divRound (hnum : num ≠ 0) {e : Int} (he : e = exponentOf num den) :
    Nearly (num / den) (divRound (unitsOf num den e).1 (unitsOf num den e).2) e := by
  have h : ExponentFor (num / den) e := he ▸ exponentFor_exponentOf hnum hden
  have hunits := unitsOf_div num den e
  have hd := unitsOf_snd_ne_zero num hden e
  exact
    { h with
      places := divRound_le hd (hunits ▸ h.units_lt)
      filled := h.le_units.imp_left fun hle => le_divRound hd (hunits ▸ hle)
      whole := fun hl => divRound_of_div_eq hd (hunits.trans hl) }

theorem ofRatio_of_ne_zero (hnum : num ≠ 0) :
    ∃ m e, Nearly (num / den) m e ∧
      ofRatio negative num den =
        if m = 2 ^ 53 then ofParts negative (2 ^ 52) (e + 1) else ofParts negative m e := by
  refine ⟨_, _, nearly_divRound hden hnum rfl, ?_⟩
  rw [ofRatio, if_neg hnum]
  rfl

/-- A number that 53 binary places hold is taken over as it is. -/
theorem value?_ofRatio {m : Nat} {j : Int} (hq : (num / den : ℚ) = m * 2 ^ j) (hm : m < 2 ^ 53)
    (hj : -1074 ≤ j) (hlt : (m * 2 ^ j : ℚ) < limit) :
    (ofRatio negative num den).value? = some (signed negative (m * 2 ^ j)) := by
  by_cases hnum : num = 0
  · subst hnum
    rw [← hq, ofRatio, if_pos rfl]
    cases negative <;> simp [signed]
  · obtain ⟨l, e, h, heq⟩ := ofRatio_of_ne_zero hden negative hnum
    obtain ⟨k, hk⟩ := Int.eq_ofNat_of_zero_le (sub_nonneg.mpr (h.le_of_eq hq hm hj))
    obtain rfl : j = e + k := by omega
    have hwhole : (num / den : ℚ) / 2 ^ e = (m * 2 ^ k : Nat) := by
      rw [hq, zpow_add₀ two_ne_zero]
      push_cast
      rw [zpow_natCast]
      field_simp
    obtain rfl := h.whole hwhole
    have hplaces : m * 2 ^ k < 2 ^ 53 := by
      have := h.units_lt
      rw [hwhole] at this
      exact_mod_cast this
    have hgreatest := h.le_greatest (hq ▸ hlt)
    rw [heq, if_neg hplaces.ne, ofParts_of_fits negative (h.fits hplaces.ne hgreatest), value?,
      zpow_add₀ two_ne_zero, zpow_natCast]
    push_cast
    rw [mul_right_comm, mul_assoc]

theorem ofRatio_of_limit_le (hq : limit ≤ (num / den : ℚ)) :
    ofRatio negative num den = .infinite negative := by
  have hnum : num ≠ 0 := by
    rintro rfl
    rw [Nat.cast_zero, zero_div] at hq
    exact absurd hq (not_le_of_gt (zpow_pos two_pos _))
  obtain ⟨l, e, h, heq⟩ := ofRatio_of_ne_zero hden negative hnum
  have hgreatest := h.greatest_lt hq
  have hcarried : 971 < e + 1 := by omega
  rw [heq, ofParts_of_greatest_lt negative _ hgreatest, ofParts_of_greatest_lt negative _ hcarried,
    ite_self]

end OfRatio

theorem scale_of_value?_eq_none {x : Binary64} (h : x.value? = none) (k : Nat) : x.scale k = x := by
  cases x with
  | notANumber => rfl
  | infinite negative => rfl
  | finite negative m e fits => cases h

theorem abs_signed (negative : Bool) {q : ℚ} (hq : 0 ≤ q) : |signed negative q| = q := by
  cases negative <;> simp [signed, abs_of_nonneg hq]

theorem signed_mul (negative : Bool) (q r : ℚ) :
    signed negative q * r = signed negative (q * r) := by
  cases negative <;> simp [signed]

/-- Doubling a finite number is exact, or the number is too large after it. -/
theorem value?_scale {x : Binary64} {q : ℚ} (hq : x.value? = some q) (k : Nat) :
    |q| * 2 ^ k < limit ∧ (x.scale k).value? = some (q * 2 ^ k) ∨
      limit ≤ |q| * 2 ^ k ∧ ∃ negative, x.scale k = .infinite negative := by
  cases x with
  | notANumber => cases hq
  | infinite negative => cases hq
  | finite negative m e fits =>
    obtain rfl : signed negative (m * 2 ^ e) = q := by simpa [value?] using hq
    have hdouble : (m * 2 ^ e : ℚ) * 2 ^ k = m * 2 ^ (e + k) := by
      rw [zpow_add₀ two_ne_zero, zpow_natCast, mul_assoc]
    have hratio := ratio_div m (e + k)
    have hden := ratio_snd_ne_zero m (e + k)
    rw [abs_signed negative (by positivity), signed_mul, hdouble]
    rcases lt_or_ge (m * 2 ^ (e + k) : ℚ) limit with hlt | hle
    · have hleast : -1074 ≤ e + k := fits.least.trans (by omega)
      exact .inl ⟨hlt, value?_ofRatio hden negative hratio fits.places hleast hlt⟩
    · exact .inr ⟨hle, negative, ofRatio_of_limit_le hden negative (hratio ▸ hle)⟩

end SchemaScript.Binary64
