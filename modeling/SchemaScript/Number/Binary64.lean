/-! Binary floating-point numbers of 64 bits as data. A finite one is `m * 2 ^ e` with its sign, in the
one form that its significand and its exponent fit. Every number the library reads, doubles or writes
is computed on this form in exact integer arithmetic. -/

namespace SchemaScript

/-- What is asked of the significand and the exponent of a finite number: at most 53 binary places, and
no fewer unless the exponent is the least one. -/
structure Binary64.Fits (m : Nat) (e : Int) : Prop where
  places : m < Nat.pow 2 53
  least : -1074 ≤ e
  greatest : e ≤ 971
  full : Nat.pow 2 52 ≤ m ∨ e = -1074

inductive Binary64 where
  | notANumber
  | infinite (negative : Bool)
  | finite (negative : Bool) (significand : Nat) (exponent : Int)
      (fits : Binary64.Fits significand exponent)
  deriving DecidableEq, Repr, Inhabited

namespace Binary64

instance (m : Nat) (e : Int) : Decidable (Fits m e) :=
  decidable_of_iff (m < Nat.pow 2 53 ∧ -1074 ≤ e ∧ e ≤ 971 ∧ (Nat.pow 2 52 ≤ m ∨ e = -1074))
    ⟨fun ⟨hplaces, hleast, hgreatest, hfull⟩ => ⟨hplaces, hleast, hgreatest, hfull⟩,
      fun h => ⟨h.places, h.least, h.greatest, h.full⟩⟩

/-- Zero with a sign. -/
def zero (negative : Bool) : Binary64 := .finite negative 0 (-1074) (by decide)

/-- The nearest whole number to `num / den`, of two equally near ones the even one. -/
def divRound (num den : Nat) : Nat :=
  let q := num / den
  let r := num % den
  if 2 * r < den then q
  else if den < 2 * r then q + 1
  else q + q % 2

/-- `num / (den * 2 ^ e)` as a fraction of natural numbers. -/
def unitsOf (num den : Nat) (e : Int) : Nat × Nat :=
  if 0 ≤ e then (num, den * Nat.pow 2 e.toNat) else (num * Nat.pow 2 (-e).toNat, den)

/-- The exponent that leaves 53 binary places before the point of `num / den`, or the least one. -/
def exponentOf (num den : Nat) : Int :=
  let e : Int := (num.log2 : Int) - (den.log2 : Int) - 52
  let (n, d) := unitsOf num den e
  let e := if n / d < Nat.pow 2 52 then e - 1 else e
  max e (-1074)

/-- The number of this form; an exponent that is too large makes it infinite. -/
def ofParts (negative : Bool) (m : Nat) (e : Int) : Binary64 :=
  if h : Fits m e then .finite negative m e h else .infinite negative

/-- The number nearest to `num / den`; from half a unit above the largest finite one it is infinite. -/
def ofRatio (negative : Bool) (num den : Nat) : Binary64 :=
  if num = 0 then zero negative
  else
    let e := exponentOf num den
    let (n, d) := unitsOf num den e
    let m := divRound n d
    if m = Nat.pow 2 53 then ofParts negative (Nat.pow 2 52) (e + 1) else ofParts negative m e

/-- The number nearest to `digits * 10 ^ exponent`. The two early answers keep the powers of ten
small: outside 10⁻⁴⁰⁰ to 10⁴⁰⁰ the answer does not depend on the digits. -/
def ofDecimal (negative : Bool) (digits : Nat) (exponent : Int) : Binary64 :=
  if digits = 0 then zero negative
  else
    let places : Int := (Nat.toDigits 10 digits).length + exponent
    if 400 < places then .infinite negative
    else if places < -400 then zero negative
    else if 0 ≤ exponent then ofRatio negative (digits * Nat.pow 10 exponent.toNat) 1
    else ofRatio negative digits (Nat.pow 10 (-exponent).toNat)

def ofInt (i : Int) : Binary64 := ofRatio (i < 0) i.natAbs 1

/-- The magnitude of a finite number as a fraction. -/
def ratio (m : Nat) (e : Int) : Nat × Nat :=
  if 0 ≤ e then (m * Nat.pow 2 e.toNat, 1) else (m, Nat.pow 2 (-e).toNat)

/-- The whole number it equals, if it is one. -/
def toInt? : Binary64 → Option Int
  | .finite negative m e _ =>
    let (n, d) := ratio m e
    if n % d = 0 then some (if negative then -((n / d : Nat) : Int) else ((n / d : Nat) : Int)) else none
  | _ => none

/-- `x * 2 ^ k`, which is exact unless it is too large. -/
def scale (x : Binary64) (k : Nat) : Binary64 :=
  match x with
  | .finite negative m e _ =>
    let (n, d) := ratio m (e + k)
    ofRatio negative n d
  | x => x

end Binary64

end SchemaScript
