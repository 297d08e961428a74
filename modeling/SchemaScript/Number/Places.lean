import SchemaScript.Number.Decimal

/-! Decimal texts of binary64 numbers with as many digits as asked for: with a number of places behind
the point, with a number of places in exponent form, or in whichever of the two suits the size of the
number. The exact value is rounded, a tie going to the even digit. -/

namespace SchemaScript.Binary64

/-- Whether a point is written that no digit follows. -/
abbrev KeepsPoint := Bool

/-- The digits, padded to at least `width`. -/
def paddedDigits (width n : Nat) : List Char :=
  let ds := digitText n
  List.replicate (width - ds.length) '0' ++ ds

/-- A point before the last `places` digits. -/
def pointed (keepsPoint : KeepsPoint) (places n : Nat) : List Char :=
  let ds := paddedDigits (places + 1) n
  let whole := ds.take (ds.length - places)
  if places = 0 then whole ++ (if keepsPoint then ['.'] else [])
  else whole ++ '.' :: ds.drop (ds.length - places)

/-- The magnitude `num / den` with a number of places. -/
def withPlaces (keepsPoint : KeepsPoint) (places num den : Nat) : List Char :=
  pointed keepsPoint places (divRound (num * Nat.pow 10 places) den)

/-- `num / den` to `places + 1` digits, and the exponent of the first of them. -/
def leadingDigits (places num den : Nat) : Nat × Int :=
  if num = 0 then (0, 0)
  else
    let k := decimalExponent num den
    let shift : Int := places - k
    let n := if 0 ≤ shift then divRound (num * Nat.pow 10 shift.toNat) den
      else divRound num (den * Nat.pow 10 (-shift).toNat)
    if n = Nat.pow 10 (places + 1) then (Nat.pow 10 places, k + 1) else (n, k)

/-- The magnitude `num / den` in exponent form with a number of places. -/
def withExponent (keepsPoint : KeepsPoint) (places num den : Nat) : List Char :=
  let (n, k) := leadingDigits places num den
  pointed keepsPoint places n ++ 'e' :: exponentText k

/-- Drops the zeros at the end of a fraction, and its point if nothing else is left of it. -/
def dropFractionZeros (cs : List Char) : List Char :=
  if cs.contains '.' then
    let kept := dropTrailingZeros cs
    if kept.getLast? == some '.' then kept.dropLast else kept
  else cs

/-- The magnitude `num / den` to a number of digits, in exponent form below 10⁻⁴ and where the digits do
not reach the point. Zeros at the end of the fraction are dropped unless they are to be kept. -/
def withDigits (keepsZeros : Bool) (digits num den : Nat) : List Char :=
  let digits := max 1 digits
  let k := (leadingDigits (digits - 1) num den).2
  if -4 ≤ k ∧ k < digits then
    let cs := withPlaces keepsZeros (digits - 1 - k).toNat num den
    if keepsZeros then cs else dropFractionZeros cs
  else
    let cs := withExponent keepsZeros (digits - 1) num den
    if keepsZeros then cs
    else dropFractionZeros (cs.takeWhile (· != 'e')) ++ cs.dropWhile (· != 'e')

end SchemaScript.Binary64
