import SchemaScript.Number.Binary64

/-! Decimal texts of binary64 numbers. The shortest text has the fewest digits that read back as the
same number, and of those the nearest to it; it is positional from 10⁻⁴ up to below 10¹⁶ and in
exponent form elsewhere. The text with one place is the exact value rounded, a tie going to the
even digit. -/

namespace SchemaScript.Binary64

/-- The greatest `k` with `10 ^ k ≤ num / den`, for `num` not zero. -/
def decimalExponent (num den : Nat) : Int :=
  let k : Int := (Nat.toDigits 10 num).length - (Nat.toDigits 10 den).length
  let (n, d) := if 0 ≤ k then (num, den * Nat.pow 10 k.toNat) else (num * Nat.pow 10 (-k).toNat, den)
  if n < d then k - 1 else k

/-- The reals that read back as a finite number, as multiples of a common unit `2 ^ (e - 2)`: the
number is `4 * m` units, its neighbours above and below are 4 units away, or 2 below a power of two,
and the ends of the interval belong to it if `m` is even. -/
structure ReadBack where
  low : Nat
  value : Nat
  high : Nat
  closed : Bool

def readBack (m : Nat) (e : Int) : ReadBack :=
  { low := if m = Nat.pow 2 52 ∧ -1074 < e then 4 * m - 1 else 4 * m - 2
    value := 4 * m
    high := 4 * m + 2
    closed := m % 2 = 0 }

def ReadBack.contains (i : ReadBack) (num den : Nat) : Bool :=
  if i.closed then i.low * den ≤ num && num ≤ i.high * den
  else i.low * den < num && num < i.high * den

/-- The better of the two neighbours of the number on the grid of multiples of `10 ^ k`, as a
multiple of `10 ^ k`, if one of them reads back. -/
def onGrid? (m : Nat) (e k : Int) : Option Nat :=
  let i := readBack m e
  -- one unit `2 ^ (e - 2)` is `un / ud` steps of the grid
  let two := ratio 1 (e - 2)
  let un := if 0 ≤ k then two.1 else two.1 * Nat.pow 10 (-k).toNat
  let ud := if 0 ≤ k then two.2 * Nat.pow 10 k.toNat else two.2
  let below := i.value * un / ud
  let above := below + 1
  let reads (c : Nat) : Bool := i.contains (c * ud) un
  let gapBelow := i.value * un - below * ud
  let gapAbove := above * ud - i.value * un
  match reads below, reads above with
  | true, true =>
    some (if gapBelow < gapAbove then below else if gapAbove < gapBelow then above
      else below + below % 2)
  | true, false => some below
  | false, true => some above
  | false, false => none

/-- The first grid with a hit, from one digit to seventeen. -/
def shortestFrom (m : Nat) (e top : Int) : (more digits : Nat) → Nat × Int
  | 0, digits => (((onGrid? m e (top - digits + 1)).getD 0), top - digits + 1)
  | more + 1, digits =>
    match onGrid? m e (top - digits + 1) with
    | some d => (d, top - digits + 1)
    | none => shortestFrom m e top more (digits + 1)

/-- Digits and exponent of the shortest decimal of a finite number other than zero. -/
def shortest (m : Nat) (e : Int) : Nat × Int :=
  let (n, d) := ratio m e
  shortestFrom m e (decimalExponent n d) 16 1

def digitText (n : Nat) : List Char := Nat.toDigits 10 n

def dropTrailingZeros (cs : List Char) : List Char :=
  (cs.reverse.dropWhile (· == '0')).reverse

/-- An exponent has a sign and at least two digits. -/
def exponentText (e : Int) : List Char :=
  let ds := digitText e.natAbs
  (if e < 0 then '-' else '+') :: (if ds.length < 2 then '0' :: ds else ds)

/-- Writes the digits with the point after `point` of them, where `point` may lie outside. -/
def placePoint (ds : List Char) (point : Int) : List Char :=
  if point ≤ 0 then "0.".toList ++ List.replicate (-point).toNat '0' ++ ds
  else
    let p := point.toNat
    let whole := ds.take p ++ List.replicate (p - ds.length) '0'
    let fraction := ds.drop p
    whole ++ '.' :: (if fraction.isEmpty then ['0'] else fraction)

def magnitudeText (m : Nat) (e : Int) : List Char :=
  if m = 0 then "0.0".toList
  else
    let (digits, k) := shortest m e
    let all := digitText digits
    let ds := dropTrailingZeros all
    let point : Int := all.length + k
    if -4 < point ∧ point ≤ 16 then placePoint ds point
    else
      let head := ds.take 1
      let tail := ds.drop 1
      head ++ (if tail.isEmpty then [] else '.' :: tail) ++ 'e' :: exponentText (point - 1)

def signText (negative : Bool) : List Char := if negative then ['-'] else []

/-- The shortest text that reads back. -/
def text : Binary64 → String
  | .notANumber => "nan"
  | .infinite negative => String.ofList (signText negative ++ "inf".toList)
  | .finite negative m e _ => String.ofList (signText negative ++ magnitudeText m e)

/-- The text with exactly one place. -/
def onePlace : Binary64 → String
  | .notANumber => "nan"
  | .infinite negative => String.ofList (signText negative ++ "inf".toList)
  | .finite negative m e _ =>
    let (n, d) := ratio m e
    let tenths := divRound (n * 10) d
    String.ofList (signText negative ++ digitText (tenths / 10) ++ '.' :: digitText (tenths % 10))

end SchemaScript.Binary64
