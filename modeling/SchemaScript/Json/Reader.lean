import SchemaScript.Json.Basic

/-! Reading JSON texts. The grammar is that of the standard, with the three further literals `NaN`,
`Infinity` and `-Infinity`; escapes of lone surrogates are refused, as are nesting beyond a limit and
numbers with more digits before the point than a limit. A sequence of items is read by one combinator,
given the reader of its items, so that reading a value recurs on the depth that is left. -/

namespace SchemaScript.Json

/-- The greatest depth of nesting and the greatest number of digits before the point of a number. -/
structure Limits where
  depth : Nat
  digits : Nat

def isSpace (c : Char) : Bool := c == ' ' || c == '\t' || c == '\n' || c == '\r'

def skipSpace (cs : List Char) : List Char := cs.dropWhile isSpace

def hexValue? (c : Char) : Option Nat :=
  if '0' ≤ c ∧ c ≤ '9' then some (c.toNat - '0'.toNat)
  else if 'a' ≤ c ∧ c ≤ 'f' then some (c.toNat - 'a'.toNat + 10)
  else if 'A' ≤ c ∧ c ≤ 'F' then some (c.toNat - 'A'.toNat + 10)
  else none

def codeUnit? (a b c d : Char) : Option Nat := do
  let a ← hexValue? a
  let b ← hexValue? b
  let c ← hexValue? c
  let d ← hexValue? d
  some (((a * 16 + b) * 16 + c) * 16 + d)

def isHighSurrogate (n : Nat) : Bool := 0xD800 ≤ n && n < 0xDC00

def isLowSurrogate (n : Nat) : Bool := 0xDC00 ≤ n && n < 0xE000

/-- What a backslash and this letter stand for. -/
def escaped? : Char → Option Char
  | '"' => some '"'
  | '\\' => some '\\'
  | '/' => some '/'
  | 'b' => some '\x08'
  | 'f' => some '\x0c'
  | 'n' => some '\n'
  | 'r' => some '\r'
  | 't' => some '\t'
  | _ => none

/-- Reads the characters of a string up to its closing quote. -/
def readString : List Char → Option (List Char × List Char)
  | [] => none
  | '"' :: cs => some ([], cs)
  | '\\' :: 'u' :: a :: b :: c :: d :: cs =>
    match codeUnit? a b c d with
    | none => none
    | some high =>
      if isHighSurrogate high then
        match cs with
        | '\\' :: 'u' :: a :: b :: c :: d :: cs =>
          match codeUnit? a b c d with
          | none => none
          | some low =>
            if isLowSurrogate low then
              (readString cs).map fun (s, rest) =>
                (Char.ofNat (0x10000 + (high - 0xD800) * 0x400 + (low - 0xDC00)) :: s, rest)
            else none
        | _ => none
      else if isLowSurrogate high then none
      else (readString cs).map fun (s, rest) => (Char.ofNat high :: s, rest)
  | '\\' :: e :: cs =>
    match escaped? e with
    | none => none
    | some c => (readString cs).map fun (s, rest) => (c :: s, rest)
  | c :: cs =>
    if c == '\\' || c.toNat < 0x20 then none
    else (readString cs).map fun (s, rest) => (c :: s, rest)

def digitsValue (ds : List Char) : Nat :=
  ds.foldl (fun n d => n * 10 + (d.toNat - '0'.toNat)) 0

/-- Takes the literal off the front. -/
def literal? (word : List Char) (cs : List Char) : Option (List Char) :=
  if word.isPrefixOf cs then some (cs.drop word.length) else none

/-- The part of a number after its point, if there is one: at least one digit must follow it. -/
def readFraction : List Char → Option (Option (List Char) × List Char)
  | '.' :: cs =>
    let ds := cs.takeWhile Char.isDigit
    if ds.isEmpty then none else some (some ds, cs.dropWhile Char.isDigit)
  | cs => some (none, cs)

def readExponent (cs : List Char) : Option (Option Int × List Char) :=
  match cs with
  | e :: rest =>
    if e == 'e' || e == 'E' then
      let (negative, rest) :=
        match rest with
        | '-' :: r => (true, r)
        | '+' :: r => (false, r)
        | r => (false, r)
      let ds := rest.takeWhile Char.isDigit
      if ds.isEmpty then none
      else
        let n : Int := digitsValue ds
        some (some (if negative then -n else n), rest.dropWhile Char.isDigit)
    else some (none, cs)
  | [] => some (none, cs)

/-- Reads a number without its sign. -/
def readMagnitude (limits : Limits) (negative : Bool) (cs : List Char) : Option (Json × List Char) :=
  let whole := cs.takeWhile Char.isDigit
  if whole.isEmpty || (whole.head? == some '0' && whole.length != 1)
      || limits.digits < whole.length then none
  else do
    let (fraction, cs) ← readFraction (cs.dropWhile Char.isDigit)
    let (exponent, cs) ← readExponent cs
    match fraction, exponent with
    | none, none =>
      let n : Int := digitsValue whole
      some (.int (if negative then -n else n), cs)
    | _, _ =>
      let ds := fraction.getD []
      let e := exponent.getD 0 - ds.length
      some (.float (.ofDecimal negative (digitsValue (whole ++ ds)) e), cs)

def readScalar (limits : Limits) : List Char → Option (Json × List Char)
  | '"' :: cs => (readString cs).map fun (s, rest) => (.string (String.ofList s), rest)
  | 'n' :: cs => (literal? "ull".toList cs).map (.null, ·)
  | 't' :: cs => (literal? "rue".toList cs).map (.bool true, ·)
  | 'f' :: cs => (literal? "alse".toList cs).map (.bool false, ·)
  | 'N' :: cs => (literal? "aN".toList cs).map (.float .notANumber, ·)
  | 'I' :: cs => (literal? "nfinity".toList cs).map (.float (.infinite false), ·)
  | '-' :: 'I' :: cs => (literal? "nfinity".toList cs).map (.float (.infinite true), ·)
  | '-' :: cs => readMagnitude limits true cs
  | cs => readMagnitude limits false cs

/-- Reads items that a comma separates, at least one, up to the closing character. Every item takes a
character, so the length of the text bounds their number. -/
def readItems (close : Char) (item : List Char → Option (α × List Char)) :
    (bound : Nat) → List Char → Option (List α × List Char)
  | 0, _ => none
  | bound + 1, cs =>
    match item (skipSpace cs) with
    | none => none
    | some (a, cs) =>
      match skipSpace cs with
      | [] => none
      | c :: cs =>
        if c == close then some ([a], cs)
        else if c == ',' then (readItems close item bound cs).map fun (as, rest) => (a :: as, rest)
        else none

def readSequence (close : Char) (item : List Char → Option (α × List Char)) (bound : Nat)
    (cs : List Char) : Option (List α × List Char) :=
  match skipSpace cs with
  | [] => none
  | c :: rest => if c == close then some ([], rest) else readItems close item bound (c :: rest)

def readMember (value : List Char → Option (Json × List Char)) :
    List Char → Option ((String × Json) × List Char)
  | '"' :: cs =>
    match readString cs with
    | none => none
    | some (key, cs) =>
      match skipSpace cs with
      | ':' :: cs => (value (skipSpace cs)).map fun (v, rest) => ((String.ofList key, v), rest)
      | _ => none
  | _ => none

/-- Reads the value that the text starts with, nested at most `depth` deep. -/
def readValue (limits : Limits) (bound : Nat) : (depth : Nat) → List Char → Option (Json × List Char)
  | 0, cs => readScalar limits cs
  | depth + 1, cs =>
    match cs with
    | '[' :: cs =>
      (readSequence ']' (readValue limits bound depth) bound cs).map fun (v, rest) => (.array v, rest)
    | '\x7b' :: cs =>
      (readSequence '\x7d' (readMember (readValue limits bound depth)) bound cs).map
        fun (v, rest) => (.object v, rest)
    | cs => readScalar limits cs

/-- The value a text holds, which may have space around it and nothing else. -/
def parse? (limits : Limits) (cs : List Char) : Option Json :=
  match readValue limits cs.length limits.depth (skipSpace cs) with
  | some (v, rest) => if (skipSpace rest).isEmpty then some v else none
  | none => none

end SchemaScript.Json
