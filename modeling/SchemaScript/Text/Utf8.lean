import SchemaScript.Text.Quoted

/-! Texts as bytes in UTF-8. Decoding reads the bytes one by one; between characters nothing is pending,
inside one the bytes read so far and the range of the next are. The first byte that no text can have
at its place ends the decoding, and is reported with the bytes of its character before it. -/

namespace SchemaScript.Text

def utf8 (s : String) : List UInt8 := s.toUTF8.toList

inductive ByteFault where
  | badStart | badTail | cutOff
  deriving DecidableEq, Repr

def ByteFault.reason : ByteFault → String
  | .badStart => "invalid start byte"
  | .badTail => "invalid continuation byte"
  | .cutOff => "unexpected end of data"

/-- Bytes that are no text: the first offending ones, and how many come before them. -/
structure Undecodable where
  position : Nat
  bytes : List UInt8
  fault : ByteFault
  deriving DecidableEq, Repr

def Undecodable.message (u : Undecodable) : String :=
  let place :=
    match u.bytes with
    | [b] => "byte 0x" ++ String.ofList (hexDigits 2 b.toNat) ++ " in position " ++ toString u.position
    | bs => "bytes in position " ++ toString u.position ++ "-"
      ++ toString (u.position + bs.length - 1)
  "'utf-8' codec can't decode " ++ place ++ ": " ++ u.fault.reason

/-- A character of several bytes of which some are read: `value` is made of their payload, `owed` more
bytes follow, and the next of them lies between `least` and `greatest`. -/
structure Pending where
  bytes : List UInt8
  value : Nat
  owed : Nat
  least : Nat
  greatest : Nat

/-- What the first byte of a character of several bytes asks for. The ranges of the second byte leave
out overlong forms, surrogates and what lies beyond the last code point. -/
def Pending.start? (b : UInt8) : Option Pending :=
  let n := b.toNat
  if 0xC2 ≤ n ∧ n < 0xE0 then some ⟨[b], n - 0xC0, 1, 0x80, 0xBF⟩
  else if n = 0xE0 then some ⟨[b], 0, 2, 0xA0, 0xBF⟩
  else if n = 0xED then some ⟨[b], 0xD, 2, 0x80, 0x9F⟩
  else if 0xE0 < n ∧ n < 0xF0 then some ⟨[b], n - 0xE0, 2, 0x80, 0xBF⟩
  else if n = 0xF0 then some ⟨[b], 0, 3, 0x90, 0xBF⟩
  else if n = 0xF4 then some ⟨[b], 4, 3, 0x80, 0x8F⟩
  else if 0xF0 < n ∧ n < 0xF4 then some ⟨[b], n - 0xF0, 3, 0x80, 0xBF⟩
  else none

def Pending.next (p : Pending) (b : UInt8) : Pending :=
  ⟨p.bytes ++ [b], p.value * 64 + (b.toNat - 0x80), p.owed - 1, 0x80, 0xBF⟩

/-- Decodes what follows `position` bytes, those of the pending character included. -/
def decodeFrom (position : Nat) : Option Pending → List UInt8 → Except Undecodable (List Char)
  | none, [] => .ok []
  | some p, [] => .error ⟨position - p.bytes.length, p.bytes, .cutOff⟩
  | none, b :: bs =>
    if b.toNat < 0x80 then (Char.ofNat b.toNat :: ·) <$> decodeFrom (position + 1) none bs
    else
      match Pending.start? b with
      | none => .error ⟨position, [b], .badStart⟩
      | some p => decodeFrom (position + 1) (some p) bs
  | some p, b :: bs =>
    if p.least ≤ b.toNat ∧ b.toNat ≤ p.greatest then
      let p := p.next b
      if p.owed = 0 then (Char.ofNat p.value :: ·) <$> decodeFrom (position + 1) none bs
      else decodeFrom (position + 1) (some p) bs
    else .error ⟨position - p.bytes.length, p.bytes, .badTail⟩

def decode (bs : List UInt8) : Except Undecodable (List Char) := decodeFrom 0 none bs

end SchemaScript.Text
