/-! White space as texts are trimmed of it. Two sets are in use: the characters with Unicode's
property White_Space, and the larger set of blanks, which adds the four information separators
U+001C to U+001F. Script texts, dialect names and replies are trimmed of blanks; numbers written
as text are trimmed of white space only. -/

namespace SchemaScript.Text

def isWhiteSpace (c : Char) : Bool :=
  let n := c.toNat
  (0x09 ≤ n && n ≤ 0x0D) || n == 0x20 || n == 0x85 || n == 0xA0 || n == 0x1680
    || (0x2000 ≤ n && n ≤ 0x200A) || n == 0x2028 || n == 0x2029 || n == 0x202F || n == 0x205F
    || n == 0x3000

def isBlank (c : Char) : Bool :=
  isWhiteSpace c || (0x1C ≤ c.toNat && c.toNat ≤ 0x1F)

/-- Drops the characters of a class from both ends. -/
def trimBy (p : Char → Bool) (cs : List Char) : List Char :=
  ((cs.dropWhile p).reverse.dropWhile p).reverse

def trim (cs : List Char) : List Char := trimBy isBlank cs

def strip (s : String) : String := String.ofList (trim s.toList)

/-- A text is blank if it holds nothing but blanks; the empty text is blank. -/
def isBlankText (s : String) : Bool := s.toList.all isBlank

end SchemaScript.Text
