/-! Whole numbers and their decimal texts. A number of too many digits has no text, and a text of too
many digits is not read as a number. -/

namespace SchemaScript

/-- The most digits that are printed or read. -/
def digitLimit : Nat := 4300

/-- How many digits a number has, its sign apart. -/
def digitCount (i : Int) : Nat := (Nat.toDigits 10 i.natAbs).length

inductive NumberError where
  | tooManyDigits
  deriving DecidableEq, Repr

def NumberError.message : NumberError → String
  | tooManyDigits => "Exceeds the limit (" ++ toString digitLimit ++ " digits) for integer string " ++
      "conversion; use sys.set_int_max_str_digits() to increase the limit"

/-- The text of a number, unless it has too many digits. -/
def printWhole (i : Int) : Except NumberError String :=
  if digitCount i ≤ digitLimit then .ok (toString i) else .error .tooManyDigits

end SchemaScript
