import SchemaScript.Text.Case

/-! The weight of a column type: roughly its storage size. Type names are matched without regard to
case; a type that is not listed weighs nothing, so it never replaces another. -/

namespace SchemaScript

def typeWeights : List (String × Nat) :=
  [("tinyint", 1), ("smallint", 2), ("mediumint", 3), ("integer", 4), ("bigint", 8), ("float", 4),
    ("double", 8), ("decimal", 16), ("numeric", 16)]

@[irreducible] def typeWeight (type : String) : Nat :=
  (typeWeights.lookup (Text.lower type)).getD 0

end SchemaScript
