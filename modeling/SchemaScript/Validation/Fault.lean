import SchemaScript.Dialect
import SchemaScript.Number.Whole

/-! What can be wrong with a value that is read as a diagram or as settings. A fault is a mismatch and
the place of the offending value, from the outermost object inwards. The wording of two mismatches
depends on whether the value came as a text or was already a value. -/

namespace SchemaScript

inductive Mismatch where
  | malformed
  | missing
  | notString
  | notList
  | notObject (model : String)
  | notInteger
  | integerText
  | integerTooLarge
  | fractional
  | notFinite
  | flagText
  | notFlag
  | numberText
  | notNumber
  | notDialect
  | unknownDialect (value : String)
  | notPath
  | number (e : NumberError)
  deriving DecidableEq, Repr

/-- The form in which a value came. -/
inductive Form where
  | value | text
  deriving DecidableEq, Repr

inductive Step where
  | key (name : String)
  | item (index : Nat)
  deriving DecidableEq, Repr

structure Fault where
  path : List Step
  mismatch : Mismatch
  deriving DecidableEq, Repr

namespace Mismatch

def code : Mismatch → String
  | malformed => "json_invalid"
  | missing => "missing"
  | notString => "string_type"
  | notList => "list_type"
  | notObject _ => "model_type"
  | notInteger => "int_type"
  | integerText => "int_parsing"
  | integerTooLarge => "int_parsing_size"
  | fractional => "int_from_float"
  | notFinite => "finite_number"
  | flagText => "bool_parsing"
  | notFlag => "bool_type"
  | numberText => "float_parsing"
  | notNumber => "float_type"
  | notDialect => "enum"
  | unknownDialect _ | number _ => "value_error"
  | notPath => "path_type"

/-- The names of all dialects in single quotes, the last two joined by "or". -/
def dialectChoice : String :=
  let quote (d : Dialect) := "'" ++ d.name ++ "'"
  ", ".intercalate ((Dialect.all.take 5).map quote) ++ " or "
    ++ ", ".intercalate ((Dialect.all.drop 5).map quote)

def message (form : Form) : Mismatch → String
  | malformed => "Invalid JSON"
  | missing => "Field required"
  | notString => "Input should be a valid string"
  | notList => match form with
    | .value => "Input should be a valid list"
    | .text => "Input should be a valid array"
  | notObject model => match form with
    | .value => "Input should be a valid dictionary or instance of " ++ model
    | .text => "Input should be an object"
  | notInteger => "Input should be a valid integer"
  | integerText => "Input should be a valid integer, unable to parse string as an integer"
  | integerTooLarge =>
    "Unable to parse input string as an integer, exceeded maximum size"
  | fractional => "Input should be a valid integer, got a number with a fractional part"
  | notFinite => "Input should be a finite number"
  | flagText => "Input should be a valid boolean, unable to interpret input"
  | notFlag => "Input should be a valid boolean"
  | numberText => "Input should be a valid number, unable to parse string as a number"
  | notNumber => "Input should be a valid number"
  | notDialect => "Input should be " ++ dialectChoice
  | unknownDialect value => "Value error, " ++ Dialect.unknownMessage value
  | number e => "Value error, " ++ e.message
  | notPath => "Input is not a valid path for <class 'pathlib.Path'>"

end Mismatch

/-- The first line of a report on faults in a model. -/
def faultSummary (faults : List Fault) (model : String) : String :=
  toString faults.length ++ (if faults.length = 1 then " validation error for " else
    " validation errors for ") ++ model

end SchemaScript
