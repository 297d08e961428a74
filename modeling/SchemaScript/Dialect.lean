import SchemaScript.Text.Blank
import SchemaScript.Text.Case

/-! The SQL dialects a script can be adapted to, and the spellings a user may give them. A spelling is
read without regard to case and to blanks around it, and with a hyphen or a space for an
underscore. -/

namespace SchemaScript

inductive Dialect where
  | generic | postgresql | mysql | mariadb | sqlServer | sqlite
  deriving DecidableEq, Repr, Inhabited

namespace Dialect

def all : List Dialect := [generic, postgresql, mysql, mariadb, sqlServer, sqlite]

def name : Dialect → String
  | generic => "GENERIC"
  | postgresql => "POSTGRESQL"
  | mysql => "MYSQL"
  | mariadb => "MARIADB"
  | sqlServer => "SQL_SERVER"
  | sqlite => "SQLITE"

/-- Other names in common use. -/
def aliases : List (String × Dialect) :=
  [("POSTGRES", postgresql), ("PG", postgresql), ("MSSQL", sqlServer), ("SQLSERVER", sqlServer),
    ("SQLITE3", sqlite)]

def spellings : List (String × Dialect) := all.map (fun d => (d.name, d)) ++ aliases

def joinWords (c : Char) : Char := if c == '-' || c == ' ' then '_' else c

/-- The form in which a spelling is looked up. -/
def key (s : String) : String :=
  String.ofList (((Text.trim s.toList).flatMap Text.upperChar).map joinWords)

def parse? (s : String) : Option Dialect := spellings.lookup (key s)

/-- What is said of a text that names no dialect. -/
def unknownMessage (s : String) : String :=
  "Unknown database type '" ++ s ++ "'. Expected one of: " ++ ", ".intercalate (all.map name)

end Dialect

end SchemaScript
