/-! The journal: what the operations report while they run. Every entry has a level and the name of the
part of the program that wrote it. Operations return their entries in the order in which they arise. -/

namespace SchemaScript

inductive Level where
  | debug | info | warning | error | critical
  deriving DecidableEq, Repr

namespace Level

def name : Level → String
  | debug => "DEBUG"
  | info => "INFO"
  | warning => "WARNING"
  | error => "ERROR"
  | critical => "CRITICAL"

def number : Level → Nat
  | debug => 10
  | info => 20
  | warning => 30
  | error => 40
  | critical => 50

end Level

structure Entry where
  level : Level
  origin : String
  message : String
  /-- The message of the failure that the entry shows in full. -/
  failure : Option String
  deriving DecidableEq, Repr

/-- An entry that shows no failure. -/
def Entry.note (level : Level) (origin message : String) : Entry := ⟨level, origin, message, none⟩

namespace Journal

/-- The name under which the whole program reports. -/
def root : String := "diagram2sql"

def widening : String := root ++ ".export.type_alignment"

def script : String := root ++ ".export.sql_script"

def adaptation : String := root ++ ".export.dialect_adapter"

def consistency : String := root ++ ".ir.validators"

def prompts : String := root ++ ".prompts.loader"

def client : String := root ++ ".llm.client"

def retry : String := root ++ ".llm.retry"

end Journal

end SchemaScript
