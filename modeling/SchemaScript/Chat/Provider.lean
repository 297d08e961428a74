/-! The services a chat can ask. -/

namespace SchemaScript

inductive Provider where
  | openai | gemini | localServer
  deriving DecidableEq, Repr

namespace Provider

/-- All services, in the order in which they are preferred. -/
def all : List Provider := [openai, gemini, localServer]

def name : Provider → String
  | openai => "openai"
  | gemini => "gemini"
  | localServer => "local"

def parse? (s : String) : Option Provider := all.find? (·.name == s)

def unknownMessage (s : String) : String :=
  "Unknown LLM provider '" ++ s ++ "'. Expected one of: " ++ ", ".intercalate (all.map name)

end Provider

end SchemaScript
