import SchemaScript.Chat.Failure
import SchemaScript.Chat.Provider
import SchemaScript.Journal

/-! What is said to services and what they answer. A message maps keys to texts. A completion service
takes messages; a prompt service takes one text, made of the contents of the system messages and then
of the user messages. An answer may hold no content. -/

namespace SchemaScript

abbrev Message := List (String × String)

namespace Message

def user (content : String) : Message := [("role", "user"), ("content", content)]

def get (m : Message) (key : String) : Except Failure String :=
  match m.lookup key with
  | some value => .ok value
  | none => .error (.incompleteMessage key)

/-- The contents of the messages with a role. Every message has to have a role. -/
def contents (role : String) : List Message → Except Failure (List String)
  | [] => .ok []
  | m :: ms => do
    if (← m.get "role") = role then
      let content ← m.get "content"
      return content :: (← contents role ms)
    else contents role ms

/-- The messages as one prompt. -/
def prompt (ms : List Message) : Except Failure String := do
  let system ← contents "system" ms
  let user ← contents "user" ms
  return "\n\n".intercalate (system ++ user)

end Message

inductive Question where
  | messages (ms : List Message)
  | prompt (text : String) (timeout : Binary64)
  deriving DecidableEq, Repr

structure Request where
  provider : Provider
  model : Option String
  question : Question
  temperature : Binary64
  deriving DecidableEq, Repr

/-- The answer to a request: an error, the content of a completion, or a candidate with a text and
parts, where a part need not have a text. -/
inductive Answer where
  | error (e : ServiceError)
  | completion (content : Option String)
  | candidate (text : Option String) (parts : List (Option String))
  deriving DecidableEq, Repr

/-- The content of an answer. An empty completion is content, an empty candidate is none. -/
def Answer.content (label : String) : Answer → Except Failure String
  | .error e => .error (.service e)
  | .completion (some s) => .ok s
  | .completion none => .error (.noContent label)
  | .candidate text parts =>
    let s := match text with
      | some t => if t = "" then String.join (parts.filterMap id) else t
      | none => String.join (parts.filterMap id)
    if s = "" then .error (.noContent label) else .ok s

/-- What happens while a chat goes on. -/
inductive Event where
  | report (e : Entry)
  | consult (ms : List Message)
  | connect (p : Provider) (url : Option String) (key : String) (timeout : Binary64)
  | request (r : Request)
  | wait (seconds : Binary64)
  deriving DecidableEq, Repr

/-- The services at hand: how each answers its `n`-th request, and whether the package that prompt
services need is installed. -/
structure Services where
  answer : Provider → Nat → Answer
  promptPackage : Bool

end SchemaScript
