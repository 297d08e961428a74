import SchemaScript.Adaptation.Fence
import SchemaScript.Adaptation.Session

/-! Adapting a script to a dialect: one message asks a chat for it, and the script is taken out of the
reply. A chat that fails and a reply that is blank are both errors of the adaptation. -/

namespace SchemaScript

inductive AdaptationError where
  | prompt (e : PromptError)
  | chat (d : Dialect) (f : Failure)
  | emptyReply (d : Dialect)
  deriving DecidableEq, Repr

namespace AdaptationError

def failed (d : Dialect) (reason : String) : String :=
  "Failed to adapt SQL to " ++ d.name ++ ": " ++ reason

def message : AdaptationError → String
  | prompt e => e.message
  | chat d f => failed d f.message
  | emptyReply d => failed d "empty response"

end AdaptationError

/-- A chat gets messages and replies, perhaps with nothing, or fails. -/
abbrev Chat := List Message → OnSession (Except Failure (Option String))

/-- An adapter turns a script into one for a dialect, or fails in a way of its own. -/
abbrev Adapter (ε : Type) := Dialect → String → OnSession (Except ε String)

namespace Dialect

/-- The script in a reply. -/
def conclude (d : Dialect) : Except Failure (Option String) → Except AdaptationError String
  | .error f => .error (.chat d f)
  | .ok none => .error (.emptyReply d)
  | .ok (some reply) =>
    if Text.isBlankText reply then .error (.emptyReply d) else .ok (Fence.strip reply)

def adaptingEntry (d : Dialect) : Entry :=
  .note .info Journal.adaptation ("Adapting SQL script to " ++ d.name)

def chatFailedEntry (d : Dialect) (f : Failure) : Entry :=
  .note .error Journal.adaptation ("Dialect adaptation to " ++ d.name ++ " failed: " ++ f.message)

/-- Asks a chat once for the script of a prompt, if the prompt could be made. -/
def requestScript (chat : Chat) (d : Dialect) :
    Except PromptError String → OnSession (Except AdaptationError String)
  | .error e => return .error (.prompt e)
  | .ok prompt => do
    d.promptNames.forM Session.loadPrompt
    Session.report [d.adaptingEntry]
    let reply ← chat [.user prompt]
    match reply with
    | .error f => Session.report [d.chatFailedEntry f]
    | .ok _ => pure ()
    return d.conclude reply

/-- Adapts a script by asking a chat once. -/
def adapt (chat : Chat) : Adapter AdaptationError := fun d sql =>
  d.requestScript chat (d.exportPrompt sql)

end Dialect

namespace Session

/-- The chat client as a chat. -/
def clientChat (services : Services) : Chat := fun ms => do return some <$> (← chat services ms)

end Session

end SchemaScript
