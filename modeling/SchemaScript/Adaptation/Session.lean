import SchemaScript.Chat.Client
import SchemaScript.Prompt.Catalog

/-! A session: the host, the chat client, the prompts loaded so far, and what has happened. A prompt is
reported when it is loaded for the first time. -/

namespace SchemaScript

structure Session where
  host : Host
  client : Client
  loaded : List String
  events : List Event

abbrev OnSession := StateM Session

namespace Session

def start (h : Host) : Session := ⟨h, .fresh, [], []⟩

def happen (es : List Event) : OnSession Unit :=
  modify fun s => { s with events := s.events ++ es }

def report (es : List Entry) : OnSession Unit := happen (es.map .report)

/-- What has been reported. -/
def journal (s : Session) : List Entry :=
  s.events.filterMap fun
    | .report e => some e
    | _ => none

def forgetEvents (s : Session) : Session := { s with events := [] }

def loadPrompt (name : String) : OnSession Unit := do
  if (← get).loaded.contains name then pure ()
  else
    report [Catalog.loadedEntry name]
    modify fun s => { s with loaded := s.loaded ++ [name] }

def settings : OnSession (Except SettingsError Settings) := fun s =>
  let (r, host) := Settings.current s.host
  (r, { s with host })

def configuredProviders : OnSession (Except SettingsError (List Provider)) := do
  return (·.providers) <$> (← settings)

/-- Sends messages with the settings of the host. -/
def chat (services : Services) (ms : List Message) : OnSession (Except Failure String) := do
  match ← settings with
  | .error e => return .error (.settings e)
  | .ok settings =>
    let spoken := (← get).client.chat services settings ms
    happen spoken.events
    modify fun s => { s with client := spoken.client }
    return spoken.reply

end Session

end SchemaScript
