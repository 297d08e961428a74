import SchemaScript.Chat.Retry
import SchemaScript.Chat.Service

/-! The chat client. It asks the configured services in order until one replies; or only the one it is
pinned to, configured or not. Connections are opened once and kept. The error of the last service
asked is the one that counts. -/

namespace SchemaScript

structure Client where
  pinned : Option Provider
  connected : List Provider
  /-- How many requests each service has had. -/
  asked : Provider → Nat

/-- What a chat comes to: a reply or a failure, what happened on the way, and the client after it. -/
structure Spoken where
  reply : Except Failure String
  events : List Event
  client : Client

def isGiven : Option String → Bool
  | some s => s != ""
  | none => false

namespace Settings

/-- A service is configured if both of its settings are given. -/
def configures (s : Settings) : Provider → Bool
  | .openai => isGiven s.openaiKey && isGiven s.openaiModel
  | .gemini => isGiven s.geminiKey && isGiven s.geminiModel
  | .localServer => isGiven s.localUrl && isGiven s.localModel

def providers (s : Settings) : List Provider := Provider.all.filter s.configures

def modelOf (s : Settings) : Provider → Option String
  | .openai => s.openaiModel
  | .gemini => s.geminiModel
  | .localServer => s.localModel

/-- The address of a local server ends in the version of its interface. -/
def baseUrl (url : String) : String :=
  let cs := (url.toList.reverse.dropWhile (· == '/')).reverse
  if "/v1".toList.isSuffixOf cs then String.ofList cs else String.ofList (cs ++ "/v1".toList)

end Settings

namespace Client

def fresh : Client := ⟨none, [], fun _ => 0⟩

/-- What is opened for a service, if its settings allow it. -/
structure Connection where
  url : Option String
  key : String
  /-- What reports call the service. -/
  label : String

/-- The settings of completion services are looked at whether or not they are connected; those of the
prompt service only to connect it. A local server accepts any key. -/
def connection (services : Services) (s : Settings) (c : Client) (p : Provider) :
    Except Failure Connection :=
  match p with
  | .openai =>
    if isGiven s.openaiKey then .ok ⟨none, s.openaiKey.getD "", "OpenAI"⟩
    else .error (.missingKey "OPENAI_API_KEY")
  | .localServer =>
    match s.localUrl with
    | none => .error .missingUrl
    | some url =>
      let url := Settings.baseUrl url
      .ok ⟨some url, "not-needed", "local LLM at " ++ url⟩
  | .gemini =>
    if c.connected.contains .gemini then .ok ⟨none, "", "Gemini"⟩
    else if !services.promptPackage then .error .packageMissing
    else if isGiven s.geminiKey then .ok ⟨none, s.geminiKey.getD "", "Gemini"⟩
    else .error (.missingKey "GEMINI_API_KEY")

/-- Opens a connection unless it is open already. -/
def connect (s : Settings) (c : Client) (p : Provider) (k : Connection) : List Event × Client :=
  if c.connected.contains p then ([], c)
  else
    ([.connect p k.url k.key s.timeout,
      .report (.note .debug Journal.client ("Initialized " ++ p.name ++ " client"))],
      { c with connected := c.connected ++ [p] })

def modelText (model : Option String) : String := model.getD "None"

def sendEntry (s : Settings) (p : Provider) (label : String) : Entry :=
  .note .debug Journal.client ("Sending chat request to " ++ label ++ " " ++ modelText (s.modelOf p)
    ++ " (temperature=" ++ s.temperature.text ++ ")")

def receivedEntry (content : String) : Entry :=
  .note .debug Journal.client ("Received response (" ++ toString content.length ++ " chars)")

/-- The kinds of error that count as a timeout of a service. -/
def timeoutKinds : Provider → List ErrorKind
  | .gemini => [.timeout]
  | _ => [.requestTimeout, .timeout]

def policy (s : Settings) (p : Provider) (label : String) : RetryPolicy :=
  .backoff s.maxRetries (.binary s.retryDelay) (timeoutKinds p)
    (label ++ " call to " ++ modelText (s.modelOf p))

def question (s : Settings) (p : Provider) (ms : List Message) : Except Failure Question :=
  match p with
  | .gemini => do return .prompt (← Message.prompt ms) s.timeout
  | _ => .ok (.messages ms)

/-- What a step of a run shows: an attempt sends the request, and reports the content it receives. -/
def stepEvents (r : Request) (outcome : Nat → Except Failure String) : RetryStep → List Event
  | .attempt i =>
    .request r ::
      match outcome i with
      | .ok content => [.report (receivedEntry content)]
      | .error _ => []
  | .wait d => [.wait d.seconds]
  | .report e => [.report e]

/-- Sends a question to a service until it is answered or given up. -/
def send (services : Services) (s : Settings) (c : Client) (p : Provider) (label : String)
    (q : Question) : Spoken :=
  let r : Request := ⟨p, s.modelOf p, q, s.temperature⟩
  let outcome := fun i => (services.answer p (c.asked p + i)).content label
  let run := (policy s p label).run outcome
  { reply := run.result
    events := .report (sendEntry s p label) :: run.steps.flatMap (stepEvents r outcome)
    client := { c with
      asked := fun o => if o = p then c.asked p + run.calls else c.asked o } }

/-- Asks one service. -/
def ask (services : Services) (s : Settings) (c : Client) (p : Provider) (ms : List Message) :
    Spoken :=
  match connection services s c p with
  | .error f => ⟨.error f, [], c⟩
  | .ok k =>
    let (opening, c) := connect s c p k
    match question s p ms with
    | .error f => ⟨.error f, opening, c⟩
    | .ok q =>
      let spoken := send services s c p k.label q
      { spoken with events := opening ++ spoken.events }

def fallbackEntry (p : Provider) (f : Failure) : Entry :=
  .note .warning Journal.client (p.name ++ " call failed: " ++ f.message
    ++ ". Falling back to next provider...")

/-- Asks services in order until one replies. -/
def askInTurn (services : Services) (s : Settings) (c : Client) (ms : List Message) :
    List Provider → Spoken
  | [] => ⟨.error .noProvider, [], c⟩
  | [p] => c.ask services s p ms
  | p :: ps =>
    let first := c.ask services s p ms
    match first.reply with
    | .ok _ => first
    | .error f =>
      let rest := askInTurn services s first.client ms ps
      { rest with events := first.events ++ .report (fallbackEntry p f) :: rest.events }

def chat (services : Services) (s : Settings) (c : Client) (ms : List Message) : Spoken :=
  match c.pinned with
  | some p => c.ask services s p ms
  | none => c.askInTurn services s ms s.providers

/-- Pins the client to a service, or unpins it. -/
def pin (c : Client) (p : Option Provider) : Client := { c with pinned := p }

def pinEntry (p : Option Provider) : Entry :=
  .note .info Journal.client ("Forced LLM provider set to: " ++ (p.map (·.name)).getD "None")

def disconnect (c : Client) : Client := { c with connected := [] }

end Client

end SchemaScript
