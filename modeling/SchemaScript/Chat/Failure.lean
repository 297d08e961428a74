import SchemaScript.Number.Whole
import SchemaScript.Settings.Host
import SchemaScript.Text.Case
import SchemaScript.Text.Quoted

/-! What a chat can end in instead of a reply: an error of the service that was asked, or a reason
why no service could be asked or its answer used. Some failures are transient: their message speaks of
a timeout or of a service that is unavailable for now, or their status says so. -/

namespace SchemaScript

inductive ErrorKind where
  | general | value | runtime | timeout | connection | type | status | requestTimeout
  deriving DecidableEq, Repr

namespace ErrorKind

/-- Whether an error of kind `k` is one of this kind; every error is a general one. -/
def covers (kind k : ErrorKind) : Bool := kind == general || kind == k

end ErrorKind

/-- An error of a service, with the status number of its answer if there was one. -/
structure ServiceError where
  kind : ErrorKind
  message : String
  status : Option Int
  deriving DecidableEq, Repr

/-- The number a status stands for; only numbers and flags stand for one. -/
def ServiceError.statusOf : Json → Option Int
  | .int i => some i
  | .bool b => some (if b then 1 else 0)
  | .float x => x.toInt?
  | _ => none

inductive Failure where
  | service (e : ServiceError)
  | settings (e : SettingsError)
  | noProvider
  | missingKey (name : String)
  | missingUrl
  | packageMissing
  | noContent (label : String)
  | incompleteMessage (key : String)
  | delayTooLong
  | number (e : NumberError)
  deriving DecidableEq, Repr

namespace Failure

def message : Failure → String
  | service e => e.message
  | settings e => e.message
  | noProvider => "No LLM API configured. Set either OPENAI_API_KEY/MODEL_NAME, " ++
      "GEMINI_API_KEY/GEMINI_MODEL, or LLM_URL/MODEL in .env"
  | missingKey name => name ++ " not set in environment"
  | missingUrl => "'NoneType' object has no attribute 'rstrip'"
  | packageMissing => "google-generativeai package not installed. " ++
      "Install with: pip install 'diagram2sql[gemini]'"
  | noContent label => "No content in response from " ++ label
  | incompleteMessage key => Text.quoted key
  | delayTooLong => "int too large to convert to float"
  | number e => e.message

def transientStatuses : List Int := [408, 429, 500, 502, 503, 504]

def transientPhrases : List String := ["timeout", "timed out", "temporarily unavailable"]

/-- Whether a text occurs in another. -/
def occursIn (word : List Char) : List Char → Bool
  | [] => word.isEmpty
  | c :: cs => word.isPrefixOf (c :: cs) || occursIn word cs

def status? : Failure → Option Int
  | service e => e.status
  | _ => none

/-- Whether trying again may help, as the message or the status of the failure suggests. -/
def isTransient (f : Failure) : Bool :=
  let message := (Text.lower f.message).toList
  transientPhrases.any (fun phrase => occursIn phrase.toList message)
    || f.status?.any transientStatuses.contains

/-- Whether the failure is an error of a service of one of these kinds. -/
def isOf (kinds : List ErrorKind) : Failure → Bool
  | service e => kinds.any (·.covers e.kind)
  | _ => kinds.contains .general

end Failure

end SchemaScript
