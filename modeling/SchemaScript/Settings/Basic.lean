import SchemaScript.Dialect
import SchemaScript.Files.Path
import SchemaScript.Number.Binary64
import SchemaScript.Validation.Scalar

/-! The settings of the program and how they are read. A setting given directly wins over one from the
environment, and that over the default; all are read as leniently as the members of a diagram. -/

namespace SchemaScript

structure Settings where
  openaiKey : Option String
  openaiModel : Option String
  geminiKey : Option String
  geminiModel : Option String
  localUrl : Option String
  localModel : Option String
  temperature : Binary64
  /-- In seconds, as is the retry delay. -/
  timeout : Binary64
  maxRetries : Int
  /-- Doubled on each retry. -/
  retryDelay : Binary64
  dialect : Dialect
  logLevel : String
  logFile : Option Path
  deriving DecidableEq, Repr, Inhabited

def Checked.path : Json → Checked Path
  | .string s => accepted (.ofText s)
  | _ => mismatch .notPath

namespace Settings

def modelName : String := "Settings"

open Checked in
def ofMembers (ms : List (String × Json)) : Checked Settings :=
  Settings.mk <$> (Key.word "openai_api_key").withDefault none (orNull string) ms
    <*> (Key.word "model_name").withDefault (some "gpt-4o-mini") (orNull string) ms
    <*> (Key.word "gemini_api_key").withDefault none (orNull string) ms
    <*> (Key.word "gemini_model").withDefault none (orNull string) ms
    <*> (Key.word "llm_url").withDefault none (orNull string) ms
    <*> (Key.word "model").withDefault none (orNull string) ms
    <*> (Key.word "temperature").withDefault (.ofInt 0) number ms
    <*> (Key.word "llm_timeout").withDefault (.ofInt 120) number ms
    <*> (Key.word "llm_max_retries").withDefault 3 integer ms
    <*> (Key.word "llm_retry_delay").withDefault (.ofInt 2) number ms
    <*> (Key.word "default_database_type").withDefault .generic Checked.dialect ms
    <*> (Key.word "log_level").withDefault "INFO" string ms
    <*> (Key.word "log_file").withDefault none (orNull path) ms

/-- Names are read without regard to case. -/
def foldNames (ms : List (String × Json)) : List (String × Json) :=
  ms.map fun (name, value) => (Text.lower name, value)

end Settings

end SchemaScript
