import SchemaScript.Adaptation.Basic
import SchemaScript.Script.Export

/-! Exporting a diagram to a dialect: the canonical script is written first, with foreign keys widened,
and handed to an adapter. A diagram whose script is empty needs no adapter, and one that has no script
gets to none. -/

namespace SchemaScript

/-- Why no dialect is found to export to. -/
inductive TargetError where
  | unknownDialect (value : String)
  | settings (e : SettingsError)
  deriving DecidableEq, Repr

/-- What an export ends in that gives no script; `adapter` is an error of its adapter. -/
inductive ExportError (ε : Type) where
  | target (e : TargetError)
  | number (e : NumberError)
  | adapter (e : ε)
  deriving DecidableEq, Repr

namespace Diagram

/-- The dialect to export to: the one asked for, else the diagram's own, else the one of the
settings. -/
def exportDialect (d : Diagram) (asked : Option String) : OnSession (Except TargetError Dialect) := do
  match asked, d.dialect with
  | some value, _ =>
    match Dialect.parse? value with
    | some dialect => return .ok dialect
    | none => return .error (.unknownDialect value)
  | none, some dialect => return .ok dialect
  | none, none =>
    match ← Session.settings with
    | .ok s => return .ok s.dialect
    | .error e => return .error (.settings e)

/-- Exports to a dialect. The diagram is left with its foreign keys widened once the dialect is known,
whatever comes of the script. -/
def exportAdapted {ε : Type} (adapter : Adapter ε) (d : Diagram) (asked : Option String)
    (untilStable : Bool) : OnSession (Except (ExportError ε) String × Diagram) := do
  match ← d.exportDialect asked with
  | .error e => return (.error (.target e), d)
  | .ok dialect =>
    let e := d.exportScript true untilStable
    Session.report e.journal
    match e.sql with
    | .error f => return (.error (.number f), e.diagram)
    | .ok sql =>
      if sql = "" then return (.ok "", e.diagram)
      else
        match ← adapter dialect sql with
        | .ok adapted => return (.ok adapted, e.diagram)
        | .error f => return (.error (.adapter f), e.diagram)

end Diagram

end SchemaScript
