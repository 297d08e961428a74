import SchemaScript.Diagram.FromJson
import SchemaScript.Diagram.ToJson
import SchemaScript.Json.Reader
import SchemaScript.Json.Printer

/-! Diagrams as texts. A text is read without the blanks around it. -/

namespace SchemaScript.Diagram

def textLimits : Json.Limits := ⟨200, digitLimit⟩

def ofText (s : String) : Checked Diagram :=
  match Json.parse? textLimits (Text.trim s.toList) with
  | some v => ofJson v
  | none => .mismatch .malformed

def toText (d : Diagram) : String := d.toJson.toText

end SchemaScript.Diagram
