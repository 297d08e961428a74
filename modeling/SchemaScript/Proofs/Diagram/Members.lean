import SchemaScript.Diagram.FromJson
import SchemaScript.Diagram.ToJson

/-! The JSON value of a diagram is read back as that diagram: every member is found under its
camel-case key, and what a member is written as is what its reader takes for it. -/

namespace SchemaScript

/-- Upper case and without blanks, the name of a dialect is a spelling of it. -/
theorem Dialect.parse?_name (d : Dialect) : parse? d.name = some d := by
  cases d <;> decide +kernel

namespace Checked

@[simp] theorem under_accepted (step : Step) (a : α) : (accepted a).under step = accepted a := rfl

@[simp] theorem map_accepted (f : α → β) (a : α) : f <$> accepted a = accepted (f a) := rfl

@[simp] theorem seq_accepted (f : α → β) (a : α) : accepted f <*> accepted a = accepted (f a) := rfl

@[simp] theorem object_object (model : String) (read : List (String × Json) → Checked α)
    (members : List (String × Json)) : object model read (.object members) = read members := rfl

@[simp] theorem string_string (s : String) : string (.string s) = accepted s := rfl

@[simp] theorem flag_bool (b : Bool) : flag (.bool b) = accepted b := rfl

/-- What an optional value is written as is read back, if the value itself is and is not null. -/
theorem orNull_ofOption {read : Json → Checked α} {write : α → Json}
    (hread : ∀ a, read (write a) = accepted a) (hnull : ∀ a, write a ≠ .null) (o : Option α) :
    orNull read (.ofOption write o) = accepted o := by
  cases o with
  | none => rfl
  | some a =>
    have h : orNull read (write a) = map some (read (write a)) := by
      unfold orNull
      split
      · exact absurd ‹_› (hnull a)
      · rfl
    rw [Json.ofOption, h, hread]
    rfl

@[simp] theorem orNull_integer (o : Option Int) : orNull integer (.ofOption .int o) = accepted o :=
  have hread (i : Int) : integer (.int i) = accepted i := rfl
  orNull_ofOption hread (by simp) o

@[simp] theorem orNull_string (o : Option String) :
    orNull string (.ofOption .string o) = accepted o :=
  orNull_ofOption string_string (by simp) o

@[simp] theorem defaultText_ofOption (o : Option String) :
    defaultText (.ofOption .string o) = accepted o := by
  cases o <;> rfl

@[simp] theorem orNull_dialect (o : Option Dialect) :
    orNull dialect (.ofOption (.string ·.name) o) = accepted o :=
  orNull_ofOption (fun d => by simp [dialect, Dialect.parse?_name]) (by simp) o

/-- The items of a list are read back, if every value is. -/
theorem list_map {read : Json → Checked α} {write : α → Json}
    (h : ∀ a, read (write a) = accepted a) (as : List α) :
    list read (.array (as.map write)) = accepted as := by
  have hitems (i : Nat) : items read i (as.map write) = accepted as := by
    induction as generalizing i with
    | nil => rfl
    | cons a as ih =>
      simp only [List.map_cons, items, h, ih (i + 1), under_accepted]
      rfl
  exact hitems 0

@[simp] theorem list_string (ss : List String) : list string (.strings ss) = accepted ss :=
  list_map string_string ss

end Checked

theorem Field.ofJson_toJson (f : Field) : Field.ofJson f.toJson = .accepted f := by
  simp [Field.ofJson, Field.toJson, Field.ofMembers, Key.required, Key.withDefault, Key.find?,
    Key.word, Json.member?, List.lookup_cons]

theorem Index.ofJson_toJson (i : Index) : Index.ofJson i.toJson = .accepted i := by
  simp [Index.ofJson, Index.toJson, Index.ofMembers, Key.required, Key.withDefault, Key.find?,
    Key.word, Json.member?, List.lookup_cons]

theorem Table.ofJson_toJson (t : Table) : Table.ofJson t.toJson = .accepted t := by
  simp [Table.ofJson, Table.toJson, Table.ofMembers, Key.required, Key.withDefault, Key.find?,
    Key.word, Json.member?, List.lookup_cons, Checked.list_map Field.ofJson_toJson,
    Checked.list_map Index.ofJson_toJson]

theorem Relationship.ofJson_toJson (r : Relationship) :
    Relationship.ofJson r.toJson = .accepted r := by
  simp [Relationship.ofJson, Relationship.toJson, Relationship.ofMembers, Relationship.ofParts,
    Key.required, Key.withDefault, Key.find?, Key.word, Json.member?, List.lookup_cons]

theorem Diagram.ofJson_toJson (d : Diagram) : Diagram.ofJson d.toJson = .accepted d := by
  simp [Diagram.ofJson, Diagram.toJson, Diagram.ofMembers, Key.withDefault, Key.find?, Key.word,
    Json.member?, List.lookup_cons, Checked.list_map Table.ofJson_toJson,
    Checked.list_map Relationship.ofJson_toJson]

end SchemaScript
