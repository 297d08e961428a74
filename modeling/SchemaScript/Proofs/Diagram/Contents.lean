import SchemaScript.Diagram.FromJson
import SchemaScript.Proofs.Json.Members

/-! What a model takes from its object. A model looks at a few members, each under two spellings of its
key, and reads the value that it finds. So two objects give the same model if for each of these
members they hold the same value, or values that mean the same to this member. -/

namespace SchemaScript

namespace Key

open Json (keys member?)

variable {key : Key} {k k' : String} {v : Json} {ms ms' : List (String × Json)}

def Spells (key : Key) (k : String) : Prop := k = key.camel ∨ k = key.snake

instance (key : Key) : DecidablePred key.Spells :=
  fun k => inferInstanceAs (Decidable (k = key.camel ∨ k = key.snake))

/-- The value of the member under either spelling. -/
def value? (key : Key) (ms : List (String × Json)) : Option Json := (key.find? ms).map Prod.snd

theorem value?_eq : key.value? ms = (member? key.camel ms).or (member? key.snake ms) := by
  unfold value? find?
  cases hcamel : member? key.camel ms with
  | none => cases hsnake : member? key.snake ms <;> rfl
  | some v => rfl

theorem value?_congr (h : ∀ k, key.Spells k → member? k ms = member? k ms') :
    key.value? ms = key.value? ms' := by
  rw [value?_eq, value?_eq, h key.camel (.inl rfl), h key.snake (.inr rfl)]

theorem Spells.member?_cons (hk : key.Spells k) (hk' : ¬ key.Spells k') :
    member? k' ((k, v) :: ms) = member? k' ms := by
  apply Json.member?_cons_of_ne
  rintro rfl
  exact hk' hk

theorem Spells.not_mem_keys (hk : key.Spells k) (hcamel : key.camel ∉ keys ms)
    (hsnake : key.snake ∉ keys ms) : k ∉ keys ms := by
  rcases hk with rfl | rfl
  · exact hcamel
  · exact hsnake

theorem value?_eq_none (hcamel : key.camel ∉ keys ms) (hsnake : key.snake ∉ keys ms) :
    key.value? ms = none := by
  rw [value?_eq, Json.member?_eq_none_iff.mpr hcamel, Json.member?_eq_none_iff.mpr hsnake]
  rfl

/-- The only value under the key is found, whichever the spelling. -/
theorem value?_cons (hk : key.Spells k) (hcamel : key.camel ∉ keys ms)
    (hsnake : key.snake ∉ keys ms) : key.value? ((k, v) :: ms) = some v := by
  rw [value?_eq, Json.member?_cons, Json.member?_cons, Json.member?_eq_none_iff.mpr hcamel,
    Json.member?_eq_none_iff.mpr hsnake]
  rcases hk with rfl | rfl <;> by_cases heq : key.camel = key.snake <;> simp [heq]

/-- A value under the snake-case key is not found behind one under the camel-case key. -/
theorem value?_cons_snake (hne : key.camel ≠ key.snake) (hcamel : key.camel ∈ keys ms) :
    key.value? ((key.snake, v) :: ms) = key.value? ms := by
  rw [value?_eq, value?_eq, Json.member?_cons_of_ne hne]
  cases hfound : member? key.camel ms with
  | none => exact absurd hcamel (Json.member?_eq_none_iff.mp hfound)
  | some u => rfl

end Key

namespace Checked

variable {read : Json → Checked α} {key : Key} {ms : List (String × Json)}

theorem toOption_map (f : α → β) (c : Checked α) : (f <$> c).toOption = f <$> c.toOption := by
  cases c <;> rfl

theorem toOption_seq (f : Checked (α → β)) (c : Checked α) :
    (f <*> c).toOption = f.toOption <*> c.toOption := by
  cases f <;> cases c <;> rfl

theorem toOption_under (step : Step) (c : Checked α) : (c.under step).toOption = c.toOption := by
  cases c <;> rfl

theorem toOption_items (i : Nat) (vs : List Json) :
    (items read i vs).toOption = vs.mapM fun v => (read v).toOption := by
  induction vs generalizing i with
  | nil => rfl
  | cons v vs ih =>
    have hitems : items read i (v :: vs) =
        (List.cons <$> (read v).under (.item i) <*> items read (i + 1) vs) := rfl
    rw [hitems, toOption_seq, toOption_map, toOption_under, ih, List.mapM_cons]
    cases (read v).toOption <;> cases vs.mapM fun v => (read v).toOption <;> rfl

theorem toOption_required :
    (key.required read ms).toOption = (key.value? ms).bind fun v => (read v).toOption := by
  unfold Key.required Key.value?
  cases key.find? ms with
  | none => rfl
  | some found => exact toOption_under _ _

/-- A default is what the value reads as that says no more than that there is no member. -/
theorem toOption_withDefault {default : α} {neutral : Json}
    (h : read neutral = accepted default) :
    (key.withDefault default read ms).toOption =
      (read ((key.value? ms).getD neutral)).toOption := by
  unfold Key.withDefault Key.value?
  cases key.find? ms with
  | none => exact congrArg toOption h.symm
  | some found => exact toOption_under _ _

theorem toOption_optional : (key.withDefault none (orNull read) ms).toOption =
    (orNull read ((key.value? ms).getD .null)).toOption :=
  toOption_withDefault rfl

theorem toOption_default : (key.withDefault none defaultText ms).toOption =
    (defaultText ((key.value? ms).getD .null)).toOption :=
  toOption_withDefault rfl

theorem toOption_flag : (key.withDefault false flag ms).toOption =
    (flag ((key.value? ms).getD .null)).toOption :=
  toOption_withDefault rfl

theorem toOption_list : (key.withDefault [] (list read) ms).toOption =
    (list read ((key.value? ms).getD (.array []))).toOption :=
  toOption_withDefault rfl

end Checked

/-- What a diagram is made of, each read by a model of its own. -/
inductive Entity where
  | diagram | table | field | index | relationship
  deriving DecidableEq, Repr

namespace Entity

/-- What a model makes of a member: whether it needs it, and what the value is read as. -/
inductive Kind where
  | required
  | optional
  | flag
  | texts
  | entities (e : Entity)
  deriving DecidableEq, Repr

/-- The value that says no more than that there is no member. -/
def Kind.neutral? : Kind → Option Json
  | .required => none
  | .optional | .flag => some .null
  | .texts | .entities _ => some (.array [])

structure Member where
  key : Key
  kind : Kind
  deriving DecidableEq, Repr

/-- The members that a model looks at. -/
def members : Entity → List Member
  | diagram =>
    [⟨.word "id", .optional⟩, ⟨.word "name", .optional⟩,
      ⟨⟨"databaseType", "database_type"⟩, .optional⟩, ⟨.word "tables", .entities .table⟩,
      ⟨.word "relationships", .entities .relationship⟩]
  | table =>
    [⟨.word "id", .required⟩, ⟨.word "name", .required⟩, ⟨⟨"isView", "is_view"⟩, .flag⟩,
      ⟨.word "fields", .entities .field⟩, ⟨.word "indexes", .entities .index⟩]
  | field =>
    [⟨.word "id", .required⟩, ⟨.word "name", .required⟩, ⟨.word "type", .required⟩,
      ⟨⟨"characterMaximumLength", "character_maximum_length"⟩, .optional⟩,
      ⟨.word "precision", .optional⟩, ⟨.word "scale", .optional⟩, ⟨.word "nullable", .flag⟩,
      ⟨.word "default", .optional⟩, ⟨⟨"primaryKey", "primary_key"⟩, .flag⟩]
  | index =>
    [⟨.word "id", .optional⟩, ⟨.word "name", .required⟩, ⟨.word "unique", .flag⟩,
      ⟨⟨"fieldIds", "field_ids"⟩, .texts⟩]
  | relationship =>
    [⟨.word "id", .optional⟩, ⟨.word "name", .required⟩,
      ⟨⟨"sourceTableId", "source_table_id"⟩, .required⟩,
      ⟨⟨"sourceFieldId", "source_field_id"⟩, .required⟩,
      ⟨⟨"targetTableId", "target_table_id"⟩, .required⟩,
      ⟨⟨"targetFieldId", "target_field_id"⟩, .required⟩]

open Checked

variable {e : Entity} {m m' : Member} {k : String}

/-- No key is a spelling of two members of a model. -/
theorem eq_of_spells (hm : m ∈ e.members) (hm' : m' ∈ e.members) (hk : m.key.Spells k)
    (hk' : m'.key.Spells k) : m = m' := by
  have hall : ∀ e : Entity, ∀ m ∈ e.members, ∀ m' ∈ e.members,
      m'.key.Spells m.key.camel ∨ m'.key.Spells m.key.snake → m = m' := by
    intro e
    cases e <;> decide +kernel
  apply hall e m hm m' hm'
  rcases hk with rfl | rfl
  · exact .inl hk'
  · exact .inr hk'

/-- The members that hold further models have keys of one word. -/
theorem camel_eq_snake_of_entities {e' : Entity} (hm : m ∈ e.members) (hkind : m.kind = .entities e') :
    m.key.camel = m.key.snake := by
  have hall : ∀ e : Entity, ∀ m ∈ e.members, ∀ e', m.kind = .entities e' → m.key.camel = m.key.snake := by
    intro e
    cases e <;> simp [members, Key.word]
  exact hall e m hm e' hkind

abbrev Value : Entity → Type
  | diagram => Diagram
  | table => Table
  | field => Field
  | index => Index
  | relationship => Relationship

def ofMembers : (e : Entity) → List (String × Json) → Checked e.Value
  | diagram => Diagram.ofMembers
  | table => Table.ofMembers
  | field => Field.ofMembers
  | index => Index.ofMembers
  | relationship => Relationship.ofMembers

def ofJson : (e : Entity) → Json → Checked e.Value
  | diagram => Diagram.ofJson
  | table => Table.ofJson
  | field => Field.ofJson
  | index => Index.ofJson
  | relationship => Relationship.ofJson

theorem ofJson_object (e : Entity) (ms : List (String × Json)) :
    e.ofJson (.object ms) = e.ofMembers ms := by
  cases e <;> rfl

/-- Whether two values, or none, mean the same to a member of the kind. -/
def Kind.Same : Kind → Option Json → Option Json → Prop
  | .required, o, o' => o = o'
  | .optional, o, o' => o.getD .null = o'.getD .null
  | .flag, o, o' => Checked.flag (o.getD .null) = Checked.flag (o'.getD .null)
  | .texts, o, o' => o.getD (.array []) = o'.getD (.array [])
  | .entities e', o, o' =>
    (list e'.ofJson (o.getD (.array []))).toOption = (list e'.ofJson (o'.getD (.array []))).toOption

theorem Kind.Same.refl (kind : Kind) (o : Option Json) : kind.Same o o := by
  cases kind <;> rfl

theorem Kind.same_neutral {kind : Kind} {v : Json} (h : kind.neutral? = some v) :
    kind.Same none (some v) := by
  cases kind <;> cases h <;> rfl

/-- The objects mean the same to the model. -/
def Alike (e : Entity) (ms ms' : List (String × Json)) : Prop :=
  ∀ m ∈ e.members, m.kind.Same (m.key.value? ms) (m.key.value? ms')

theorem Alike.toOption_ofMembers {ms ms' : List (String × Json)} (h : e.Alike ms ms') :
    (e.ofMembers ms).toOption = (e.ofMembers ms').toOption := by
  cases e with
  | diagram =>
    simp only [Alike, members, List.forall_mem_cons, Kind.Same, ofJson] at h
    change (Diagram.ofMembers ms).toOption = (Diagram.ofMembers ms').toOption
    simp only [Diagram.ofMembers, toOption_seq, toOption_map, toOption_optional, toOption_list, h]
  | table =>
    simp only [Alike, members, List.forall_mem_cons, Kind.Same, ofJson] at h
    change (Table.ofMembers ms).toOption = (Table.ofMembers ms').toOption
    simp only [Table.ofMembers, toOption_seq, toOption_map, toOption_required, toOption_flag,
      toOption_list, h]
  | field =>
    simp only [Alike, members, List.forall_mem_cons, Kind.Same] at h
    change (Field.ofMembers ms).toOption = (Field.ofMembers ms').toOption
    simp only [Field.ofMembers, toOption_seq, toOption_map, toOption_required, toOption_optional,
      toOption_default, toOption_flag, h]
  | index =>
    simp only [Alike, members, List.forall_mem_cons, Kind.Same] at h
    change (Index.ofMembers ms).toOption = (Index.ofMembers ms').toOption
    simp only [Index.ofMembers, toOption_seq, toOption_map, toOption_required, toOption_optional,
      toOption_flag, toOption_list, h]
  | relationship =>
    simp only [Alike, members, List.forall_mem_cons, Kind.Same] at h
    change (Relationship.ofMembers ms).toOption = (Relationship.ofMembers ms').toOption
    simp only [Relationship.ofMembers, toOption_seq, toOption_map, toOption_required,
      toOption_optional, h]

end Entity

end SchemaScript
