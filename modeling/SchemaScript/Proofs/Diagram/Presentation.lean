import SchemaScript.Proofs.Diagram.Contents
import Mathlib.Logic.Relation

/-! A diagram can be written down in many ways: its keys in any order and in either spelling, with
members that no model knows, with a value where it could have been left out. No way of writing makes
a difference to what is read, nor to whether it can be read. An edit goes from one way to
another at one place, so it is followed from the object where it is made up to the whole document. -/

namespace SchemaScript.Entity

open Json (keys member?)

/-- Edits of a document that is read as the entity. An edit is made to the first member of an object, as
the members can be put in any order; `shadow` adds a value that is not looked at, `neutral` one that
says nothing. -/
inductive Edit : Entity → Json → Json → Prop where
  | permute (h : List.Perm ms ms') : Edit e (.object ms) (.object ms')
  | respell {e : Entity} {m : Member} (hm : m ∈ e.members) (hcamel : m.key.camel ∉ keys ms)
      (hsnake : m.key.snake ∉ keys ms) :
      Edit e (.object ((m.key.camel, v) :: ms)) (.object ((m.key.snake, v) :: ms))
  | shadow {e : Entity} {m : Member} (hm : m ∈ e.members) (hne : m.key.camel ≠ m.key.snake)
      (hcamel : m.key.camel ∈ keys ms) (hsnake : m.key.snake ∉ keys ms) :
      Edit e (.object ms) (.object ((m.key.snake, v) :: ms))
  | unknown {e : Entity} (hk : ∀ m ∈ e.members, ¬ m.key.Spells k) (hfresh : k ∉ keys ms) :
      Edit e (.object ms) (.object ((k, v) :: ms))
  | neutral {e : Entity} {m : Member} (hm : m ∈ e.members) (hk : m.key.Spells k)
      (hneutral : m.kind.neutral? = some v) (hcamel : m.key.camel ∉ keys ms)
      (hsnake : m.key.snake ∉ keys ms) : Edit e (.object ms) (.object ((k, v) :: ms))
  | deny {e : Entity} {m : Member} (hm : m ∈ e.members) (hkind : m.kind = .flag)
      (hk : m.key.Spells k) (hfresh : k ∉ keys ms) :
      Edit e (.object ((k, .null) :: ms)) (.object ((k, .bool false) :: ms))
  | inside {e : Entity} {m : Member} (hm : m ∈ e.members) (hkind : m.kind = .entities e')
      (hk : m.key.Spells k) (hfresh : k ∉ keys ms) (h : Edit e' x x') :
      Edit e (.object ((k, .array (l ++ x :: r)) :: ms))
        (.object ((k, .array (l ++ x' :: r)) :: ms))

variable {e e' : Entity} {m : Member} {k k' : String} {v v' : Json} {ms ms' : List (String × Json)}

/-! What an edit does to the object where it is made. -/

theorem alike_of_value? (h : ∀ m ∈ e.members, m.key.value? ms = m.key.value? ms') :
    e.Alike ms ms' := by
  intro m hm
  rw [h m hm]
  exact .refl _ _

/-- Objects that differ only under the spellings of one member are alike if that member cannot tell. -/
theorem alike_of_member (hm : m ∈ e.members)
    (hother : ∀ k, ¬ m.key.Spells k → member? k ms = member? k ms')
    (hsame : m.kind.Same (m.key.value? ms) (m.key.value? ms')) : e.Alike ms ms' := by
  intro m' hm'
  by_cases heq : m' = m
  · subst heq
    exact hsame
  · have hvalue : m'.key.value? ms = m'.key.value? ms' := by
      apply Key.value?_congr
      intro k hk
      apply hother k
      intro hk'
      exact heq (eq_of_spells hm' hm hk hk')
    rw [hvalue]
    exact .refl _ _

theorem alike_permute (hms : (keys ms).Nodup) (h : ms.Perm ms') : e.Alike ms ms' := by
  apply alike_of_value?
  intro m _
  apply Key.value?_congr
  intro k _
  exact Json.member?_of_perm hms h k

theorem alike_unknown (hk : ∀ m ∈ e.members, ¬ m.key.Spells k) : e.Alike ms ((k, v) :: ms) := by
  apply alike_of_value?
  intro m hm
  apply Key.value?_congr
  intro k' hk'
  have hne : k' ≠ k := by
    rintro rfl
    exact hk m hm hk'
  exact (Json.member?_cons_of_ne hne).symm

theorem alike_respell (hm : m ∈ e.members) (hcamel : m.key.camel ∉ keys ms)
    (hsnake : m.key.snake ∉ keys ms) :
    e.Alike ((m.key.camel, v) :: ms) ((m.key.snake, v) :: ms) := by
  have hc : m.key.Spells m.key.camel := .inl rfl
  have hs : m.key.Spells m.key.snake := .inr rfl
  apply alike_of_member hm
  · intro k hk
    rw [hc.member?_cons hk, hs.member?_cons hk]
  · rw [Key.value?_cons hc hcamel hsnake, Key.value?_cons hs hcamel hsnake]
    exact .refl _ _

theorem alike_shadow (hm : m ∈ e.members) (hne : m.key.camel ≠ m.key.snake)
    (hcamel : m.key.camel ∈ keys ms) : e.Alike ms ((m.key.snake, v) :: ms) := by
  have hs : m.key.Spells m.key.snake := .inr rfl
  apply alike_of_member hm
  · intro k hk
    rw [hs.member?_cons hk]
  · rw [Key.value?_cons_snake hne hcamel]
    exact .refl _ _

theorem alike_neutral (hm : m ∈ e.members) (hk : m.key.Spells k)
    (hneutral : m.kind.neutral? = some v) (hcamel : m.key.camel ∉ keys ms)
    (hsnake : m.key.snake ∉ keys ms) : e.Alike ms ((k, v) :: ms) := by
  apply alike_of_member hm
  · intro k' hk'
    rw [hk.member?_cons hk']
  · rw [Key.value?_eq_none hcamel hsnake, Key.value?_cons hk hcamel hsnake]
    exact Kind.same_neutral hneutral

/-- The value under one spelling matters only if it is the one that is found. -/
theorem alike_replace (hm : m ∈ e.members) (hk : m.key.Spells k) (hfresh : k ∉ keys ms)
    (hsame : m.kind.Same (some v) (some v')) : e.Alike ((k, v) :: ms) ((k, v') :: ms) := by
  apply alike_of_member hm
  · intro k' hk'
    rw [hk.member?_cons hk', hk.member?_cons hk']
  · simp only [Key.value?_eq]
    by_cases hkc : m.key.camel = k
    · rw [hkc, Json.member?_cons_self hfresh, Json.member?_cons_self hfresh]
      exact hsame
    · have hks : m.key.snake = k := (hk.resolve_left (Ne.symm hkc)).symm
      rw [Json.member?_cons_of_ne hkc, Json.member?_cons_of_ne hkc, hks,
        Json.member?_cons_self hfresh, Json.member?_cons_self hfresh]
      cases member? m.key.camel ms with
      | none => exact hsame
      | some u => exact .refl _ _

theorem same_deny : Kind.flag.Same (some .null) (some (.bool false)) := rfl

theorem same_inside {l r : List Json} {x x' : Json}
    (h : (e'.ofJson x).toOption = (e'.ofJson x').toOption) :
    (Kind.entities e').Same (some (.array (l ++ x :: r))) (some (.array (l ++ x' :: r))) := by
  have hlist (vs : List Json) : (Checked.list e'.ofJson (.array vs)).toOption =
      vs.mapM fun v => (e'.ofJson v).toOption := Checked.toOption_items 0 vs
  simp only [Kind.Same, Option.getD_some, hlist, List.mapM_append, List.mapM_cons, h]

/-! The keys of the objects that are read stay distinct. -/

/-- The member holds the value among the items of a list, each of which is read as the entity `e'`. -/
def Holds (e : Entity) (member : String × Json) (e' : Entity) (x : Json) : Prop :=
  ∃ m ∈ e.members, m.kind = .entities e' ∧ m.key.Spells member.1 ∧ ∃ xs, member.2 = .array xs ∧ x ∈ xs

/-- Of the objects of a document only those matter that are read as an entity. -/
inductive Tidy : Entity → Json → Prop where
  | object {e : Entity} {ms : List (String × Json)} (hkeys : (keys ms).Nodup)
      (hitems : ∀ member ∈ ms, ∀ e' x, e.Holds member e' x → Tidy e' x) : Tidy e (.object ms)
  | other {e : Entity} {v : Json} (h : ∀ ms, v ≠ .object ms) : Tidy e v

theorem tidy_of_distinctKeys (h : v.DistinctKeys) (e : Entity) : e.Tidy v := by
  -- An object is reached through a list, so the induction says something about lists as well.
  suffices hboth : ∀ e : Entity, e.Tidy v ∧ ∀ xs, v = .array xs → ∀ x ∈ xs, e.Tidy x from (hboth e).1
  induction h with
  | null | bool | int | float | string =>
    intro e
    exact ⟨.other (by simp), by simp⟩
  | array h ih =>
    intro e
    refine ⟨.other (by simp), ?_⟩
    intro xs hxs x hx
    cases hxs
    exact (ih x hx e).1
  | object hkeys h ih =>
    intro e
    refine ⟨.object hkeys ?_, by simp⟩
    rintro member hmember e' x ⟨m, hm, hkind, hk, xs, hxs, hx⟩
    exact (ih member hmember e').2 xs hxs x hx

def TidyMember (e : Entity) (member : String × Json) : Prop := ∀ e' x, e.Holds member e' x → e'.Tidy x

theorem tidy_object_iff :
    e.Tidy (.object ms) ↔ (keys ms).Nodup ∧ ∀ member ∈ ms, e.TidyMember member := by
  constructor
  · intro h
    cases h with
    | object hkeys hitems => exact ⟨hkeys, hitems⟩
    | other h => exact absurd rfl (h ms)
  · intro h
    exact .object h.1 h.2

theorem tidy_cons_iff (hfresh : k ∉ keys ms) :
    e.Tidy (.object ((k, v) :: ms)) ↔ e.TidyMember (k, v) ∧ e.Tidy (.object ms) := by
  simp only [tidy_object_iff, Json.keys_cons, List.nodup_cons, List.forall_mem_cons, hfresh,
    not_false_eq_true, true_and]
  exact and_left_comm

theorem tidyMember_unknown (hk : ∀ m ∈ e.members, ¬ m.key.Spells k) : e.TidyMember (k, v) := by
  rintro e' x ⟨m, hm, -, hspells, -⟩
  exact absurd hspells (hk m hm)

theorem tidyMember_of_no_items (hv : ∀ xs, v = .array xs → xs = []) : e.TidyMember (k, v) := by
  rintro e' x ⟨m, -, -, -, xs, hxs, hx⟩
  rw [hv xs hxs] at hx
  cases hx

theorem no_items_of_neutral {kind : Kind} (h : kind.neutral? = some v) :
    ∀ xs, v = .array xs → xs = [] := by
  rintro xs rfl
  cases kind <;> cases h <;> rfl

/-- What is held under a key depends on the member that the key spells. -/
theorem holds_iff (hm : m ∈ e.members) (hk : m.key.Spells k) {x : Json} :
    e.Holds (k, v) e' x ↔ m.kind = .entities e' ∧ ∃ xs, v = .array xs ∧ x ∈ xs := by
  constructor
  · rintro ⟨m', hm', hkind, hk', hitems⟩
    cases eq_of_spells hm hm' hk hk'
    exact ⟨hkind, hitems⟩
  · rintro ⟨hkind, hitems⟩
    exact ⟨m, hm, hkind, hk, hitems⟩

theorem tidyMember_shadow (hm : m ∈ e.members) (hne : m.key.camel ≠ m.key.snake) :
    e.TidyMember (m.key.snake, v) := by
  intro e' x h
  exact absurd (camel_eq_snake_of_entities hm ((holds_iff hm (.inr rfl)).mp h).1) hne

theorem tidyMember_respell (hm : m ∈ e.members) :
    e.TidyMember (m.key.camel, v) ↔ e.TidyMember (m.key.snake, v) := by
  simp only [TidyMember, holds_iff hm (.inl rfl), holds_iff hm (.inr rfl)]

theorem tidyMember_entities (hm : m ∈ e.members) (hkind : m.kind = .entities e') (hk : m.key.Spells k)
    {xs : List Json} : e.TidyMember (k, .array xs) ↔ ∀ x ∈ xs, e'.Tidy x := by
  simp only [TidyMember, holds_iff hm hk, hkind]
  constructor
  · intro h x hx
    exact h e' x ⟨rfl, xs, rfl, hx⟩
  · rintro h e₂ x ⟨he, xs', hxs, hx⟩
    cases he
    cases hxs
    exact h x hx

theorem Edit.tidy_iff (h : Edit e v v') : e.Tidy v ↔ e.Tidy v' := by
  induction h with
  | permute h =>
    rw [tidy_object_iff, tidy_object_iff, (Json.keys_perm h).nodup_iff]
    simp only [h.mem_iff]
  | respell hm hcamel hsnake =>
    rw [tidy_cons_iff hcamel, tidy_cons_iff hsnake, tidyMember_respell hm]
  | shadow hm hne hcamel hsnake =>
    rw [tidy_cons_iff hsnake, and_iff_right (tidyMember_shadow hm hne)]
  | unknown hk hfresh =>
    rw [tidy_cons_iff hfresh, and_iff_right (tidyMember_unknown hk)]
  | neutral hm hk hneutral hcamel hsnake =>
    rw [tidy_cons_iff (hk.not_mem_keys hcamel hsnake),
      and_iff_right (tidyMember_of_no_items (no_items_of_neutral hneutral))]
  | deny hm hkind hk hfresh =>
    rw [tidy_cons_iff hfresh, tidy_cons_iff hfresh, and_iff_right (tidyMember_of_no_items (by simp)),
      and_iff_right (tidyMember_of_no_items (by simp))]
  | inside hm hkind hk hfresh h ih =>
    rw [tidy_cons_iff hfresh, tidy_cons_iff hfresh, tidyMember_entities hm hkind hk,
      tidyMember_entities hm hkind hk]
    simp only [List.forall_mem_append, List.forall_mem_cons, ih]

/-! An edit, and any sequence of edits. -/

theorem Alike.toOption_ofJson (h : e.Alike ms ms') :
    (e.ofJson (.object ms)).toOption = (e.ofJson (.object ms')).toOption := by
  rw [ofJson_object, ofJson_object]
  exact h.toOption_ofMembers

theorem Edit.toOption_ofJson (h : Edit e v v') (hv : e.Tidy v) :
    (e.ofJson v).toOption = (e.ofJson v').toOption := by
  induction h with
  | permute h => exact (alike_permute (tidy_object_iff.mp hv).1 h).toOption_ofJson
  | respell hm hcamel hsnake => exact (alike_respell hm hcamel hsnake).toOption_ofJson
  | shadow hm hne hcamel hsnake => exact (alike_shadow hm hne hcamel).toOption_ofJson
  | unknown hk hfresh => exact (alike_unknown hk).toOption_ofJson
  | neutral hm hk hneutral hcamel hsnake =>
    exact (alike_neutral hm hk hneutral hcamel hsnake).toOption_ofJson
  | deny hm hkind hk hfresh =>
    apply (alike_replace hm hk hfresh _).toOption_ofJson
    rw [hkind]
    exact same_deny
  | inside hm hkind hk hfresh h ih =>
    have hitems := (tidyMember_entities hm hkind hk).mp ((tidy_cons_iff hfresh).mp hv).1
    apply (alike_replace hm hk hfresh _).toOption_ofJson
    rw [hkind]
    exact same_inside (ih (hitems _ (by simp)))

theorem toOption_ofJson_of_edits (h : Relation.EqvGen (Edit e) v v') :
    (e.Tidy v ↔ e.Tidy v') ∧ (e.Tidy v → (e.ofJson v).toOption = (e.ofJson v').toOption) := by
  induction h with
  | rel v v' h => exact ⟨h.tidy_iff, h.toOption_ofJson⟩
  | refl v => exact ⟨Iff.rfl, fun _ => rfl⟩
  | symm v v' _ ih => exact ⟨ih.1.symm, fun hv' => (ih.2 (ih.1.mpr hv')).symm⟩
  | trans u v w _ _ ihuv ihvw =>
    exact ⟨ihuv.1.trans ihvw.1, fun hu => (ihuv.2 hu).trans (ihvw.2 (ihuv.1.mp hu))⟩

end SchemaScript.Entity

namespace SchemaScript.Diagram

open Relation Entity

/-- Whether a document can be read, and as which diagram, does not change under any edits of its
presentation, made or undone. -/
theorem toOption_ofJson_eq_of_edits {v w : Json} (hv : v.DistinctKeys)
    (hedits : EqvGen (Edit .diagram) v w) : (ofJson v).toOption = (ofJson w).toOption :=
  (toOption_ofJson_of_edits hedits).2 (tidy_of_distinctKeys hv .diagram)

/-- A document with one table, some of whose members are given. -/
def shop (isView : String × Json) : List (String × Json) :=
  [("tables", .array [.object [isView, ("id", .string "t"), ("name", .string "pets")]]),
    ("databaseType", .string "mysql")]

/-- A second value for the dialect is added and moved to the end, a flag is denied and its key spelled
in camel case. It is still the diagram that the document gives. -/
theorem shop_toOption_ofJson_eq :
    (Json.object (shop ("is_view", .null))).DistinctKeys ∧
      EqvGen (Edit .diagram) (.object (shop ("is_view", .null)))
        (.object (shop ("isView", .bool false) ++ [("database_type", .int 7)])) ∧
      (ofJson (.object (shop ("is_view", .null)))).toOption =
        (ofJson (.object (shop ("isView", .bool false) ++ [("database_type", .int 7)]))).toOption ∧
      (ofJson (.object (shop ("is_view", .null)))).toOption.isSome = true := by
  have hdistinct : (Json.object (shop ("is_view", .null))).DistinctKeys := by
    refine .object (by decide) ?_
    simp only [shop, List.forall_mem_cons, List.not_mem_nil, false_imp_iff, implies_true, and_true]
    refine ⟨.array ?_, .string _⟩
    simp only [List.forall_mem_cons, List.not_mem_nil, false_imp_iff, implies_true, and_true]
    refine .object (by decide) ?_
    simp only [List.forall_mem_cons, List.not_mem_nil, false_imp_iff, implies_true, and_true]
    exact ⟨.null, .string _, .string _⟩
  have hshadow : Edit .diagram (.object (shop ("is_view", .null)))
      (.object (("database_type", .int 7) :: shop ("is_view", .null))) :=
    .shadow (m := ⟨⟨"databaseType", "database_type"⟩, .optional⟩) (by decide) (by decide)
      (by decide) (by decide)
  have hmove : Edit .diagram (.object (("database_type", .int 7) :: shop ("is_view", .null)))
      (.object (shop ("is_view", .null) ++ [("database_type", .int 7)])) :=
    .permute (List.perm_append_singleton _ _).symm
  have hdeny : Edit .diagram (.object (shop ("is_view", .null) ++ [("database_type", .int 7)]))
      (.object (shop ("is_view", .bool false) ++ [("database_type", .int 7)])) :=
    .inside (m := ⟨.word "tables", .entities .table⟩) (l := []) (by decide) rfl (by decide) (by decide)
      (.deny (m := ⟨⟨"isView", "is_view"⟩, .flag⟩) (by decide) rfl (by decide) (by decide))
  have hrespell : Edit .diagram
      (.object (shop ("isView", .bool false) ++ [("database_type", .int 7)]))
      (.object (shop ("is_view", .bool false) ++ [("database_type", .int 7)])) :=
    .inside (m := ⟨.word "tables", .entities .table⟩) (l := []) (by decide) rfl (by decide) (by decide)
      (.respell (m := ⟨⟨"isView", "is_view"⟩, .flag⟩) (by decide) (by decide) (by decide))
  have hedits : EqvGen (Edit .diagram) (.object (shop ("is_view", .null)))
      (.object (shop ("isView", .bool false) ++ [("database_type", .int 7)])) :=
    .trans _ _ _ (.rel _ _ hshadow) <| .trans _ _ _ (.rel _ _ hmove) <|
      .trans _ _ _ (.rel _ _ hdeny) (.symm _ _ (.rel _ _ hrespell))
  exact ⟨hdistinct, hedits, toOption_ofJson_eq_of_edits hdistinct hedits, by decide +kernel⟩

end SchemaScript.Diagram
