import Mathlib.Order.Bounds.Basic
import SchemaScript.Proofs.Widening.Slots

/-! What following links does to the types of all fields at once. One link spreads types over one hop,
a list of links spreads them along the links in their order, and repeated passes compose. The three
facts about a spread (nothing ends up lighter than what reaches it, every type was the type of a field
that reaches it, and what did not grow was not touched) are kept by composition. From them follows
which type each field has in the end. -/

namespace SchemaScript

namespace Link

/-- The link has these two ends, either way round. -/
def Joins (l : Link) (u v : Slot) : Prop :=
  (l.source = u ∧ l.target = v) ∨ (l.source = v ∧ l.target = u)

/-- To stay, or to go over the link. -/
def Hop (l : Link) (u v : Slot) : Prop := u = v ∨ l.Joins u v

theorem Joins.eq_or_swap {l : Link} {u v x s : Slot} (h : l.Joins u v) (hx : l.Joins x s) :
    (u = x ∧ v = s) ∨ (u = s ∧ v = x) := by
  rcases h with ⟨rfl, rfl⟩ | ⟨rfl, rfl⟩ <;> rcases hx with ⟨h1, h2⟩ | ⟨h1, h2⟩ <;> simp [h1, h2]

end Link

/-- To go over some of the links, in their order. -/
def Along : List Link → Slot → Slot → Prop
  | [], u, v => u = v
  | l :: ls, u, v => ∃ x, l.Hop u x ∧ Along ls x v

/-- What has become of the type in `v` if it can come from all `sources`. It weighs as much as the
heaviest of their types, it is one of the heaviest to the letter, and it is the own type of `v` if that
is among the heaviest. -/
structure TakesHeaviest (sources : Set Slot) (before after : Slot → String) (v : Slot) : Prop where
  heaviest : IsGreatest ((fun u => typeWeight (before u)) '' sources) (typeWeight (after v))
  copied : ∃ u ∈ sources,
    (∀ x ∈ sources, typeWeight (before x) ≤ typeWeight (before u)) ∧ after v = before u
  own : (∀ x ∈ sources, typeWeight (before x) ≤ typeWeight (before v)) → after v = before v

/-- Types spread along `reach`. -/
structure Spreads (reach : Slot → Slot → Prop) (before after : Slot → String) : Prop where
  stays : ∀ v, reach v v
  covers : ∀ u v, reach u v → typeWeight (before u) ≤ typeWeight (after v)
  origin : ∀ v, ∃ u, reach u v ∧ after v = before u
  keeps : ∀ v, typeWeight (after v) ≤ typeWeight (before v) → after v = before v

namespace Spreads

theorem refl (types : Slot → String) : Spreads (fun u v => u = v) types types where
  stays _ := rfl
  covers u v h := by rw [h]
  origin v := ⟨v, rfl, rfl⟩
  keeps _ _ := rfl

theorem trans {r r' : Slot → Slot → Prop} {a b c : Slot → String}
    (h : Spreads r a b) (h' : Spreads r' b c) : Spreads (fun u v => ∃ x, r u x ∧ r' x v) a c where
  stays v := ⟨v, h.stays v, h'.stays v⟩
  covers u v := by
    rintro ⟨x, hx, hv⟩
    exact (h.covers u x hx).trans (h'.covers x v hv)
  origin v := by
    obtain ⟨x, hx, hcx⟩ := h'.origin v
    obtain ⟨u, hu, hbu⟩ := h.origin x
    exact ⟨u, ⟨x, hu, hx⟩, hcx.trans hbu⟩
  keeps v hv := by
    have hab := h.covers v v (h.stays v)
    have hbc := h'.covers v v (h'.stays v)
    rw [h'.keeps v (hv.trans hab), h.keeps v (hbc.trans hv)]

theorem hop_of_eq {l : Link} {types : Slot → String}
    (h : typeWeight (types l.source) = typeWeight (types l.target)) : Spreads l.Hop types types where
  stays _ := .inl rfl
  covers u v := by
    rintro (rfl | ⟨rfl, rfl⟩ | ⟨rfl, rfl⟩)
    · exact le_rfl
    · exact h.le
    · exact h.ge
  origin v := ⟨v, .inl rfl, rfl⟩
  keeps _ _ := rfl

/-- The lighter end of a link takes over the type of the heavier one. -/
theorem hop_of_lt {l : Link} {types : Slot → String} {x s : Slot} (hx : l.Joins x s)
    (hlt : typeWeight (types s) < typeWeight (types x)) :
    Spreads l.Hop types (Function.update types s (types x)) where
  stays _ := .inl rfl
  covers u v huv := by
    by_cases hv : v = s
    · subst hv
      rw [Function.update_self]
      rcases huv with rfl | huv
      · exact hlt.le
      · rcases huv.eq_or_swap hx with ⟨rfl, -⟩ | ⟨rfl, rfl⟩ <;> exact le_rfl
    · rw [Function.update_of_ne hv]
      rcases huv with rfl | huv
      · exact le_rfl
      · rcases huv.eq_or_swap hx with ⟨-, hvs⟩ | ⟨rfl, rfl⟩
        · exact absurd hvs hv
        · exact hlt.le
  origin v := by
    by_cases hv : v = s
    · subst hv
      exact ⟨x, .inr hx, Function.update_self ..⟩
    · exact ⟨v, .inl rfl, Function.update_of_ne hv ..⟩
  keeps v hle := by
    by_cases hv : v = s
    · subst hv
      rw [Function.update_self] at hle
      exact absurd hlt (not_lt.mpr hle)
    · exact Function.update_of_ne hv ..

theorem takesHeaviest {reach : Slot → Slot → Prop} {before after : Slot → String}
    (h : Spreads reach before after) (v : Slot) : TakesHeaviest {u | reach u v} before after v := by
  obtain ⟨u, hu, huv⟩ := h.origin v
  refine ⟨⟨⟨u, hu, by simp only [huv]⟩, ?_⟩, ⟨u, hu, fun x hx => ?_, huv⟩, fun hv => ?_⟩
  · rintro _ ⟨x, hx, rfl⟩
    exact h.covers x v hx
  · exact huv ▸ h.covers x v hx
  · exact h.keeps v (huv ▸ hv u hu)

end Spreads

namespace Diagram

theorem widening?_eq_none_iff {d : Diagram} {l : Link} :
    d.widening? l = none ↔ typeWeight (d.typeAt l.source) = typeWeight (d.typeAt l.target) := by
  unfold widening?
  dsimp only
  split
  · simp; omega
  · split
    · simp; omega
    · simp; omega

/-- All that a link can do: the lighter one of its ends takes over the type of the other. -/
theorem widening?_eq_some_iff {d : Diagram} {l : Link} {s : Slot} {type : String} :
    d.widening? l = some (s, type) ↔
      ∃ u, l.Joins u s ∧ typeWeight (d.typeAt s) < typeWeight (d.typeAt u) ∧ type = d.typeAt u := by
  unfold widening?
  dsimp only
  constructor
  · intro h
    split at h
    case isTrue hlt =>
      obtain ⟨rfl, rfl⟩ := Prod.mk.inj (Option.some.inj h)
      exact ⟨l.source, .inl ⟨rfl, rfl⟩, hlt, rfl⟩
    case isFalse =>
      split at h
      case isTrue hlt =>
        obtain ⟨rfl, rfl⟩ := Prod.mk.inj (Option.some.inj h)
        exact ⟨l.target, .inr ⟨rfl, rfl⟩, hlt, rfl⟩
      case isFalse => cases h
  · rintro ⟨u, ⟨rfl, rfl⟩ | ⟨rfl, rfl⟩, hlt, rfl⟩
    · rw [if_pos hlt]
    · rw [if_neg (Nat.lt_asymm hlt), if_pos hlt]

/-- The diagram after one link. -/
def follow (d : Diagram) (l : Link) : Diagram :=
  match d.widening? l with
  | none => d
  | some (s, type) => d.setType s type

def change? (d : Diagram) (l : Link) : Option TypeChange :=
  (d.widening? l).map fun (s, type) => d.change l s type

theorem widenAlong_cons (d : Diagram) (l : Link) (ls : List Link) :
    d.widenAlong (l :: ls) =
      { (d.follow l).widenAlong ls with
        changes := (d.change? l).toList ++ ((d.follow l).widenAlong ls).changes } := by
  rw [widenAlong, follow, change?]
  cases d.widening? l <;> rfl

/-- Links are followed one after the other. -/
theorem widenAlong_append (d : Diagram) (ls ms : List Link) :
    d.widenAlong (ls ++ ms) =
      { (d.widenAlong ls).diagram.widenAlong ms with
        changes := (d.widenAlong ls).changes ++ ((d.widenAlong ls).diagram.widenAlong ms).changes } := by
  induction ls generalizing d with
  | nil => rfl
  | cons l ls ih => simp [widenAlong_cons, ih]

theorem settled_widenAlong (d : Diagram) (ls : List Link) : (d.widenAlong ls).settled = true := by
  induction ls generalizing d with
  | nil => rfl
  | cons l ls ih => rw [widenAlong_cons, ih]

@[simp] theorem untyped_follow (d : Diagram) (l : Link) : (d.follow l).untyped = d.untyped := by
  unfold follow
  split
  · rfl
  · exact untyped_setType ..

@[simp] theorem untyped_widenAlong (d : Diagram) (ls : List Link) :
    (d.widenAlong ls).diagram.untyped = d.untyped := by
  induction ls generalizing d with
  | nil => rfl
  | cons l ls ih => simp [widenAlong_cons, ih]

theorem spreads_follow {d : Diagram} {l : Link} (hs : d.Holds l.source) (ht : d.Holds l.target) :
    Spreads l.Hop d.typeAt (d.follow l).typeAt := by
  unfold follow
  split
  case h_1 h => exact .hop_of_eq (widening?_eq_none_iff.mp h)
  case h_2 s type h =>
    obtain ⟨x, hx, hlt, rfl⟩ := widening?_eq_some_iff.mp h
    have hold : d.Holds s := by
      rcases hx with ⟨-, rfl⟩ | ⟨rfl, -⟩
      · exact ht
      · exact hs
    rw [typeAt_setType hold]
    exact .hop_of_lt hx hlt

/-- A pass spreads types along its links. -/
theorem spreads_widenAlong {d : Diagram} {ls : List Link}
    (hold : ∀ l ∈ ls, d.Holds l.source ∧ d.Holds l.target) :
    Spreads (Along ls) d.typeAt (d.widenAlong ls).diagram.typeAt := by
  induction ls generalizing d with
  | nil => exact .refl _
  | cons l ls ih =>
    obtain ⟨hs, ht⟩ := hold l (by simp)
    have hrest : ∀ m ∈ ls, (d.follow l).Holds m.source ∧ (d.follow l).Holds m.target := by
      intro m hm
      rw [holds_congr (untyped_follow d l), holds_congr (untyped_follow d l)]
      exact hold m (by simp [hm])
    rw [widenAlong_cons]
    exact (spreads_follow hs ht).trans (ih hrest)

end Diagram

end SchemaScript
