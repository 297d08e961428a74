import SchemaScript.Proofs.Diagram.Contents
import SchemaScript.Proofs.Diagram.RoundTrip
import SchemaScript.Proofs.Json.Digits
import SchemaScript.Proofs.Script.Exported

/-! A diagram that is read from a text has a script. Neither the reader of texts nor the check of a field
lets an integer of too many digits pass, so all sizes can be printed, before the diagram is widened
and after it. -/

namespace SchemaScript

open Json (DigitsWithin)

theorem Json.mem_of_member? {ms : List (String × Json)} {k : String} {v : Json}
    (h : member? k ms = some v) : (k, v) ∈ ms := by
  obtain ⟨before, after, hms, -⟩ := List.lookup_eq_some_iff.mp h
  exact List.mem_reverse.mp (hms ▸ List.mem_append_right before List.mem_cons_self)

namespace Checked

variable {read : Json → Checked α} {key : Key} {ms : List (String × Json)}

theorem map_eq_accepted_iff {f : α → β} {c : Checked α} {b : β} :
    f <$> c = accepted b ↔ ∃ a, c = accepted a ∧ f a = b := by
  cases c with
  | accepted a => simp
  | refused fs => exact ⟨fun h => (nomatch h), fun ⟨_, h, _⟩ => nomatch h⟩

theorem seq_eq_accepted_iff {f : Checked (α → β)} {c : Checked α} {b : β} :
    f <*> c = accepted b ↔ ∃ g a, f = accepted g ∧ c = accepted a ∧ g a = b := by
  cases f with
  | accepted g =>
    cases c with
    | accepted a => simp
    | refused fs => exact ⟨fun h => (nomatch h), fun ⟨_, _, _, h, _⟩ => nomatch h⟩
  | refused fs => cases c <;> exact ⟨fun h => (nomatch h), fun ⟨_, _, h, _⟩ => nomatch h⟩

theorem under_eq_accepted_iff {step : Step} {c : Checked α} {a : α} :
    c.under step = accepted a ↔ c = accepted a := by
  cases c with
  | accepted b => rfl
  | refused fs => exact ⟨fun h => (nomatch h), fun h => nomatch h⟩

/-- A model is read from an object. -/
theorem exists_of_object {model : String} {read : List (String × Json) → Checked α} {v : Json} {a : α}
    (h : object model read v = accepted a) : ∃ ms, v = .object ms ∧ read ms = accepted a := by
  cases v with
  | object ms => exact ⟨ms, rfl, h⟩
  | _ => cases h

/-- What a member is found to be is the value of one of the members. -/
theorem exists_mem_of_find? {spelling : String} {v : Json} (h : key.find? ms = some (spelling, v)) :
    ∃ m ∈ ms, m.2 = v := by
  unfold Key.find? at h
  split at h
  · next hcamel =>
    cases h
    exact ⟨_, Json.mem_of_member? hcamel, rfl⟩
  · obtain ⟨w, hsnake, heq⟩ := Option.map_eq_some_iff.mp h
    cases heq
    exact ⟨_, Json.mem_of_member? hsnake, rfl⟩

theorem exists_of_withDefault {default a : α} (h : key.withDefault default read ms = accepted a) :
    a = default ∨ ∃ m ∈ ms, read m.2 = accepted a := by
  unfold Key.withDefault at h
  split at h
  · next hfind =>
    obtain ⟨m, hm, rfl⟩ := exists_mem_of_find? hfind
    exact .inr ⟨m, hm, under_eq_accepted_iff.mp h⟩
  · cases h
    exact .inl rfl

theorem exists_of_mem_items {i : Nat} {vs : List Json} {as : List α} (h : items read i vs = accepted as)
    {a : α} (ha : a ∈ as) : ∃ v ∈ vs, read v = accepted a := by
  induction vs generalizing i as with
  | nil =>
    cases h
    cases ha
  | cons v vs ih =>
    have hitems : List.cons <$> (read v).under (.item i) <*> items read (i + 1) vs = accepted as := h
    obtain ⟨_, rest, hfirst, hrest, rfl⟩ := seq_eq_accepted_iff.mp hitems
    obtain ⟨b, hb, rfl⟩ := map_eq_accepted_iff.mp hfirst
    rcases List.mem_cons.mp ha with rfl | ha
    · exact ⟨v, List.mem_cons_self, under_eq_accepted_iff.mp hb⟩
    · obtain ⟨w, hw, hread⟩ := ih hrest ha
      exact ⟨w, List.mem_cons_of_mem v hw, hread⟩

/-- Every item of a list under some member comes from a value within the members. -/
theorem exists_of_mem_list {digits : Nat} (hms : ∀ m ∈ ms, DigitsWithin digits m.2) {as : List α}
    (h : key.withDefault [] (list read) ms = accepted as) {a : α} (ha : a ∈ as) :
    ∃ v, DigitsWithin digits v ∧ read v = accepted a := by
  rcases exists_of_withDefault h with rfl | ⟨m, hm, hlist⟩
  · cases ha
  · have hdigits := hms m hm
    cases hv : m.2 with
    | array vs =>
      rw [hv] at hdigits hlist
      obtain ⟨v, hmem, hread⟩ := exists_of_mem_items hlist ha
      cases hdigits with
      | array hitems => exact ⟨v, hitems v hmem, hread⟩
    | _ =>
      rw [hv] at hlist
      cases hlist

/-! Integers -/

theorem digitCount_of_integerOfDigits {negative : Bool} {ds : List Char} {i : Int}
    (h : integerOfDigits negative ds = accepted i) : digitCount i ≤ digitLimit := by
  unfold integerOfDigits at h
  split at h
  · cases h
  · next hds =>
    simp only [Bool.or_eq_true, Bool.not_eq_true', decide_eq_true_eq, not_or, Nat.not_lt,
      List.isEmpty_iff, Bool.not_eq_false, List.all_eq_true] at hds
    obtain ⟨⟨⟨hne, hlength⟩, hdigits⟩, -⟩ := hds
    cases h
    rw [digitCount_signed]
    exact (Json.digitCount_digitsValue_le hne hdigits).trans hlength

/-- A number of 64 bits has at most 19 digits. -/
theorem digitCount_of_integerNumber {x : Binary64} {i : Int} (h : integerNumber x = accepted i) :
    digitCount i ≤ digitLimit := by
  have hbound : i.natAbs < 10 ^ 19 := by
    unfold integerNumber at h
    split at h
    · split at h
      · cases h
      · split at h
        · next hrange =>
          cases h
          have hpow : Int.pow 2 63 = 9223372036854775808 := rfl
          rw [hpow] at hrange
          omega
        · cases h
    · cases h
  exact ((digitCount_le_iff (by decide)).mpr hbound).trans (by decide)

theorem digitCount_of_integer {v : Json} {i : Int} (hv : DigitsWithin digitLimit v)
    (h : integer v = accepted i) : digitCount i ≤ digitLimit := by
  cases hv with
  | null => cases h
  | bool b =>
    cases h
    cases b <;> decide
  | int hi =>
    cases h
    exact hi
  | float x => exact digitCount_of_integerNumber h
  | string s =>
    have h : integerText s = accepted i := h
    unfold integerText at h
    split at h
    · cases h
    · split at h
      · exact digitCount_of_integerOfDigits h
      · cases h
  | array => cases h
  | object => cases h

theorem digitCount_of_optional (hms : ∀ m ∈ ms, DigitsWithin digitLimit m.2) {o : Option Int}
    (h : key.withDefault none (orNull integer) ms = accepted o) : ∀ i ∈ o, digitCount i ≤ digitLimit := by
  rintro i rfl
  rcases exists_of_withDefault h with hnone | ⟨m, hm, hread⟩
  · cases hnone
  · unfold orNull at hread
    split at hread
    · cases hread
    · obtain ⟨j, hj, heq⟩ := map_eq_accepted_iff.mp hread
      cases heq
      exact digitCount_of_integer (hms m hm) hj

end Checked

open Checked

theorem Field.digitCount_of_ofJson {v : Json} {f : Field} (hv : DigitsWithin digitLimit v)
    (h : ofJson v = .accepted f) : ∀ i ∈ f.integers, digitCount i ≤ digitLimit := by
  obtain ⟨ms, rfl, hread⟩ := exists_of_object h
  cases hv with
  | object hms =>
    simp only [ofMembers, seq_eq_accepted_iff, map_eq_accepted_iff] at hread
    obtain ⟨_, _, ⟨_, _, ⟨_, _, ⟨_, scale, ⟨_, precision, ⟨_, length, ⟨_, _, ⟨_, _, ⟨_, -, rfl⟩, -, rfl⟩,
      -, rfl⟩, hlength, rfl⟩, hprecision, rfl⟩, hscale, rfl⟩, -, rfl⟩, -, rfl⟩, -, rfl⟩ := hread
    simp only [integers, List.mem_append, Option.mem_toList]
    rintro i ((hi | hi) | hi)
    · exact digitCount_of_optional hms hlength i hi
    · exact digitCount_of_optional hms hprecision i hi
    · exact digitCount_of_optional hms hscale i hi

theorem Table.digitCount_of_ofJson {v : Json} {t : Table} (hv : DigitsWithin digitLimit v)
    (h : ofJson v = .accepted t) : ∀ f ∈ t.fields, ∀ i ∈ f.integers, digitCount i ≤ digitLimit := by
  obtain ⟨ms, rfl, hread⟩ := exists_of_object h
  cases hv with
  | object hms =>
    simp only [ofMembers, seq_eq_accepted_iff, map_eq_accepted_iff] at hread
    obtain ⟨_, _, ⟨_, fields, ⟨_, _, ⟨_, _, ⟨_, -, rfl⟩, -, rfl⟩, -, rfl⟩, hfields, rfl⟩, -, rfl⟩ := hread
    intro f hf
    obtain ⟨w, hw, hfield⟩ := exists_of_mem_list hms hfields hf
    exact Field.digitCount_of_ofJson hw hfield

namespace Diagram

theorem digitsWithin_of_ofJson {v : Json} {d : Diagram} (hv : v.DigitsWithin digitLimit)
    (h : ofJson v = .accepted d) : d.DigitsWithin digitLimit := by
  obtain ⟨ms, rfl, hread⟩ := exists_of_object h
  cases hv with
  | object hms =>
    simp only [ofMembers, seq_eq_accepted_iff, map_eq_accepted_iff] at hread
    obtain ⟨_, _, ⟨_, tables, ⟨_, _, ⟨_, _, ⟨_, -, rfl⟩, -, rfl⟩, -, rfl⟩, htables, rfl⟩, -, rfl⟩ := hread
    intro t ht
    obtain ⟨w, hw, htable⟩ := exists_of_mem_list hms htables ht
    exact Table.digitCount_of_ofJson hw htable

/-- No integer of a diagram that is read from a text has too many digits. -/
theorem digitsWithin_of_ofText {s : String} {d : Diagram} (h : ofText s = .accepted d) :
    d.DigitsWithin digitLimit := by
  unfold ofText at h
  split at h
  · next v hparse => exact digitsWithin_of_ofJson (Json.digitsWithin_of_parse? hparse) h
  · cases h

theorem digitsWithin_of_loadDiagram {t : FileTree} {directory : Location} {p : Path} {d : Diagram}
    (h : t.loadDiagram directory p = .ok d) : d.DigitsWithin digitLimit := by
  unfold FileTree.loadDiagram at h
  split at h
  · cases h
  · cases h
  · split at h
    · cases h
    · split at h
      · cases h
      · split at h
        · next e hread =>
          cases h
          exact digitsWithin_of_ofText hread
        · cases h

end Diagram

/-! Scripts -/

theorem given_subset {n : Option Int} {i : Int} (h : given n = some i) : n = some i := by
  unfold given at h
  split at h
  · cases h
  · exact h

theorem Field.size_subset_integers (f : Field) : f.size ⊆ f.integers := by
  intro i hi
  simp only [integers, List.mem_append, Option.mem_toList]
  unfold size at hi
  split at hi
  · next n hlength =>
    cases List.mem_singleton.mp hi
    exact .inl (.inl (given_subset hlength))
  · next p s _ hprecision hscale =>
    rcases List.mem_pair.mp hi with rfl | rfl
    · exact .inl (.inr (given_subset hprecision))
    · exact .inr (given_subset hscale)
  · next p _ hprecision _ =>
    cases List.mem_singleton.mp hi
    exact .inl (.inr (given_subset hprecision))
  · cases hi

namespace Diagram

variable {d : Diagram}

theorem DigitsWithin.printable (h : d.DigitsWithin digitLimit) : d.script.Printable := by
  intro b hb c hc i hi
  obtain ⟨t, ht, rfl⟩ := List.mem_map.mp hb
  obtain ⟨f, hf, rfl⟩ := List.mem_map.mp hc
  exact h t (List.mem_of_mem_filter ht) f hf i (f.size_subset_integers hi)

/-- The integers of a diagram do not depend on types. -/
theorem DigitsWithin.congr {d' : Diagram} {digits : Nat} (h : d.untyped = d'.untyped)
    (hd : d.DigitsWithin digits) : d'.DigitsWithin digits := by
  have huntyped {e : Diagram} : e.untyped.DigitsWithin digits ↔ e.DigitsWithin digits := by
    simp [DigitsWithin, untyped, Table.untyped, Field.untyped, Field.integers]
  exact huntyped.mp (h ▸ huntyped.mpr hd)

/-- A diagram without integers of too many digits is exported, widened or not. -/
theorem DigitsWithin.exists_sql (h : d.DigitsWithin digitLimit) (widenTypes untilStable : Bool) :
    ∃ sql, (d.exportScript widenTypes untilStable).sql = .ok sql := by
  cases widenTypes with
  | true =>
    rw [(d.exportScript_widens untilStable).2]
    exact exists_sql_iff.mpr (h.congr (untyped_widen d untilStable).symm).printable
  | false =>
    unfold exportScript
    split
    · exact ⟨"", rfl⟩
    · exact exists_sql_iff.mpr h.printable

end Diagram

end SchemaScript
