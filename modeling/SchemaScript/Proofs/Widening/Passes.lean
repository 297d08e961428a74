import SchemaScript.Proofs.Widening.Walks

/-! Passes along the same links. A pass that changes nothing leaves the diagram as it is, and then every
link joins fields of one weight. Each pass carries the weight of a field over at least one more
relationship of any walk, and walks need no more relationships than there are, so the limit on the
number of passes is never what ends them. -/

namespace SchemaScript

/-- To go along the links `n` times over. -/
def Rounds (ls : List Link) : Nat → Slot → Slot → Prop
  | 0, u, v => u = v
  | n + 1, u, v => ∃ x, Along ls u x ∧ Rounds ls n x v

theorem along_refl (ls : List Link) (v : Slot) : Along ls v v := by
  induction ls with
  | nil => rfl
  | cons l ls ih => exact ⟨v, .inl rfl, ih⟩

theorem along_of_joins {ls : List Link} {l : Link} (hl : l ∈ ls) {u v : Slot} (h : l.Joins u v) :
    Along ls u v := by
  induction ls with
  | nil => simp at hl
  | cons m ls ih =>
    rcases List.mem_cons.mp hl with rfl | hl
    · exact ⟨v, .inr h, along_refl ls v⟩
    · exact ⟨u, .inl rfl, ih hl⟩

namespace Diagram

/-- The two ends of each link weigh the same. -/
def Settled (d : Diagram) (ls : List Link) : Prop :=
  ∀ l ∈ ls, typeWeight (d.typeAt l.source) = typeWeight (d.typeAt l.target)

theorem widenAlong_of_settled {d : Diagram} {ls : List Link} (h : d.Settled ls) :
    d.widenAlong ls = ⟨d, [], 1, true⟩ := by
  induction ls with
  | nil => rfl
  | cons l ls ih =>
    have hl := widening?_eq_none_iff.mpr (h l (by simp))
    have hrest : d.Settled ls := fun m hm => h m (by simp [hm])
    simp [widenAlong, hl, ih hrest]

theorem changes_widenAlong_eq_nil_iff {d : Diagram} {ls : List Link} :
    (d.widenAlong ls).changes = [] ↔ d.Settled ls := by
  refine ⟨fun h => ?_, fun h => by rw [widenAlong_of_settled h]⟩
  induction ls generalizing d with
  | nil => simp [Settled]
  | cons l ls ih =>
    cases hl : d.widening? l with
    | some p => simp [widenAlong, hl] at h
    | none =>
      have hrest : d.Settled ls := ih (by simpa [widenAlong, hl] using h)
      intro m hm
      rcases List.mem_cons.mp hm with rfl | hm
      · exact widening?_eq_none_iff.mp hl
      · exact hrest m hm

/-- The diagram after `n` passes. -/
def afterPasses (d : Diagram) (ls : List Link) : Nat → Diagram
  | 0 => d
  | n + 1 => (d.widenAlong ls).diagram.afterPasses ls n

@[simp] theorem untyped_afterPasses (d : Diagram) (ls : List Link) (n : Nat) :
    (d.afterPasses ls n).untyped = d.untyped := by
  induction n generalizing d with
  | zero => rfl
  | succ n ih => simp [afterPasses, ih]

theorem spreads_afterPasses (d : Diagram) (n : Nat) :
    Spreads (Rounds d.links n) d.typeAt (d.afterPasses d.links n).typeAt := by
  induction n generalizing d with
  | zero => exact .refl _
  | succ n ih =>
    have hlinks : (d.widenAlong d.links).diagram.links = d.links :=
      links_congr (untyped_widenAlong ..)
    have hrest := ih (d.widenAlong d.links).diagram
    rw [hlinks] at hrest
    exact (spreads_widenAlong fun l hl => holds_of_mem_links hl).trans hrest

theorem Joins.exists_link {d : Diagram} {i : Nat} {u v : Slot} (h : d.Joins i u v) :
    ∃ l ∈ d.links, l.Joins u v := by
  obtain ⟨r, l, hr, hl, h⟩ := joins_iff.mp h
  exact ⟨l, List.mem_filterMap.mpr ⟨r, List.mem_of_getElem? hr, hl⟩, h⟩

theorem joins_of_mem_links {d : Diagram} {l : Link} (h : l ∈ d.links) :
    ∃ i, d.Joins i l.source l.target := by
  obtain ⟨r, hr, hl⟩ := List.mem_filterMap.mp h
  obtain ⟨i, hi⟩ := List.mem_iff_getElem?.mp hr
  exact ⟨i, joins_iff.mpr ⟨r, l, hi, hl, .inl ⟨rfl, rfl⟩⟩⟩

theorem Walk.rounds {d : Diagram} {is : List Nat} {u v : Slot} (h : d.Walk u is v) {n : Nat}
    (hn : is.length ≤ n) : Rounds d.links n u v := by
  induction n generalizing u is with
  | zero =>
    cases h with
    | nil => rfl
    | cons => simp at hn
  | succ n ih =>
    cases h with
    | nil => exact ⟨_, along_refl _ _, ih (.nil _) (Nat.zero_le n)⟩
    | cons hi hw =>
      obtain ⟨l, hl, hj⟩ := hi.exists_link
      exact ⟨_, along_of_joins hl hj, ih hw (by simpa using hn)⟩

theorem connected_of_rounds {d : Diagram} {n : Nat} {u v : Slot} (h : Rounds d.links n u v) :
    d.Connected u v := by
  induction n generalizing u with
  | zero =>
    obtain rfl : u = v := h
    exact ⟨[], .nil u⟩
  | succ n ih =>
    obtain ⟨x, hx, hv⟩ := h
    obtain ⟨is, -, hw⟩ := along_links_iff.mp hx
    exact Connected.trans ⟨is, hw⟩ (ih hv)

/-- As many passes as there are relationships settle all links: the weight of a field has reached every
field that it is connected with. -/
theorem settled_afterPasses (d : Diagram) :
    (d.afterPasses d.links d.relationships.length).Settled d.links := by
  have hspread := spreads_afterPasses d d.relationships.length
  have hle {i : Nat} {u v : Slot} (h : d.Joins i u v) :
      typeWeight ((d.afterPasses d.links d.relationships.length).typeAt u) ≤
        typeWeight ((d.afterPasses d.links d.relationships.length).typeAt v) := by
    -- the type in u came from some x, and x has a walk to v that is short enough for these passes
    obtain ⟨x, hx, hux⟩ := hspread.origin u
    have hxv : d.Connected x v := (connected_of_rounds hx).trans ⟨[i], .cons h (.nil v)⟩
    obtain ⟨is, hlen, hw⟩ := hxv.exists_short
    rw [hux]
    exact hspread.covers x v (hw.rounds hlen)
  intro l hl
  obtain ⟨i, hi⟩ := joins_of_mem_links hl
  exact le_antisymm (hle hi) (hle hi.symm)

/-! Repeating passes until one changes nothing. -/

theorem widenRepeatedly_of_settled {d : Diagram} {ls : List Link} (h : d.Settled ls) (limit : Nat) :
    d.widenRepeatedly ls (limit + 1) = ⟨d, [], 1, true⟩ := by
  simp [widenRepeatedly, widenAlong_of_settled h]

theorem widenRepeatedly_of_not_settled {d : Diagram} {ls : List Link} (h : ¬ d.Settled ls)
    (limit : Nat) :
    d.widenRepeatedly ls (limit + 1) =
      { (d.widenAlong ls).diagram.widenRepeatedly ls limit with
        changes := (d.widenAlong ls).changes ++
          ((d.widenAlong ls).diagram.widenRepeatedly ls limit).changes
        passes := ((d.widenAlong ls).diagram.widenRepeatedly ls limit).passes + 1 } := by
  have hne : (d.widenAlong ls).changes.isEmpty = false := by
    simpa using mt changes_widenAlong_eq_nil_iff.mp h
  simp [widenRepeatedly, hne]

theorem passes_widenRepeatedly_le (d : Diagram) (ls : List Link) (limit : Nat) :
    (d.widenRepeatedly ls limit).passes ≤ limit := by
  induction limit generalizing d with
  | zero => exact le_rfl
  | succ limit ih =>
    by_cases h : d.Settled ls
    · rw [widenRepeatedly_of_settled h]
      exact Nat.le_add_left 1 limit
    · rw [widenRepeatedly_of_not_settled h]
      exact Nat.succ_le_succ (ih _)

theorem settled_widenRepeatedly {d : Diagram} {ls : List Link} {n limit : Nat}
    (h : (d.afterPasses ls n).Settled ls) (hn : n < limit) :
    (d.widenRepeatedly ls limit).settled = true := by
  induction limit generalizing d n with
  | zero => omega
  | succ limit ih =>
    by_cases hd : d.Settled ls
    · rw [widenRepeatedly_of_settled hd]
    · rw [widenRepeatedly_of_not_settled hd]
      cases n with
      | zero => exact absurd h hd
      | succ n => exact ih h (by omega)

/-- A widening that was not cut off is the result of some passes, after which all links are settled. -/
theorem exists_afterPasses_of_settled {d : Diagram} {ls : List Link} {limit : Nat}
    (h : (d.widenRepeatedly ls limit).settled = true) :
    ∃ n, (d.widenRepeatedly ls limit).diagram = d.afterPasses ls n ∧
      (d.widenRepeatedly ls limit).diagram.Settled ls := by
  induction limit generalizing d with
  | zero => simp [widenRepeatedly] at h
  | succ limit ih =>
    by_cases hd : d.Settled ls
    · rw [widenRepeatedly_of_settled hd]
      exact ⟨0, rfl, hd⟩
    · rw [widenRepeatedly_of_not_settled hd] at h ⊢
      obtain ⟨n, hn, hs⟩ := ih h
      exact ⟨n + 1, hn, hs⟩

theorem settled_widenUntilStable (d : Diagram) : d.widenUntilStable.settled = true :=
  settled_widenRepeatedly (settled_afterPasses d) (Nat.lt_succ_self _)

@[simp] theorem untyped_widen (d : Diagram) (untilStable : Bool) :
    (d.widen untilStable).diagram.untyped = d.untyped := by
  cases untilStable with
  | false => exact untyped_widenAlong d d.links
  | true =>
    obtain ⟨n, hn, -⟩ := exists_afterPasses_of_settled (settled_widenUntilStable d)
    exact (congrArg untyped hn).trans (untyped_afterPasses d d.links n)

theorem settled_widen (d : Diagram) : (d.widen true).diagram.Settled d.links := by
  obtain ⟨-, -, hs⟩ := exists_afterPasses_of_settled (settled_widenUntilStable d)
  exact hs

end Diagram

end SchemaScript
