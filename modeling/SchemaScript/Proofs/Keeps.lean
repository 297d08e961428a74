import Mathlib.Order.Defs.Unbundled

/-! Steps that change a state, some of which may fail. A step that follows another starts from the state
the first has left, and is not made if the first has failed. A preorder that every step of a sequence
keeps is kept by the whole, however the sequence ends. -/

namespace SchemaScript

variable {σ α β ε : Type}

theorem bind_apply (x : StateM σ α) (f : α → StateM σ β) (s : σ) :
    (x >>= f) s = f (x s).1 (x s).2 := rfl

theorem get_bind_apply (f : σ → ExceptT ε (StateM σ) α) (s : σ) : (get >>= f) s = f s s := rfl

theorem bind_of_ok {x : ExceptT ε (StateM σ) α} {f : α → ExceptT ε (StateM σ) β} {s s' : σ} {a : α}
    (h : x s = (.ok a, s')) : (x >>= f) s = f a s' := by
  have hrun : (x >>= f) s = ExceptT.bindCont f (x s).1 (x s).2 := rfl
  rw [hrun, h]
  rfl

theorem bind_of_error {x : ExceptT ε (StateM σ) α} {f : α → ExceptT ε (StateM σ) β} {s s' : σ} {e : ε}
    (h : x s = (.error e, s')) : (x >>= f) s = (.error e, s') := by
  have hrun : (x >>= f) s = ExceptT.bindCont f (x s).1 (x s).2 := rfl
  rw [hrun, h]
  rfl

/-- A sequence succeeds only if its first step does, and the second from where that has led. -/
theorem exists_of_bind_eq_ok {x : ExceptT ε (StateM σ) α} {f : α → ExceptT ε (StateM σ) β} {s s' : σ}
    {b : β} (h : (x >>= f) s = (.ok b, s')) : ∃ a s₁, x s = (.ok a, s₁) ∧ f a s₁ = (.ok b, s') := by
  rcases hx : x s with ⟨r, s₁⟩
  cases r with
  | ok a => exact ⟨a, s₁, rfl, (bind_of_ok hx).symm.trans h⟩
  | error e =>
    rw [bind_of_error hx] at h
    cases h

variable {R : σ → σ → Prop}

/-- The states before and after a step stand in a relation, whatever the step comes to. -/
def Keeps (R : σ → σ → Prop) (x : StateM σ α) : Prop := ∀ s, R s (x s).2

/-- A step that looks at the state first is judged at the state it finds. -/
theorem Keeps.getBind {f : σ → ExceptT ε (StateM σ) α} (hf : ∀ s, R s ((f s).run s).2) :
    Keeps R (get >>= f).run := hf

variable [IsPreorder σ R]

theorem Keeps.pure (a : α) : Keeps R (Pure.pure a : StateM σ α) := fun s => refl_of R s

theorem Keeps.bind {x : StateM σ α} {f : α → StateM σ β} (hx : Keeps R x)
    (hf : ∀ a, Keeps R (f a)) : Keeps R (x >>= f) :=
  fun s => trans_of R (hx s) (hf _ _)

theorem Keeps.forM {f : α → StateM σ PUnit} (hf : ∀ a, Keeps R (f a)) (l : List α) :
    Keeps R (l.forM f) := by
  induction l with
  | nil => exact Keeps.pure _
  | cons a l ih => exact (hf a).bind fun _ => ih

/-- A step that may fail is followed by the next one only if it does not. -/
theorem Keeps.bindExcept {x : ExceptT ε (StateM σ) α} {f : α → ExceptT ε (StateM σ) β}
    (hx : Keeps R x.run) (hf : ∀ a, Keeps R (f a).run) : Keeps R (x >>= f).run := by
  rw [ExceptT.run_bind]
  apply hx.bind
  intro r
  cases r with
  | ok a => exact hf a
  | error e => exact Keeps.pure _

end SchemaScript
