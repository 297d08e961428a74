import SchemaScript.Chat.Retry

/-! The attempts of a run that tries again. They are made one after the other, as many as the policy
allows at most. The first that succeeds is the last one made and gives the result; a run that fails has
made failing attempts only. -/

namespace SchemaScript

/-- What several attempts gave, beside what they came to: a success is that of the last one, behind
attempts that gave nothing, and without a success none of them gave anything. -/
def Concludes (given : List (Option α)) : Except Failure α → Prop
  | .ok a => ∃ failed, given = failed ++ [some a] ∧ ∀ g ∈ failed, g = none
  | .error _ => ∀ g ∈ given, g = none

theorem concludes_nil (f : Failure) : Concludes [] (.error f : Except Failure α) := by
  intro g hg
  cases hg

theorem concludes_success (a : α) : Concludes [some a] (.ok a) :=
  ⟨[], rfl, by simp⟩

theorem concludes_failure (f : Failure) : Concludes [none] (.error f : Except Failure α) := by
  intro g hg
  exact List.mem_singleton.mp hg

/-- Attempts that failed may come first. -/
theorem Concludes.append {first rest : List (Option α)} {f : Failure} {result : Except Failure α}
    (hfirst : Concludes first (.error f)) (hrest : Concludes rest result) :
    Concludes (first ++ rest) result := by
  cases result with
  | ok a =>
    obtain ⟨failed, rfl, hfailed⟩ := hrest
    refine ⟨first ++ failed, by rw [List.append_assoc], fun g hg => ?_⟩
    rcases List.mem_append.mp hg with hg | hg
    · exact hfirst g hg
    · exact hfailed g hg
  | error f' =>
    intro g hg
    rcases List.mem_append.mp hg with hg | hg
    · exact hfirst g hg
    · exact hrest g hg

def RetryStep.attempt? : RetryStep → Option Nat
  | .attempt i => some i
  | _ => none

/-- The attempts of a run, by their numbers. -/
def RetryRun.attempted (r : RetryRun α) : List Nat := r.steps.filterMap RetryStep.attempt?

theorem RetryRun.calls_eq (r : RetryRun α) : r.calls = r.attempted.length := by
  rw [RetryRun.calls, RetryRun.attempted, List.length_filterMap_eq_countP]
  congr 1
  funext step
  cases step <;> rfl

/-- The run makes `n` attempts, numbered from `i` on, of which only the last may succeed. -/
structure RetryRun.Orderly (r : RetryRun α) (outcome : Nat → Except Failure α) (i n : Nat) : Prop where
  attempted : r.attempted = List.range' i n
  concludes : Concludes ((List.range' i n).map fun j => (outcome j).toOption) r.result

namespace RetryRun.Orderly

variable {r rest : RetryRun α} {outcome : Nat → Except Failure α} {i n : Nat}

theorem calls (h : r.Orderly outcome i n) : r.calls = n := by
  rw [r.calls_eq, h.attempted, List.length_range']

theorem single (hattempted : r.attempted = [i]) (h : Concludes [(outcome i).toOption] r.result) :
    r.Orderly outcome i 1 :=
  ⟨hattempted, h⟩

/-- A failed attempt in front of a run. -/
theorem cons (hattempted : r.attempted = i :: rest.attempted) (hresult : r.result = rest.result)
    (hfailed : (outcome i).toOption = none) (hrest : rest.Orderly outcome (i + 1) n) :
    r.Orderly outcome i (n + 1) := by
  constructor
  · rw [hattempted, hrest.attempted, List.range'_succ]
  · rw [List.range'_succ, List.map_cons, hfailed, hresult]
    exact (concludes_failure .noProvider).append hrest.concludes

end RetryRun.Orderly

namespace RetryPolicy

variable (p : RetryPolicy) (outcome : Nat → Except Failure α)

/-- A run from attempt `i` on makes at most `left` attempts after it. -/
theorem orderly_runFrom (i left : Nat) :
    ∃ n, n ≤ left + 1 ∧ (p.runFrom outcome i left).Orderly outcome i n := by
  have hok {j : Nat} {a : α} (h : outcome j = .ok a) : Concludes [(outcome j).toOption] (.ok a) := by
    rw [h]
    exact concludes_success a
  have hfailed {j : Nat} {f : Failure} (h : outcome j = .error f) : (outcome j).toOption = none := by
    rw [h]
    rfl
  fun_induction runFrom p outcome i left with
  | case1 i a h => exact ⟨1, by omega, .single rfl (hok h)⟩
  | case2 i f h => exact ⟨1, by omega, .single rfl (hfailed h ▸ concludes_failure f)⟩
  | case3 i left a h => exact ⟨1, by omega, .single rfl (hok h)⟩
  | case4 i left f h _ g _ =>
    exact ⟨1, by omega, .single rfl (hfailed h ▸ concludes_failure g)⟩
  | case5 i left f h _ entry delay _ rest ih =>
    obtain ⟨n, hn, hrest⟩ := ih
    exact ⟨n + 1, by omega, .cons rfl rfl (hfailed h) hrest⟩
  | case6 i left f h _ =>
    exact ⟨1, by omega, .single rfl (hfailed h ▸ concludes_failure f)⟩

/-- An operation that succeeds at once is not tried again. -/
theorem result_run_of_ok {a : α} (h : outcome 0 = .ok a) : (p.run outcome).result = .ok a := by
  unfold run
  cases p.attempts - 1 with
  | zero => rw [runFrom, h]
  | succ left => rw [runFrom, h]

theorem orderly_run : ∃ n, n ≤ p.attempts ∧ (p.run outcome).Orderly outcome 0 n := by
  obtain ⟨n, hn, hrun⟩ := p.orderly_runFrom outcome 0 (p.attempts - 1)
  have hone : 1 ≤ p.attempts := Nat.le_max_left ..
  exact ⟨n, by omega, hrun⟩

end RetryPolicy

end SchemaScript
