import Mathlib.Order.Bounds.Basic
import SchemaScript.Proofs.Chat.Attempts
import SchemaScript.Proofs.Number.Doubling

/-! The schedule of a run that tries again. It ends with the first attempt that succeeds, fails for good
or is the last one allowed. Between two attempts it waits, each time twice as long as before, and not
after the last one. Its result is what the last attempt came to, so a failure that stood behind the loop
over the attempts would never be the result. All this holds as long as a report can be written before
each delay: a number of attempts with too many digits ends the run behind its first attempt, and a
delay that is too long behind the attempt it was to follow. -/

namespace SchemaScript

namespace Delay

/-- The rational number a delay is, if it is one. -/
def value? : Delay → Option ℚ
  | whole n => some n
  | binary x => x.value?

/-- There is no delay of `2 ^ k` times the length, or none that can be shown, or it is infinite though
this one is not. -/
def Overflows (d : Delay) (k : Nat) : Prop :=
  match d.doubled? k with
  | none => True
  | some w => w.onePlace? = none ∨ (d.value? ≠ none ∧ w.value? = none)

instance (d : Delay) (k : Nat) : Decidable (d.Overflows k) :=
  match h : d.doubled? k with
  | none => .isTrue (by simp only [Overflows, h])
  | some w => decidable_of_iff (w.onePlace? = none ∨ (d.value? ≠ none ∧ w.value? = none))
      (by simp only [Overflows, h])

/-- `w` is exactly `2 ^ k` times `d`. What is not a number stays what it is. -/
structure IsDoubled (d : Delay) (k : Nat) (w : Delay) : Prop where
  number : ∀ {q : ℚ}, d.value? = some q → w.value? = some (q * 2 ^ k)
  other : d.value? = none → w = d

variable {d : Delay}

theorem isDoubled_whole (n : Int) (k : Nat) : (whole n).IsDoubled k (whole (n * Int.pow 2 k)) := by
  constructor
  · intro q hq
    obtain rfl := Option.some.inj hq
    simp [value?]
  · intro hnone
    cases hnone

theorem isDoubled_scale {x : Binary64} {k : Nat} (h : x.value? ≠ none → (x.scale k).value? ≠ none) :
    (binary x).IsDoubled k (binary (x.scale k)) := by
  constructor
  · intro q hq
    rcases Binary64.value?_scale hq k with ⟨-, hexact⟩ | ⟨-, negative, hinfinite⟩
    · exact hexact
    · have hsome : x.value? ≠ none := fun hnone => by cases hnone.symm.trans hq
      exact absurd (hinfinite ▸ Binary64.value?_infinite negative) (h hsome)
  · intro hnone
    rw [Binary64.scale_of_value?_eq_none hnone]

/-- A delay whose doubling does not overflow is doubled exactly, and can be shown. -/
theorem exists_isDoubled {k : Nat} (h : ¬ d.Overflows k) :
    ∃ w, d.doubled? k = some w ∧ (∃ text, w.onePlace? = some text) ∧ d.IsDoubled k w := by
  cases hw : d.doubled? k with
  | none => exact absurd (by simp only [Overflows, hw]) h
  | some w =>
    simp only [Overflows, hw, not_or, not_and] at h
    refine ⟨w, rfl, Option.ne_none_iff_exists'.mp h.1, ?_⟩
    cases d with
    | whole n =>
      obtain rfl := Option.some.inj hw
      exact isDoubled_whole n k
    | binary x =>
      rw [doubled?] at hw
      split at hw
      · obtain rfl := Option.some.inj hw
        exact isDoubled_scale h.2
      · cases hw

/-- A binary delay of zero overflows only where `2 ^ k` itself does. -/
theorem not_overflows_zero {negative : Bool} {k : Nat} (hk : k < 1024) :
    ¬ (binary (.zero negative)).Overflows k := by
  have hscaled : (Binary64.scale (.zero negative) k).value? = some 0 := by
    rcases Binary64.value?_scale (Binary64.value?_zero negative) k with ⟨-, hexact⟩ | ⟨hle, -⟩
    · simpa using hexact
    · rw [abs_zero, zero_mul] at hle
      exact absurd hle (not_le_of_gt (zpow_pos two_pos _))
  rw [Overflows, doubled?, if_pos hk]
  rintro (hnone | ⟨-, hnone⟩)
  · cases hnone
  · cases hscaled.symm.trans hnone

theorem doubled?_binary_of_le (x : Binary64) {k : Nat} (hk : 1024 ≤ k) :
    (binary x).doubled? k = none := if_neg (not_lt_of_ge hk)

end Delay

def RetryStep.isReport : RetryStep → Bool
  | .report _ => true
  | _ => false

/-- What a run does, apart from its reports. -/
def RetryRun.acts (r : RetryRun α) : List RetryStep := r.steps.filter (!·.isReport)

/-- `n` attempts from attempt `i` on, a delay behind each of them, and one more attempt. -/
def schedule (w : Nat → Delay) (i : Nat) : (n : Nat) → List RetryStep
  | 0 => [.attempt i]
  | n + 1 => .attempt i :: .wait (w i) :: schedule w (i + 1) n

theorem RetryRun.filterMap_acts {f : RetryStep → Option β} (hf : ∀ e, f (.report e) = none)
    (r : RetryRun α) : r.acts.filterMap f = r.steps.filterMap f := by
  rw [acts, List.filterMap_filter]
  congr 1
  funext step
  cases step with
  | attempt i => rfl
  | wait d => rfl
  | report e => exact (hf e).symm

section Schedule

variable (w : Nat → Delay) (i n : Nat)

theorem filterMap_attempt_schedule :
    (schedule w i n).filterMap RetryStep.attempt? = List.range' i (n + 1) := by
  induction n generalizing i with
  | zero => rfl
  | succ n ih =>
    rw [List.range'_succ, ← ih (i + 1)]
    rfl

theorem filterMap_wait_schedule :
    (schedule w i n).filterMap RetryStep.wait? = (List.range' i n).map w := by
  induction n generalizing i with
  | zero => rfl
  | succ n ih =>
    rw [List.range'_succ, List.map_cons, ← ih (i + 1)]
    rfl

end Schedule

/-- The run makes `n + 1` attempts from attempt `i` on with the delays `w` between them, and comes to
`result`. -/
structure RetryRun.Scheduled (r : RetryRun α) (result : Except Failure α) (w : Nat → Delay)
    (i n : Nat) : Prop where
  acts : r.acts = schedule w i n
  result : r.result = result

namespace RetryRun.Scheduled

variable {r : RetryRun α} {result : Except Failure α} {w : Nat → Delay} {i n : Nat}

theorem calls (h : r.Scheduled result w i n) : r.calls = n + 1 := by
  have hattempted : r.attempted = List.range' i (n + 1) := by
    rw [attempted, ← r.filterMap_acts fun _ => rfl, h.acts, filterMap_attempt_schedule]
  rw [r.calls_eq, hattempted, List.length_range']

theorem delays (h : r.Scheduled result w i n) : r.delays = (List.range' i n).map w := by
  rw [RetryRun.delays, ← r.filterMap_acts fun _ => rfl, h.acts, filterMap_wait_schedule]

end RetryRun.Scheduled

namespace RetryPolicy

variable (p : RetryPolicy) (outcome : Nat → Except Failure α)

theorem attempts_cast : (p.attempts : Int) = max 1 p.maxAttempts := by
  unfold attempts
  omega

/-- Why no attempt follows attempt `i`. -/
inductive Ends (i : Nat) : Prop
  | success {a : α} (h : outcome i = .ok a)
  | forGood {f : Failure} (h : outcome i = .error f) (hf : p.retriable f = false)
  | last (h : (i : Int) = max 1 p.maxAttempts - 1)

theorem exists_isLeast_ends : ∃ k, IsLeast {i | p.Ends outcome i} k := by
  classical
  have hends : ∃ i, p.Ends outcome i := by
    have hcast := p.attempts_cast
    exact ⟨p.attempts - 1, .last (by omega)⟩
  exact ⟨Nat.find hends, Nat.find_spec hends, fun i hi => Nat.find_min' hends hi⟩

theorem digitCount_mono {m n : Nat} (h : m ≤ n) : digitCount m ≤ digitCount n := by
  have hone : 0 < digitCount n := List.length_pos_iff.mpr Nat.toDigits_ne_nil
  have hn : n < 10 ^ digitCount n := (Nat.length_toDigits_le_iff (by decide) hone).mp le_rfl
  exact (Nat.length_toDigits_le_iff (by decide) hone).mpr (h.trans_lt hn)

section Pause

variable {p outcome} {i : Nat} {d : Delay}

/-- With a number of attempts that can be printed and a delay that can be shown, a pause is reported. -/
theorem exists_pause (hattempts : digitCount p.attempts ≤ digitLimit) (hi : i < p.attempts)
    (hd : p.delay? i = some d) (htext : ∃ text, d.onePlace? = some text) (f : Failure) :
    ∃ entry, p.pause i f = .ok (entry, d) := by
  obtain ⟨text, htext⟩ := htext
  have hnext : printWhole (i + 1) = .ok (toString ((i : Int) + 1)) :=
    if_pos ((digitCount_mono (m := i + 1) hi).trans hattempts)
  have hall : printWhole p.attempts = .ok (toString (p.attempts : Int)) := if_pos hattempts
  unfold pause retryEntry
  rw [hd]
  dsimp only
  rw [hnext, hall, htext]
  exact ⟨_, rfl⟩

theorem pause_of_too_many_attempts (hattempts : digitLimit < digitCount p.attempts)
    (hd : p.delay? i = some d) (f : Failure) : p.pause i f = .error (.number .tooManyDigits) := by
  have hall : printWhole p.attempts = .error .tooManyDigits := if_neg (not_le_of_gt hattempts)
  unfold pause retryEntry
  rw [hd]
  dsimp only
  rw [hall]
  cases printWhole (i + 1) with
  | ok s => rfl
  | error e => cases e; rfl

theorem pause_of_no_delay (hd : p.delay? i = none) (f : Failure) :
    p.pause i f = .error .delayTooLong := by
  rw [pause, hd]

end Pause

section Step

variable {p outcome} {i left : Nat}

theorem scheduled_of_ends (w : Nat → Delay) (h : p.Ends outcome i)
    (hleft : i + left + 1 = p.attempts) :
    (p.runFrom outcome i left).Scheduled (outcome i) w i 0 := by
  have hcast := p.attempts_cast
  cases left with
  | zero =>
    rw [runFrom]
    split
    · next a ha => exact ⟨rfl, ha.symm⟩
    · next f hf => exact ⟨rfl, hf.symm⟩
  | succ left =>
    cases h with
    | success ha =>
      rw [runFrom, ha]
      exact ⟨rfl, rfl⟩
    | forGood hf hretriable =>
      simp only [runFrom, hf, hretriable]
      exact ⟨rfl, rfl⟩
    | last hlast => omega

/-- An attempt that does not end the run has failed and may be followed by another. -/
theorem runFrom_of_not_ends (h : ¬ p.Ends outcome i) (hleft : i + left + 1 = p.attempts) :
    ∃ f left', i + 1 + left' + 1 = p.attempts ∧
      p.runFrom outcome i left =
        match p.pause i f with
        | .error g => ⟨[.attempt i], .error g⟩
        | .ok (entry, delay) =>
          ⟨.attempt i :: .report entry :: .wait delay :: (p.runFrom outcome (i + 1) left').steps,
            (p.runFrom outcome (i + 1) left').result⟩ := by
  have hcast := p.attempts_cast
  cases left with
  | zero => exact absurd (.last (by omega)) h
  | succ left =>
    cases hi : outcome i with
    | ok a => exact absurd (.success hi) h
    | error f =>
      have hretriable : p.retriable f = true := by
        apply Bool.eq_true_of_not_eq_false
        intro hf
        exact h (.forGood hi hf)
      refine ⟨f, left, by omega, ?_⟩
      rw [runFrom, hi]
      refine (if_pos hretriable).trans ?_
      cases p.pause i f with
      | error g => rfl
      | ok step => rfl

/-- An attempt that cannot be followed by a pause ends the run with what stands in the way. -/
theorem scheduled_of_no_pause (w : Nat → Delay) (h : ¬ p.Ends outcome i) {g : Failure}
    (hpause : ∀ f, p.pause i f = .error g) (hleft : i + left + 1 = p.attempts) :
    (p.runFrom outcome i left).Scheduled (.error g) w i 0 := by
  obtain ⟨f, left', -, hrun⟩ := runFrom_of_not_ends h hleft
  rw [hrun, hpause]
  exact ⟨rfl, rfl⟩

/-- The schedule up to an attempt that ends the run, by induction on how far away it is. -/
theorem scheduled_runFrom {w : Nat → Delay} {n : Nat} {result : Except Failure α}
    (hlast : ∀ left, i + n + left + 1 = p.attempts →
      (p.runFrom outcome (i + n) left).Scheduled result w (i + n) 0)
    (hearlier : ∀ j, i ≤ j → j < i + n →
      ¬ p.Ends outcome j ∧ ∀ f, ∃ entry, p.pause j f = .ok (entry, w j))
    (hleft : i + left + 1 = p.attempts) : (p.runFrom outcome i left).Scheduled result w i n := by
  induction n generalizing i left with
  | zero => exact hlast left hleft
  | succ n ih =>
    obtain ⟨hnot, hpause⟩ := hearlier i le_rfl (by omega)
    obtain ⟨f, left', hleft', hrun⟩ := runFrom_of_not_ends hnot hleft
    obtain ⟨entry, hentry⟩ := hpause f
    have hnext : i + (n + 1) = i + 1 + n := by omega
    rw [hnext] at hlast
    have hrest := ih hlast (fun j hj hlt => hearlier j (by omega) (by omega)) hleft'
    rw [hrun, hentry]
    constructor
    · rw [schedule, ← hrest.acts]
      rfl
    · exact hrest.result

end Step

/-- The run as a loop over the numbers of the attempts, behind which a failure stands. -/
def loop (afterwards : Failure) : List Nat → RetryRun α
  | [] => ⟨[], .error afterwards⟩
  | i :: is =>
    match outcome i with
    | .ok a => ⟨[.attempt i], .ok a⟩
    | .error f =>
      if p.retriable f ∧ i < p.attempts - 1 then
        match p.pause i f with
        | .error g => ⟨[.attempt i], .error g⟩
        | .ok (entry, delay) =>
          let rest := loop afterwards is
          ⟨.attempt i :: .report entry :: .wait delay :: rest.steps, rest.result⟩
      else ⟨[.attempt i, .report (p.failureEntry f)], .error f⟩

theorem loop_range' (afterwards : Failure) {i left : Nat} (hleft : i + left + 1 = p.attempts) :
    p.loop outcome afterwards (List.range' i (left + 1)) = p.runFrom outcome i left := by
  induction left generalizing i with
  | zero =>
    have hlast : ¬ i < p.attempts - 1 := by omega
    rw [List.range'_one, loop, runFrom]
    cases outcome i with
    | ok a => rfl
    | error f => simp [hlast]
  | succ left ih =>
    have hmore : i < p.attempts - 1 := by omega
    have hrest := ih (i := i + 1) (by omega)
    rw [List.range'_succ, loop, runFrom]
    cases outcome i with
    | ok a => rfl
    | error f =>
      cases hpause : p.pause i f with
      | error g => simp only [hmore, and_true, hpause]
      | ok step => simp only [hmore, hrest, and_true, hpause]

theorem loop_range (afterwards : Failure) :
    p.loop outcome afterwards (List.range p.attempts) = p.run outcome := by
  have hone : 1 ≤ p.attempts := Nat.le_max_left ..
  obtain ⟨left, hleft⟩ := Nat.exists_eq_add_of_le' hone
  rw [List.range_eq_range', hleft, p.loop_range' outcome afterwards (by omega), run, hleft,
    Nat.add_sub_cancel]

end RetryPolicy

/-- The run ends with attempt `k` and comes to `result`. Between attempts `i` and `i + 1` it waits
`2 ^ i` times as long as `base` says. -/
structure RetryRun.Obeys (r : RetryRun α) (base : Delay) (result : Except Failure α)
    (k : Nat) : Prop where
  calls : r.calls = k + 1
  delays : ∃ w : Nat → Delay,
    (∀ i < k, base.IsDoubled i (w i)) ∧ r.delays = (List.range k).map w ∧ r.acts = schedule w 0 k
  result : r.result = result

namespace RetryPolicy

variable {p : RetryPolicy} {outcome : Nat → Except Failure α} {k : Nat}

/-- A run obeys the schedule as far as attempts do not end it, can be reported and do not overflow. -/
theorem obeys_of_last {result : Except Failure α}
    (hlast : ∀ w left, k + left + 1 = p.attempts →
      (p.runFrom outcome k left).Scheduled result w k 0)
    (hreported : k = 0 ∨ digitCount p.attempts ≤ digitLimit)
    (hearlier : ∀ i < k, ¬ p.Ends outcome i ∧ ¬ p.baseDelay.Overflows i) :
    (p.run outcome).Obeys p.baseDelay result k := by
  have hone : 1 ≤ p.attempts := Nat.le_max_left ..
  have hcast := p.attempts_cast
  have hallowed : k < p.attempts := by
    by_contra hle
    exact (hearlier (p.attempts - 1) (by omega)).1 (.last (by omega))
  let w : Nat → Delay := fun i => (p.delay? i).getD p.baseDelay
  have hw : ∀ i < k, p.baseDelay.IsDoubled i (w i) ∧
      ∀ f, ∃ entry, p.pause i f = .ok (entry, w i) := by
    intro i hi
    obtain ⟨d, hd, htext, hdoubled⟩ := Delay.exists_isDoubled (hearlier i hi).2
    have hwi : w i = d := by simp only [w, delay?, hd, Option.getD_some]
    rw [hwi]
    exact ⟨hdoubled, exists_pause (hreported.resolve_left (by omega)) (hi.trans hallowed) hd htext⟩
  have hrun : (p.run outcome).Scheduled result w 0 k := by
    refine scheduled_runFrom ?_ ?_ (by omega)
    · rw [Nat.zero_add]
      exact hlast w
    · intro j _ hj
      rw [Nat.zero_add] at hj
      exact ⟨(hearlier j hj).1, (hw j hj).2⟩
  refine ⟨hrun.calls, ⟨w, fun i hi => (hw i hi).1, ?_, hrun.acts⟩, hrun.result⟩
  rw [hrun.delays, List.range_eq_range']

theorem not_ends_of_lt (hk : IsLeast {i | p.Ends outcome i} k) {i : Nat} (hi : i < k) :
    ¬ p.Ends outcome i := fun hends => absurd (hk.2 hends) (not_le_of_gt hi)

theorem obeys_of_isLeast (hk : IsLeast {i | p.Ends outcome i} k)
    (hreported : k = 0 ∨ digitCount p.attempts ≤ digitLimit)
    (hdelays : ∀ i < k, ¬ p.baseDelay.Overflows i) :
    (p.run outcome).Obeys p.baseDelay (outcome k) k :=
  obeys_of_last (fun w _ hleft => scheduled_of_ends w hk.1 hleft) hreported
    fun i hi => ⟨not_ends_of_lt hk hi, hdelays i hi⟩

/-- A number of attempts that cannot be printed ends a run behind its first attempt, if that does not end
it. -/
theorem obeys_of_too_many_attempts (hk : IsLeast {i | p.Ends outcome i} k) (hpos : 0 < k)
    (hattempts : digitLimit < digitCount p.attempts) :
    (p.run outcome).Obeys p.baseDelay (.error (.number .tooManyDigits)) 0 := by
  obtain ⟨d, hd⟩ : ∃ d, p.delay? 0 = some d := by
    unfold delay?
    cases p.baseDelay with
    | whole n => exact ⟨_, rfl⟩
    | binary x => exact ⟨_, rfl⟩
  refine obeys_of_last (fun w _ hleft => ?_) (.inl rfl) fun i hi => absurd hi i.not_lt_zero
  exact scheduled_of_no_pause w (not_ends_of_lt hk hpos) (pause_of_too_many_attempts hattempts hd) hleft

/-- A delay that is too long ends a run behind the attempt it was to follow. -/
theorem obeys_of_no_delay {n : Nat} (hk : IsLeast {i | p.Ends outcome i} k) (hn : n < k)
    (hreported : digitCount p.attempts ≤ digitLimit) (hdelays : ∀ i < n, ¬ p.baseDelay.Overflows i)
    (hnone : p.delay? n = none) : (p.run outcome).Obeys p.baseDelay (.error .delayTooLong) n := by
  refine obeys_of_last (fun w _ hleft => ?_) (.inr hreported)
    fun i hi => ⟨not_ends_of_lt hk (hi.trans hn), hdelays i hi⟩
  exact scheduled_of_no_pause w (not_ends_of_lt hk hn) (pause_of_no_delay hnone) hleft

/-- An operation that times out a number of times, and then gives the number of the attempt. -/
def timesOut (n : Nat) : Nat → Except Failure Nat := fun i =>
  if i < n then .error (.service ⟨.timeout, "Request timed out", none⟩) else .ok i

theorem isLeast_ends_timesOut {m : Int} (baseDelay : Delay) {n : Nat} (hn : n < max 1 m) :
    IsLeast {i | (backoff m baseDelay [.timeout] "call").Ends (timesOut n) i} n := by
  refine ⟨.success (if_neg n.lt_irrefl), fun i hi => ?_⟩
  by_contra hlt
  have hi' : timesOut n i = .error (.service ⟨.timeout, "Request timed out", none⟩) :=
    if_pos (not_le.mp hlt)
  cases hi with
  | success h => cases hi'.symm.trans h
  | forGood h hf =>
    cases hi'.symm.trans h
    have hretriable : (ErrorKind.timeout).covers .timeout = true := by decide
    simp [backoff, Failure.isOf, hretriable] at hf
  | last h =>
    have hlast : (i : Int) = max 1 m - 1 := h
    omega

def halfSecond : Delay := .binary (.finite false (2 ^ 52) (-53) (by decide))

example : ((backoff 5 halfSecond [.timeout] "call").run (timesOut 2)).waits =
    [.finite false (2 ^ 52) (-53) (by decide), .finite false (2 ^ 52) (-52) (by decide)] := by
  decide +kernel

theorem digitLimit_lt_digitCount : digitLimit < digitCount (10 ^ digitLimit) := by
  have hpos : 0 < digitLimit := by decide
  have hten : Int.natAbs 10 = 10 := rfl
  rw [digitCount, Int.natAbs_pow, hten, ← not_le, Nat.length_toDigits_le_iff (by decide) hpos]
  exact Nat.lt_irrefl _

end RetryPolicy

end SchemaScript
