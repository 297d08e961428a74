import SchemaScript.Chat.Failure
import SchemaScript.Journal
import SchemaScript.Number.Decimal

/-! Trying again. An operation that fails is tried again as long as the failure is retriable and
attempts are left, after a delay that doubles from one attempt to the next. A report of the attempt and
the delay comes before the waiting, and the run ends where the delay is too long for it or its numbers
have too many digits. The operation is given by its outcomes, the `i`-th of which is what attempt `i`
comes to; a run is the list of its steps and the outcome it ends with. -/

namespace SchemaScript

/-- A delay in seconds, as it is given: a whole number of any size or a binary one. -/
inductive Delay where
  | whole (n : Int)
  | binary (x : Binary64)
  deriving DecidableEq, Repr

namespace Delay

/-- The delay as a binary number. -/
def seconds : Delay → Binary64
  | whole n => .ofInt n
  | binary x => x

/-- `2 ^ k` times a delay. There is none for a binary delay where `2 ^ k` itself is too large for a
binary number. -/
def doubled? (d : Delay) (k : Nat) : Option Delay :=
  match d with
  | whole n => some (.whole (n * Int.pow 2 k))
  | binary x => if k < 1024 then some (.binary (x.scale k)) else none

/-- The delay with one place. There is none for a whole number that is too large for a binary one. -/
def onePlace? : Delay → Option String
  | whole n =>
    match Binary64.ofInt n with
    | .infinite _ => none
    | x => some x.onePlace
  | binary x => some x.onePlace

end Delay

structure RetryPolicy where
  maxAttempts : Int
  baseDelay : Delay
  retriable : Failure → Bool
  /-- The operation's name in reports. -/
  operation : String

inductive RetryStep where
  | attempt (index : Nat)
  | wait (delay : Delay)
  | report (e : Entry)
  deriving DecidableEq, Repr

def RetryStep.wait? : RetryStep → Option Delay
  | .wait d => some d
  | _ => none

structure RetryRun (α : Type) where
  steps : List RetryStep
  result : Except Failure α

namespace RetryPolicy

/-- The policy that tries again after errors of some kinds and after all that are transient. -/
def backoff (maxAttempts : Int) (baseDelay : Delay) (kinds : List ErrorKind) (operation : String) :
    RetryPolicy :=
  { maxAttempts
    baseDelay
    retriable := fun f => f.isOf kinds || f.isTransient
    operation }

/-- At least one attempt is made. -/
def attempts (p : RetryPolicy) : Nat := max 1 p.maxAttempts.toNat

/-- The delay after attempt `i`. -/
def delay? (p : RetryPolicy) (i : Nat) : Option Delay := p.baseDelay.doubled? i

def retryEntry (p : RetryPolicy) (i : Nat) (f : Failure) (delay : Delay) : Except Failure Entry := do
  let attempt ← (printWhole (i + 1)).mapError .number
  let attempts ← (printWhole p.attempts).mapError .number
  match delay.onePlace? with
  | some seconds =>
    return .note .warning Journal.retry (p.operation ++ " failed on attempt " ++ attempt ++ "/"
      ++ attempts ++ ": " ++ f.message ++ ". Retrying in " ++ seconds ++ " seconds...")
  | none => throw .delayTooLong

/-- The report and the delay between attempt `i`, which failed, and the next one. -/
def pause (p : RetryPolicy) (i : Nat) (f : Failure) : Except Failure (Entry × Delay) :=
  match p.delay? i with
  | some delay => do return (← p.retryEntry i f delay, delay)
  | none => .error .delayTooLong

def failureEntry (p : RetryPolicy) (f : Failure) : Entry :=
  ⟨.error, Journal.retry, p.operation ++ " failed: " ++ f.message, some f.message⟩

/-- The run from attempt `i` on, `left` further attempts being allowed after it. -/
def runFrom (p : RetryPolicy) (outcome : Nat → Except Failure α) (i : Nat) :
    (left : Nat) → RetryRun α
  | 0 =>
    match outcome i with
    | .ok a => ⟨[.attempt i], .ok a⟩
    | .error f => ⟨[.attempt i, .report (p.failureEntry f)], .error f⟩
  | left + 1 =>
    match outcome i with
    | .ok a => ⟨[.attempt i], .ok a⟩
    | .error f =>
      if p.retriable f then
        match p.pause i f with
        | .error g => ⟨[.attempt i], .error g⟩
        | .ok (entry, delay) =>
          let rest := p.runFrom outcome (i + 1) left
          ⟨.attempt i :: .report entry :: .wait delay :: rest.steps, rest.result⟩
      else ⟨[.attempt i, .report (p.failureEntry f)], .error f⟩

def run (p : RetryPolicy) (outcome : Nat → Except Failure α) : RetryRun α :=
  p.runFrom outcome 0 (p.attempts - 1)

end RetryPolicy

namespace RetryRun

/-- How many attempts a run made. -/
def calls (r : RetryRun α) : Nat :=
  r.steps.countP fun
    | .attempt _ => true
    | _ => false

def delays (r : RetryRun α) : List Delay := r.steps.filterMap RetryStep.wait?

/-- How long a run waits, as binary numbers. -/
def waits (r : RetryRun α) : List Binary64 := r.delays.map Delay.seconds

def journal (r : RetryRun α) : List Entry :=
  r.steps.filterMap fun
    | .report e => some e
    | _ => none

end RetryRun

end SchemaScript
