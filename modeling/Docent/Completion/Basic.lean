import Docent.Log
import Docent.Number.Amount

/-!
# Completion

A client completes a prompt: it answers with a text or fails, changes its state, and tells what is to
be logged. A client whose single attempts may fail tries again after delays that double each time. An
attempt can also break off in a way that no other attempt follows, and a delay can be one that there is
no waiting for.
-/

namespace Docent

/-- A failure of the backend; `retryable` says whether another attempt could succeed. -/
structure BackendError where
  message : String
  retryable : Bool := true
deriving DecidableEq, Repr

/-! ### Waiting -/

/-- Why there is no waiting for an amount of time. -/
inductive WaitFault
  | undefined
  | negative
  | tooLong
  | outOfRange
deriving DecidableEq, Repr

def WaitFault.message : WaitFault → String
  | undefined => "Invalid value NaN (not a number)"
  | negative => "sleep length must be non-negative"
  | tooLong => "timestamp too large to convert to C _PyTime_t"
  | outOfRange => "timestamp out of range for platform time_t"

/-- The nanoseconds that a clock has no room for. -/
def clockBound : Nat := Nat.pow 2 63

/-- The fault of `num / den` nanoseconds, or of as many less than none; too many of them are a fault
that is given. -/
def WaitFault.ofNanoseconds? (tooMany : WaitFault) (isNegative : Bool) (num den : Nat) :
    Option WaitFault :=
  if clockBound * den < num || (!isNegative && clockBound * den = num) then some tooMany
  else if isNegative && num ≠ 0 then some .negative
  else none

/-- What a clock finds at fault with an amount of seconds. The nanoseconds of a floating-point number
are one as well. -/
def Amount.waitFault? : Amount → Option WaitFault
  | .whole i => WaitFault.tooLong.ofNanoseconds? (i < 0) (i.natAbs * 1000000000) 1
  | .real x =>
    match x.mul (.finite false 1000000000 0) with
    | .nan => some .undefined
    | .infinite _ => some .outOfRange
    | .finite isNegative digits power =>
      let (num, den) := Binary64.magnitude digits power
      WaitFault.outOfRange.ofNanoseconds? isNegative num den

example : (Amount.real (.finite true 1 0)).waitFault? = some .negative := by decide

/-! ### Failures -/

/-- A failure that is none of the backend: what sort of failure it is, and what it says. -/
structure Breakdown where
  sort : String
  message : String
deriving DecidableEq, Repr

/-- Why there is no completion: the backend failed, an attempt broke off, or a delay is beyond all
numbers or one that there is no waiting for. -/
inductive CompletionFailure
  | backend (e : BackendError)
  | broken (e : Breakdown)
  | delayTooLong
  | unwaited (e : WaitFault)
deriving DecidableEq, Repr

namespace CompletionFailure

def message : CompletionFailure → String
  | backend e => e.message
  | broken e => e.message
  | delayTooLong => "int too large to convert to float"
  | unwaited e => e.message

def isBackend : CompletionFailure → Bool
  | backend _ => true
  | _ => false

end CompletionFailure

/-! ### Clients -/

structure Answer where
  outcome : Except CompletionFailure String
  logs : List LogRecord := []

structure Client (σ : Type) where
  complete : String → σ → Answer × σ

structure Attempt where
  outcome : Except CompletionFailure String
  logs : List LogRecord := []

/-- How attempts are repeated: how often at most, after which delay, and what they are called. -/
structure RetryPlan where
  attempts : Nat
  delay : Amount
  description : String

def completionLogName : String := "src.generators.llm_client"

namespace RetryPlan

/-- A plan for a number of attempts, of which there is at least one. -/
def ofCount (attempts : Int) (delay : Amount) (description : String) : RetryPlan :=
  ⟨(max attempts 1).toNat, delay, description⟩

/-- What is logged between attempt number `k`, counted from zero, and the next one. -/
def notice (p : RetryPlan) (k : Nat) (e : BackendError) (delay : Amount) : LogRecord :=
  .warning completionLogName <|
    s!"{p.description} failed (attempt {k + 1}/{p.attempts}): {e.message}; retrying in " ++
      s!"{delay.toBinary64.fixedText 1} seconds"

def exhausted (p : RetryPlan) (e : BackendError) : BackendError :=
  ⟨s!"{p.description} failed after {p.attempts} attempts: {e.message}", true⟩

/-- Makes attempt number `k` and, while attempts fail that may be repeated, up to `left` more. -/
def run {σ : Type} (p : RetryPlan) (attempt : σ → Attempt × σ)
    (pause : Amount → σ → Except WaitFault σ) : Nat → Nat → σ → Answer × σ
  | left, k, s =>
    match attempt s with
    | (⟨.error (.backend e), logs⟩, s) =>
      if e.retryable = false then (⟨.error (.backend e), logs⟩, s)
      else
        match left with
        | 0 => (⟨.error (.backend (p.exhausted e)), logs⟩, s)
        | left + 1 =>
          match p.delay.doubled? k with
          | none => (⟨.error .delayTooLong, logs⟩, s)
          | some delay =>
            match pause delay s with
            | .error w => (⟨.error (.unwaited w), logs ++ [p.notice k e delay]⟩, s)
            | .ok s =>
              let (answer, s) := run p attempt pause left (k + 1) s
              (⟨answer.outcome, logs ++ p.notice k e delay :: answer.logs⟩, s)
    | (⟨outcome, logs⟩, s) => (⟨outcome, logs⟩, s)

def complete {σ : Type} (p : RetryPlan) (attempt : σ → Attempt × σ)
    (pause : Amount → σ → Except WaitFault σ) (s : σ) : Answer × σ :=
  p.run attempt pause (p.attempts - 1) 0 s

end RetryPlan

end Docent
