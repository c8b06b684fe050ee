import StatefulRoles.Effect
import StatefulRoles.Fault
/-!
# Retries

A policy says how often an operation may be tried and which faults are worth another try. There is
no pause between two attempts: an attempt after the first is told its number and is expected to
refresh what it works on. A fault may leave it open whether it is worth another try; that ends the
operation as well, with the fault that says so.
-/
namespace StatefulRoles

/-- How often an operation is tried at most, and after which faults it is tried again. -/
structure RetryPolicy where
  attempts : Int := 1
  retryable : Fault → Except Fault Bool := fun _ => .ok false

namespace RetryPolicy

/-- One attempt; every fault is final. Mirrors `no_retry_policy`. -/
def single : RetryPolicy := {}

/-- A second attempt after a conflict, which the body of an answer may have to tell. Mirrors
`conflict_retry_policy`. -/
def conflict (depth : Nat) : RetryPolicy := ⟨2, Fault.isConflict depth⟩

/-- What is logged before another attempt. -/
def retrying (f : Fault) : Log :=
  .warning s!"Retrying <unknown> in 0 seconds as it raised {f.kindName}: {f.message}."

variable {σ ε α : Type}

/-- What follows a failed attempt: `again` if the fault is worth it, or else the end. -/
def settle (retryable : Fault → Except Fault Bool) (account : Fault.Account ε)
    (again : Act σ Effect ε α) (e : ε) : Act σ Effect ε α :=
  match retryable (account.fault e) with
  | .error f => Act.fail (account.withFault e f)
  | .ok true => again
  | .ok false => Act.fail e

/-- Runs an operation from the attempt with a number on; so many more attempts may follow it. -/
def runFrom (retryable : Fault → Except Fault Bool) (account : Fault.Account ε)
    (operation : Nat → Act σ Effect ε α) : Nat → Nat → Act σ Effect ε α
  | 0, number => do
    match ← (operation number).attempt with
    | .ok value => return value
    | .error e => settle retryable account (Act.fail e) e
  | more + 1, number => do
    match ← (operation number).attempt with
    | .ok value => return value
    | .error e =>
      let again : Act σ Effect ε α := do
        Act.emit [.log (retrying (account.fault e))]
        runFrom retryable account operation more (number + 1)
      settle retryable account again e

/-- Runs an operation under a policy. The attempts are numbered from one; there is always a first
one. The fault of the last attempt is the fault of the whole, unless it could not be told whether to
try again. Mirrors `create_retry_policy`. -/
def run (policy : RetryPolicy) (account : Fault.Account ε) (operation : Nat → Act σ Effect ε α) :
    Act σ Effect ε α :=
  runFrom policy.retryable account operation (policy.attempts - 1).toNat 1

end RetryPolicy
end StatefulRoles
