import StatefulRoles.Manager
import StatefulRoles.Proofs.Session
/-!
# Reports of failed steps

Results:
* `reporting_ok`, `reporting_error`: reporting changes nothing of a run but adds one line to the log
  if an API error ended it.
* `failed_eq`: the report of a failed step is one error line that names the cluster, the step and the
  object; it is never put on record.
* `Compositional.run`, `Compositional.reporting`: what is said of runs by looking at their parts
  holds however often they are tried again, and of runs with a report.
-/
namespace StatefulRoles

open Act

variable {ω ε α : Type} {s s' : Session ω} {t : List Effect}

/-- A report without a reason is not put on record. -/
theorem Recorder.record_logOnly (host : Host ω) (settings : Settings) (cluster : Cluster)
    (type message : String) :
    (Recorder.record host settings cluster type Recorder.logOnly message : Session.Run ω ε Unit) s =
      (⟨[], .ok ()⟩, s) := by
  unfold Recorder.record
  rw [get_bind]
  cases s.manager.recorder with
  | none => rfl
  | some client => rfl

theorem Recorder.info_logOnly (host : Host ω) (settings : Settings) (cluster : Cluster)
    (message : String) :
    (Recorder.info host settings cluster Recorder.logOnly message : Session.Run ω ε Unit) s =
      (⟨[.log (.info s!"[{cluster.title}] {message}")], .ok ()⟩, s) :=
  bind_ok (emit_eq _) (record_logOnly host settings cluster _ _)

namespace Manager

/-- The line that reports a failed step. -/
def failedLine (cluster : Cluster) (step object : String) (f : Fault) : Log :=
  ⟨.error,
    s!"[{cluster.ns}/{cluster.name}] failed to {step} statefulset {object}: {f.message}"⟩

theorem failed_eq (p : Platform ω) (cluster : Cluster) (object : String) (e : StepFault) :
    failed p cluster object e s =
      (⟨[.log (failedLine cluster e.step.verb object e.fault)], .ok ()⟩, s) := by
  let message := s!"failed to {e.step.verb} statefulset {object}"
  have hline : Log.error s!"[{cluster.title}] {message}: {e.fault.message}" =
      failedLine cluster e.step.verb object e.fault := by
    have hjoined : "] failed to " = "] " ++ "failed to " := rfl
    simp only [message, Log.error, failedLine, Cluster.title, toString, hjoined,
      String.append_assoc]
  rw [← hline]
  exact bind_ok (emit_eq _) (Recorder.record_logOnly p.host p.settings cluster _ _)

/-- What a run adds to the log for the fault that ended it. -/
def reported (line : Log) (f : Fault) : List Effect := if f.api?.isSome then [.log line] else []

theorem reported_calls (line : Log) (f : Fault) :
    (reported line f).filterMap Effect.call? = [] := by
  unfold reported
  split <;> rfl

theorem reporting_ok {account : Fault.Account ε} {report : ε → Session.Run ω Fault Unit}
    {run : Session.Run ω ε α} {a : α} (h : run s = (⟨t, .ok a⟩, s')) :
    reporting account report run s = (⟨t, .ok a⟩, s') := by
  unfold reporting
  rw [attempt_bind h (pure_eq a), List.append_nil]

theorem reporting_error {account : Fault.Account ε} {report : ε → Session.Run ω Fault Unit}
    {run : Session.Run ω ε α} {e : ε} {line : Log} (h : run s = (⟨t, .error e⟩, s'))
    (hr : report e s' = (⟨[.log line], .ok ()⟩, s')) :
    reporting account report run s =
      (⟨t ++ reported line (account.fault e), .error (account.fault e)⟩, s') := by
  unfold reporting
  refine attempt_bind h ?_
  dsimp only
  cases account.fault e with
  | api error => exact bind_ok hr (fail_eq _)
  | _ => exact fail_eq _

end Manager

/-! ## Runs and their parts -/

/-- What is said of two runs, or of one, by looking at their parts. -/
structure Compositional (R : ∀ ε α : Type, Session.Run ω ε α → Session.Run ω ε α → Prop) :
    Prop where
  pure : ∀ {ε α : Type} (a : α), R ε α (Pure.pure a) (Pure.pure a)
  fail : ∀ {ε α : Type} (e : ε), R ε α (Act.fail e) (Act.fail e)
  log : ∀ {ε : Type} (line : Log), R ε Unit (Session.log line) (Session.log line)
  bind : ∀ {ε α β : Type} {x y : Session.Run ω ε α} {f g : α → Session.Run ω ε β},
    R ε α x y → (∀ a, R ε β (f a) (g a)) → R ε β (x >>= f) (y >>= g)
  attempt : ∀ {ε ε' α : Type} {x y : Session.Run ω ε α},
    R ε α x y → R ε' (Except ε α) x.attempt y.attempt

namespace Compositional

variable {R : ∀ ε α : Type, Session.Run ω ε α → Session.Run ω ε α → Prop}
  {account : Fault.Account ε}

theorem settle (h : Compositional R) (retryable : Fault → Except Fault Bool) (e : ε)
    {x y : Session.Run ω ε α} (hxy : R ε α x y) :
    R ε α (RetryPolicy.settle retryable account x e)
      (RetryPolicy.settle retryable account y e) := by
  unfold RetryPolicy.settle
  rcases retryable (account.fault e) with f | (_ | _)
  · exact h.fail _
  · exact h.fail _
  · exact hxy

/-- However often runs are tried again, it holds of the whole if it does of each attempt. -/
theorem run (h : Compositional R) (policy : RetryPolicy) {f g : Nat → Session.Run ω ε α}
    (hfg : ∀ number, R ε α (f number) (g number)) :
    R ε α (policy.run account f) (policy.run account g) := by
  unfold RetryPolicy.run
  generalize (policy.attempts - 1).toNat = more
  generalize 1 = number
  induction more generalizing number with
  | zero =>
    unfold RetryPolicy.runFrom
    refine h.bind (h.attempt (hfg number)) fun r => ?_
    cases r with
    | ok a => exact h.pure a
    | error e => exact h.settle _ e (h.fail e)
  | succ more ih =>
    unfold RetryPolicy.runFrom
    refine h.bind (h.attempt (hfg number)) fun r => ?_
    cases r with
    | ok a => exact h.pure a
    | error e => exact h.settle _ e (h.bind (h.log _) fun _ => ih (number + 1))

theorem reporting (h : Compositional R) {x y : Session.Run ω ε α}
    {f g : ε → Session.Run ω Fault Unit} (hxy : R ε α x y)
    (hfg : ∀ e, R Fault Unit (f e) (g e)) :
    R Fault α (Manager.reporting account f x) (Manager.reporting account g y) := by
  unfold Manager.reporting
  refine h.bind (h.attempt hxy) fun r => ?_
  cases r with
  | ok a => exact h.pure a
  | error e =>
    dsimp only
    cases account.fault e with
    | api error => exact h.bind (hfg e) fun _ => h.fail _
    | _ => exact h.fail _

end Compositional
end StatefulRoles
