import StatefulRoles.Proofs.Trace
import StatefulRoles.Retry
/-!
# What a retried operation does

Results:
* `runFrom_stop`, `runFrom_again`: what an attempt makes of the run, under any policy.
* `single_run`: under the policy of one attempt, that attempt is the whole run.
* `conflict_run_ok`, `conflict_run_stop`, `conflict_run_again`: under the policy for conflicts a
  first attempt that has a value is the whole run; one that fails is, too, unless the fault is a
  conflict; and after a conflict the second attempt decides, whatever it ends with.
* `raised_of_unreadable`, `raised_of_readable`: the fault of the last attempt is the fault of the
  run, unless its body goes too deep to tell whether it is a conflict.
-/
namespace StatefulRoles

namespace ApiError

variable {e : ApiError} {depth : Nat} {container : Json.Container}

theorem hasCode_iff {code : Int} : e.hasCode code = true ↔ e.status.bind (·.code?) = some code :=
  decide_eq_true_iff

theorem reason?_eq_error {body : Body} : body.reason? depth = .error container ↔
    Json.parse depth body.chars = .error (.tooDeep container) := by
  unfold Body.reason?
  cases h : Json.parse depth body.chars with
  | ok j => simp
  | error refusal => cases refusal <;> simp

/-- It cannot be told of an API error whether it is a conflict if it has the code and its body goes
too deep. -/
theorem isConflict_eq_error :
    e.isConflict depth = .error container ↔ e.hasCode 409 = true ∧ ∃ body, e.body = some body ∧
      Json.parse depth body.chars = .error (.tooDeep container) := by
  unfold isConflict hasReason reason?
  by_cases hcode : e.hasCode 409 = true
  · cases hb : e.body with
    | none => simp [hcode, Except.map]
    | some body =>
      simp only [hcode, if_true, Option.some.injEq, exists_eq_left', true_and,
        ← reason?_eq_error]
      cases hr : body.reason? depth <;> simp [Except.map]
  · simp [hcode]

end ApiError

namespace Fault

variable {depth : Nat} {f g : Fault} {container : Json.Container}

/-- A fault of which cannot be told whether it is a conflict: the answer has the code 409, and its
body is given up at a container that stands too deep. -/
def Unreadable (depth : Nat) (f : Fault) (container : Json.Container) : Prop :=
  ∃ e body, f = .api e ∧ e.status.bind (·.code?) = some 409 ∧ e.body = some body ∧
    Json.parse depth body.chars = .error (.tooDeep container)

/-- What is left of a fault once it has been asked whether it is a conflict. -/
def raised (depth : Nat) (f : Fault) : Fault :=
  match f.isConflict depth with
  | .ok _ => f
  | .error g => g

/-- Of all other faults it can be told. -/
theorem isConflict_eq_error : f.isConflict depth = .error g ↔
    ∃ container, f.Unreadable depth container ∧ g = .deepBody container := by
  cases f with
  | api e =>
    have hholds : isConflict depth (.api e) = (e.isConflict depth).mapError .deepBody := rfl
    rw [hholds]
    constructor
    · intro h
      cases hc : e.isConflict depth with
      | ok again =>
        rw [hc] at h
        cases h
      | error container =>
        rw [hc] at h
        obtain ⟨hcode, body, hbody, hparse⟩ := ApiError.isConflict_eq_error.mp hc
        refine ⟨container, ⟨e, body, rfl, ApiError.hasCode_iff.mp hcode, hbody, hparse⟩, ?_⟩
        exact (Except.error.inj h).symm
    · rintro ⟨container, ⟨e', body, he, hcode, hbody, hparse⟩, rfl⟩
      obtain rfl : e = e' := Fault.api.inj he
      rw [ApiError.isConflict_eq_error.mpr ⟨ApiError.hasCode_iff.mpr hcode, body, hbody, hparse⟩]
      rfl
  | _ =>
    refine iff_of_false nofun ?_
    rintro ⟨container, ⟨e, body, he, -⟩, -⟩
    cases he

/-- A fault of which it cannot be told is replaced. -/
theorem raised_of_unreadable (h : f.Unreadable depth container) :
    f.raised depth = .deepBody container := by
  rw [raised, isConflict_eq_error.mpr ⟨container, h, rfl⟩]

/-- No other one is. -/
theorem raised_of_readable (h : ∀ container, ¬f.Unreadable depth container) :
    f.raised depth = f := by
  unfold raised
  cases hc : f.isConflict depth with
  | ok again => rfl
  | error g =>
    obtain ⟨container, hdeep, -⟩ := isConflict_eq_error.mp hc
    exact absurd hdeep (h container)

theorem raised_eq_self_iff :
    f.raised depth = f ↔ ∀ container, ¬f.Unreadable depth container := by
  refine ⟨fun h container hdeep => ?_, raised_of_readable⟩
  obtain ⟨e, body, rfl, -⟩ := id hdeep
  rw [raised_of_unreadable hdeep] at h
  cases h

end Fault

namespace RetryPolicy

open Act

variable {σ ε α : Type} {account : Fault.Account ε} {operation : Nat → Act σ Effect ε α}
  {retryable : Fault → Except Fault Bool} {depth number more : Nat} {s s' s'' : σ}
  {t u : List Effect} {e : ε}

/-! ## One attempt of a run -/

/-- The account of a fault that ends a run: the same, unless the fault left it open whether it is
worth another attempt. -/
def final (retryable : Fault → Except Fault Bool) (account : Fault.Account ε) (e : ε) : ε :=
  match retryable (account.fault e) with
  | .ok _ => e
  | .error f => account.withFault e f

theorem final_of_ok {again : Bool} (h : retryable (account.fault e) = .ok again) :
    final retryable account e = e := by
  rw [final, h]

theorem final_of_error {f : Fault} (h : retryable (account.fault e) = .error f) :
    final retryable account e = account.withFault e f := by
  rw [final, h]

/-- A failed attempt that none follows ends the run. -/
theorem settle_fail (retryable : Fault → Except Fault Bool) (account : Fault.Account ε) (e : ε) :
    (settle retryable account (fail e) e : Act σ Effect ε α) s =
      (⟨[], .error (final retryable account e)⟩, s) := by
  unfold settle final
  cases retryable (account.fault e) with
  | error f => rfl
  | ok again => cases again <;> rfl

theorem settle_again {again : Act σ Effect ε α} (hc : retryable (account.fault e) = .ok true) :
    settle retryable account again e = again := by
  simp only [settle, hc]

theorem settle_stop {again : Act σ Effect ε α} (hc : retryable (account.fault e) ≠ .ok true) :
    settle retryable account again e = settle retryable account (fail e) e := by
  unfold settle
  cases hq : retryable (account.fault e) with
  | error f => rfl
  | ok again =>
    cases again with
    | false => rfl
    | true => exact absurd hq hc

/-- An attempt ends the run if it is the last that is allowed, or has a value, or a fault that is
not worth another one. -/
theorem runFrom_stop {r : Except ε α} (h : operation number s = (⟨t, r⟩, s'))
    (hstop : more = 0 ∨ ∀ e, r = .error e → retryable (account.fault e) ≠ .ok true) :
    runFrom retryable account operation more number s =
      (⟨t, r.mapError (final retryable account)⟩, s') := by
  rw [← List.append_nil t]
  cases more with
  | zero =>
    unfold runFrom
    cases r with
    | ok a => exact attempt_bind h (pure_eq a)
    | error e => exact attempt_bind h (settle_fail retryable account e)
  | succ more =>
    unfold runFrom
    cases r with
    | ok a => exact attempt_bind h (pure_eq a)
    | error e =>
      have hfinal := hstop.resolve_left (Nat.succ_ne_zero more) e rfl
      refine attempt_bind h ((congrFun (settle_stop hfinal) s').trans ?_)
      exact settle_fail retryable account e

/-- Behind any other attempt the run is logged to go on, and goes on. -/
theorem runFrom_again {r : Except ε α} (h : operation number s = (⟨t, .error e⟩, s'))
    (hc : retryable (account.fault e) = .ok true)
    (h' : runFrom retryable account operation more (number + 1) s' = (⟨u, r⟩, s'')) :
    runFrom retryable account operation (more + 1) number s =
      (⟨t ++ .log (retrying (account.fault e)) :: u, r⟩, s'') := by
  conv => lhs; unfold runFrom
  refine attempt_bind h ((congrFun (settle_again hc) s').trans ?_)
  exact bind_ok (emit_eq _) h'

/-! ## The two policies -/

/-- Under the policy of one attempt, that attempt is the whole run. -/
theorem single_run {r : Except ε α} (h : operation 1 s = (⟨t, r⟩, s')) :
    single.run account operation s = (⟨t, r⟩, s') := by
  refine (runFrom_stop h (.inl rfl)).trans ?_
  cases r <;> rfl

/-- The account of a fault that ends a run under the policy for conflicts. -/
def ending (depth : Nat) (account : Fault.Account ε) (e : ε) : ε :=
  match (account.fault e).isConflict depth with
  | .ok _ => e
  | .error f => account.withFault e f

/-- A first attempt that has a value is the whole run. -/
theorem conflict_run_ok {a : α} (h : operation 1 s = (⟨t, .ok a⟩, s')) :
    (conflict depth).run account operation s = (⟨t, .ok a⟩, s') :=
  runFrom_stop h (.inr nofun)

/-- So is one that fails otherwise than by a conflict. -/
theorem conflict_run_stop (h : operation 1 s = (⟨t, .error e⟩, s'))
    (hc : (account.fault e).isConflict depth ≠ .ok true) :
    (conflict depth).run account operation s = (⟨t, .error (ending depth account e)⟩, s') := by
  refine runFrom_stop h (.inr fun _ he => ?_)
  cases he
  exact hc

/-- After a conflict there is a second attempt, with whose end the run ends. -/
theorem conflict_run_again {r : Except ε α} (h : operation 1 s = (⟨t, .error e⟩, s'))
    (hc : (account.fault e).isConflict depth = .ok true) (h' : operation 2 s' = (⟨u, r⟩, s'')) :
    (conflict depth).run account operation s =
      (⟨t ++ .log (retrying (account.fault e)) :: u, r.mapError (ending depth account)⟩, s'') :=
  runFrom_again h hc (runFrom_stop h' (.inl rfl))

end RetryPolicy
end StatefulRoles
