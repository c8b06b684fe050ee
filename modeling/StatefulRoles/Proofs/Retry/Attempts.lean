import StatefulRoles.Proofs.Manager.Scaling
/-!
# How often an operation is tried

Attempts are set in a row first, as if nothing ever stopped them (`inARow`). A run under a policy
makes the beginning of that row: up to the first attempt that is not worth another one, but no more
than the policy allows, and one at least. With a warning behind each attempt but the last, they are
all that the run does.

Results:
* `exists_made`: a run makes a beginning of the row, of which only the last attempt may be final.
* `length_made`: how long that beginning is.
* `run_attempts`: both, under every policy; and what they come to under the two policies in use.
* `conflict_run_deepBody`: a run that does not raise the fault of its only attempt.
-/
namespace StatefulRoles.RetryPolicy

open Act

variable {σ ε α : Type} {account : Fault.Account ε} {operation : Nat → Act σ Effect ε α}
  {retryable : Fault → Except Fault Bool} {s s' : σ}

/-- So many attempts in a row, numbered from one on, however each of them ends: what they do, and
the state behind them. -/
def inARow (operation : Nat → Act σ Effect ε α) : Nat → Nat → σ → List (Traced Effect ε α) × σ
  | 0, _, s => ([], s)
  | n + 1, number, s =>
    let (first, s') := operation number s
    let (rest, s'') := inARow operation n (number + 1) s'
    (first :: rest, s'')

/-- The attempt failed, and its fault is worth another one. -/
def isRetryable (retryable : Fault → Except Fault Bool) (account : Fault.Account ε)
    (x : Traced Effect ε α) : Bool :=
  match x.result with
  | .ok _ => false
  | .error e =>
    match retryable (account.fault e) with
    | .ok again => again
    | .error _ => false

/-- An attempt behind which another one follows, with the warning of it. -/
def retried (account : Fault.Account ε) (x : Traced Effect ε α) : List Effect :=
  match x.result with
  | .ok _ => x.trace
  | .error e =>
    let f := account.fault e
    x.trace ++
      [.log ⟨.warning, s!"Retrying <unknown> in 0 seconds as it raised {f.kindName}: {f.message}."⟩]

theorem isRetryable_iff {x : Traced Effect ε α} : isRetryable retryable account x = true ↔
    ∃ e, x.result = .error e ∧ retryable (account.fault e) = .ok true := by
  unfold isRetryable
  cases x.result with
  | ok a => simp
  | error e => cases h : retryable (account.fault e) <;> simp [h]

theorem inARow_succ (n number : Nat) (s : σ) : inARow operation (n + 1) number s =
    ((operation number s).1 :: (inARow operation n (number + 1) (operation number s).2).1,
      (inARow operation n (number + 1) (operation number s).2).2) := rfl

/-- A longer row begins with the shorter one. -/
theorem inARow_prefix (operation : Nat → Act σ Effect ε α) {k n : Nat} (h : k ≤ n)
    (number : Nat) (s : σ) :
    (inARow operation k number s).1 <+: (inARow operation n number s).1 := by
  induction k generalizing n number s with
  | zero => exact List.nil_prefix
  | succ k ih =>
    obtain ⟨n, rfl⟩ : ∃ m, n = m + 1 := ⟨n - 1, by omega⟩
    rw [inARow_succ, inARow_succ, List.cons_prefix_cons]
    exact ⟨rfl, ih (by omega) _ _⟩

/-- The beginning of the row that a run makes: some attempts that are worth another one, and the
last. -/
structure Made (retryable : Fault → Except Fault Bool) (account : Fault.Account ε)
    (operation : Nat → Act σ Effect ε α) (more number : Nat) (s : σ)
    (before : List (Traced Effect ε α)) (last : Traced Effect ε α) (s' : σ) : Prop where
  row : inARow operation (before.length + 1) number s = (before ++ [last], s')
  again : ∀ x ∈ before, isRetryable retryable account x = true
  allowed : before.length ≤ more
  stopped : before.length < more → isRetryable retryable account last = false
  run : runFrom retryable account operation more number s =
    (⟨before.flatMap (retried account) ++ last.trace,
      last.result.mapError (final retryable account)⟩, s')

/-- A run makes a beginning of the row, of which only the last attempt may be final. -/
theorem exists_made (retryable : Fault → Except Fault Bool) (account : Fault.Account ε)
    (operation : Nat → Act σ Effect ε α) (more number : Nat) (s : σ) :
    ∃ before last s', Made retryable account operation more number s before last s' := by
  induction more generalizing number s with
  | zero =>
    obtain ⟨⟨⟨t, r⟩, s'⟩, hfirst⟩ : ∃ x, operation number s = x := ⟨_, rfl⟩
    refine ⟨[], ⟨t, r⟩, s', ?_, nofun, Nat.le_refl 0, nofun, runFrom_stop hfirst (.inl rfl)⟩
    rw [List.length_nil, inARow_succ, hfirst]
    rfl
  | succ more ih =>
    obtain ⟨⟨x, s'⟩, hfirst⟩ : ∃ x, operation number s = x := ⟨_, rfl⟩
    by_cases hagain : isRetryable retryable account x = true
    · obtain ⟨e, hresult, hworth⟩ := isRetryable_iff.mp hagain
      obtain ⟨before, last, s'', h⟩ := ih (number + 1) s'
      have hfailed : operation number s = (⟨x.trace, .error e⟩, s') := by
        rw [hfirst, ← hresult]
      refine ⟨x :: before, last, s'', ?_, ?_, ?_, ?_, ?_⟩
      · rw [List.length_cons, inARow_succ, hfirst, h.row]
        rfl
      · exact List.forall_mem_cons.mpr ⟨hagain, h.again⟩
      · exact Nat.succ_le_succ h.allowed
      · exact fun hlt => h.stopped (Nat.lt_of_succ_lt_succ hlt)
      · rw [runFrom_again hfailed hworth h.run, List.flatMap_cons, retried, hresult]
        simp only [List.append_assoc, List.singleton_append]
        rfl
    · have hfinal : ∀ e, x.result = .error e → retryable (account.fault e) ≠ .ok true :=
        fun e hresult hworth => hagain (isRetryable_iff.mpr ⟨e, hresult, hworth⟩)
      refine ⟨[], x, s', ?_, nofun, Nat.zero_le _, fun _ => Bool.eq_false_iff.mpr hagain,
        runFrom_stop hfirst (.inr hfinal)⟩
      rw [List.length_nil, inARow_succ, hfirst]
      rfl

/-- In a row that is long enough, the attempts made are counted by those in front that are worth
another one, up to what is allowed. -/
theorem length_made {more number n : Nat} {before : List (Traced Effect ε α)}
    {last : Traced Effect ε α} (h : Made retryable account operation more number s before last s')
    (hn : more < n) : before.length + 1 = min (more + 1)
      (1 + ((inARow operation n number s).1.takeWhile (isRetryable retryable account)).length) := by
  have hle := h.allowed
  obtain ⟨rest, hrest⟩ : before ++ [last] <+: (inARow operation n number s).1 := by
    have hprefix := inARow_prefix operation (show before.length + 1 ≤ n by omega) number s
    rwa [h.row] at hprefix
  have hleading :
      (inARow operation n number s).1.takeWhile (isRetryable retryable account) =
        before ++ ([last] ++ rest).takeWhile (isRetryable retryable account) := by
    rw [← hrest, List.append_assoc, List.takeWhile_append_of_pos h.again]
  rw [hleading, List.length_append]
  by_cases hlast : before.length < more
  · rw [List.singleton_append, List.takeWhile_cons_of_neg (by simp [h.stopped hlast])]
    simp only [List.length_nil]
    omega
  · omega

/-- What a run under a policy comes to: the attempts before the last one that it makes, the last
one, and the state that it leaves, at which the next attempt would have begun. -/
structure Ran (policy : RetryPolicy) (account : Fault.Account ε)
    (operation : Nat → Act σ Effect ε α) (s : σ) (before : List (Traced Effect ε α))
    (last : Traced Effect ε α) (s' : σ) : Prop where
  row : inARow operation (before.length + 1) 1 s = (before ++ [last], s')
  again : ∀ x ∈ before, isRetryable policy.retryable account x = true
  state : (policy.run account operation s).2 = s'
  trace : (policy.run account operation s).1.trace = before.flatMap (retried account) ++ last.trace
  value : ∀ a, last.result = .ok a → (policy.run account operation s).1.result = .ok a
  fault : ∀ e again, last.result = .error e → policy.retryable (account.fault e) = .ok again →
    (policy.run account operation s).1.result = .error e
  /-- a fault that leaves open whether it is worth another attempt is replaced -/
  unanswered : ∀ e f, last.result = .error e → policy.retryable (account.fault e) = .error f →
    (policy.run account operation s).1.result = .error (account.withFault e f)

theorem Made.ran {policy : RetryPolicy} {before : List (Traced Effect ε α)}
    {last : Traced Effect ε α}
    (h : Made policy.retryable account operation (policy.attempts - 1).toNat 1 s before last s') :
    Ran policy account operation s before last s' := by
  have hrun : policy.run account operation s = _ := h.run
  refine ⟨h.row, h.again, ?_, ?_, ?_, ?_, ?_⟩
  · rw [hrun]
  · rw [hrun]
  · intro a ha
    rw [hrun, ha]
    rfl
  · intro e again he hanswered
    rw [hrun, he]
    exact congrArg Except.error (final_of_ok hanswered)
  · intro e f he hopen
    rw [hrun, he]
    exact congrArg Except.error (final_of_error hopen)

/-- **How often an operation is tried.** Under every policy a run makes as many attempts as there
are in front that are worth another one, and one more, but no more than it is allowed, and one at
least; it has the value of the last of them, or raises its fault. So after a conflict there is one
more attempt under the policy for conflicts, and never two; under the other policy there is one. -/
theorem run_attempts (account : Fault.Account ε) (operation : Nat → Act σ Effect ε α) (s : σ) :
    (∀ (policy : RetryPolicy) (n : Nat), max 1 policy.attempts ≤ n →
      let row := (inARow operation n 1 s).1
      let leading := (row.takeWhile (isRetryable policy.retryable account)).length
      ∃ before last s', Ran policy account operation s before last s' ∧
        (before.length + 1 : Int) = min (max 1 policy.attempts) (1 + leading)) ∧
    (∀ depth, ∃ before last s', Ran (conflict depth) account operation s before last s' ∧
      before.length ≤ 1 ∧
      (before.length = 1 ↔ ∃ e, (operation 1 s).1.result = .error e ∧
        (account.fault e).isConflict depth = .ok true)) ∧
    ∃ last s', Ran single account operation s [] last s' := by
  refine ⟨fun policy n hn => ?_, fun depth => ?_, ?_⟩
  · obtain ⟨before, last, s', h⟩ :=
      exists_made policy.retryable account operation (policy.attempts - 1).toNat 1 s
    have hcount := length_made (n := n) h (by omega)
    refine ⟨before, last, s', h.ran, ?_⟩
    omega
  · obtain ⟨before, last, s', h⟩ :=
      exists_made (conflict depth).retryable account operation 1 1 s
    have hran : Ran (conflict depth) account operation s before last s' := h.ran
    refine ⟨before, last, s', hran, h.allowed, ?_⟩
    have hcount := length_made (n := 2) h (by decide)
    rw [inARow_succ, List.takeWhile_cons] at hcount
    rw [← isRetryable_iff]
    split at hcount
    · rename_i hfirst
      rw [List.length_cons] at hcount
      exact iff_of_true (by omega) hfirst
    · rename_i hfirst
      rw [List.length_nil] at hcount
      exact iff_of_false (by omega) hfirst
  · obtain ⟨before, last, s', h⟩ := exists_made single.retryable account operation 0 1 s
    obtain rfl : before = [] := List.eq_nil_of_length_eq_zero (Nat.le_zero.mp h.allowed)
    exact ⟨last, s', h.ran⟩

/-- An operation whose attempts end as it is laid down for them and do nothing else. -/
def scripted (_ : Nat) : Act (List (Except Fault Nat)) Effect Fault Nat
  | [] => (.ofExcept (.error .noConfiguration), [])
  | outcome :: outcomes => (.ofExcept outcome, outcomes)

/-- Two attempts are allowed, and both fail by a conflict. -/
theorem run_attempts_conflicts :
    let policy := conflict 980
    let stale : Except Fault Nat := .error (.api { status := some (.code 409) })
    let row := (inARow scripted 3 1 [stale, stale, .ok 7]).1
    max 1 policy.attempts ≤ (3 : Nat) ∧
      ∃ before last s', Ran policy Fault.plain scripted [stale, stale, .ok 7] before last s' ∧
        (before.length + 1 : Int) = min (max 1 policy.attempts)
          (1 + (row.takeWhile (isRetryable policy.retryable Fault.plain)).length) ∧
        before.length = 1 ∧ s' = [.ok 7] := by
  intro policy stale row
  have hlong : max 1 policy.attempts ≤ (3 : Nat) := by decide
  obtain ⟨before, last, s', hran, hcount⟩ :=
    (run_attempts Fault.plain scripted [stale, stale, .ok 7]).1 policy 3 hlong
  have hleading : (row.takeWhile (isRetryable policy.retryable Fault.plain)).length = 2 := rfl
  have hallowed : max 1 policy.attempts = 2 := rfl
  have hlength : before.length = 1 := by
    rw [hallowed, hleading] at hcount
    omega
  refine ⟨hlong, before, last, s', hran, hcount, hlength, ?_⟩
  have hrow := hran.row
  rw [hlength] at hrow
  exact (congrArg Prod.snd hrow).symm

/-- The fault of the only attempt is not the fault of the run. -/
theorem conflict_run_deepBody :
    let outcomes : List (Except Fault Nat) := [.error Manager.deepFault, .ok 7]
    inARow scripted 1 1 outcomes = ([⟨[], .error Manager.deepFault⟩], [.ok 7]) ∧
      (conflict 980).run Fault.plain scripted outcomes =
        (⟨[], .error (.deepBody .array)⟩, [.ok 7]) ∧
      Fault.deepBody .array ≠ Manager.deepFault := by
  intro outcomes
  have hdeep : Manager.deepFault.isConflict 980 = .error (.deepBody .array) :=
    Fault.isConflict_eq_error.mpr ⟨_, Manager.deepFault_unreadable (by decide), rfl⟩
  have hfinal : Manager.deepFault.isConflict 980 ≠ .ok true := by
    rw [hdeep]
    rintro ⟨⟩
  have hending : ending 980 Fault.plain Manager.deepFault = .deepBody .array := by
    have hfault : Fault.plain.fault Manager.deepFault = Manager.deepFault := rfl
    rw [ending, hfault, hdeep]
    rfl
  have hrun : (conflict 980).run Fault.plain scripted outcomes = _ := conflict_run_stop rfl hfinal
  rw [hrun, hending]
  exact ⟨rfl, rfl, by rintro ⟨⟩⟩

end StatefulRoles.RetryPolicy
