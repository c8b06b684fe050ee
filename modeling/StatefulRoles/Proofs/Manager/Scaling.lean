import StatefulRoles.Proofs.Json.Depth
import StatefulRoles.Proofs.Manager.Reporting
import StatefulRoles.Proofs.Retry
/-!
# Scaling

Scaling replaces the caller's copy of a stateful set and, if that copy turns out to be stale, once
more the copy that is there now.

Results:
* `Scaling.once`, `Scaling.unread`, `Scaling.twice`: the three ways in which the calls may go.
* `attempts_cases`: what both attempts do, whatever the host answers: the calls, their order and
  what is in them, and how the last one ends.
* `scale_run`: what scaling does, with the client that it comes by. The fault of the last call is
  the fault of the whole unless its body goes too deep; `scale_deepBody` is a run where it does.
-/
namespace StatefulRoles.Manager

open Act Session

variable {ω : Type} {p : Platform ω} {client : Client} {replicas : Int} {s : StatefulSet}
  {σ σ' : Session ω} {world : ω}

/-! ## One attempt -/

/-- The call that replaces a stateful set by itself with another number of replicas. -/
def rescaleCall (replicas : Int) (s : StatefulSet) : Call :=
  .replace ⟨s.metadata.ns, s.metadata.name⟩
    { s with spec := { s.spec with replicas := some replicas } }

/-- What is logged before a stateful set is read again. -/
def refetching (id : Identity) : Log :=
  .info s!"[K8S:MANAGER] Conflict updating statefulset {id.title}, refetching"

theorem rescale_ok {updated : Option StatefulSet}
    (h : p.host.answer (rescaleCall replicas s) σ.world = (.ok updated, world)) :
    rescale p client replicas s σ =
      (⟨[.call client (rescaleCall replicas s), .log (replacedLog s.identity)], .ok updated⟩,
        { σ with world }) :=
  mapFault_eq (replace_ok client h)

theorem rescale_error {f : Fault}
    (h : p.host.answer (rescaleCall replicas s) σ.world = (.error f, world)) :
    rescale p client replicas s σ =
      (⟨[.call client (rescaleCall replicas s)], .error ⟨.update, f⟩⟩, { σ with world }) :=
  mapFault_eq (replace_error client h)

/-- A stateful set that cannot be read again is not replaced. -/
theorem rescaleCurrent_unread {id : Identity} {f : Fault}
    (h : p.host.answer (.read id) σ.world = (.error f, world)) :
    rescaleCurrent p client replicas id σ =
      (⟨[.log (refetching id), .call client (.read id)], .error ⟨.retrieve, f⟩⟩,
        { σ with world }) :=
  bind_ok (emit_eq _) (bind_error (mapFault_eq (send_eq client h)))

/-- One that can be read is replaced as it was read. -/
theorem rescaleCurrent_read {id : Identity} {current : StatefulSet} {t : List Effect}
    {r : Except StepFault (Option StatefulSet)}
    (h : p.host.answer (.read id) σ.world = (.ok (some current), world))
    (h' : rescale p client replicas current { σ with world } = (⟨t, r⟩, σ')) :
    rescaleCurrent p client replicas id σ =
      (⟨.log (refetching id) :: .call client (.read id) :: t, r⟩, σ') :=
  bind_ok (emit_eq _) (bind_ok (mapFault_eq (send_eq client h)) h')

/-! ## Both attempts -/

/-- The attempts by number. -/
def attempts (p : Platform ω) (client : Client) (replicas : Int) (s : StatefulSet) (number : Nat) :
    Run ω StepFault (Option StatefulSet) :=
  if number = 1 then rescale p client replicas s
  else rescaleCurrent p client replicas s.identity

/-- A step's fault, once it has been asked whether it is a conflict. -/
def StepFault.raised (depth : Nat) (e : StepFault) : StepFault :=
  { e with fault := e.fault.raised depth }

theorem ending_eq (depth : Nat) (e : StepFault) :
    RetryPolicy.ending depth StepFault.account e = StepFault.raised depth e := by
  have hfault : StepFault.account.fault e = e.fault := rfl
  unfold RetryPolicy.ending StepFault.raised Fault.raised
  rw [hfault]
  cases e.fault.isConflict depth <;> rfl

theorem attempts_ok {updated : Option StatefulSet}
    (h : p.host.answer (rescaleCall replicas s) σ.world = (.ok updated, world)) :
    (RetryPolicy.conflict p.host.depth).run StepFault.account (attempts p client replicas s) σ =
      (⟨[.call client (rescaleCall replicas s), .log (replacedLog s.identity)], .ok updated⟩,
        { σ with world }) :=
  RetryPolicy.conflict_run_ok (rescale_ok h)

theorem attempts_stop {f : Fault} (hc : f.isConflict p.host.depth ≠ .ok true)
    (h : p.host.answer (rescaleCall replicas s) σ.world = (.error f, world)) :
    (RetryPolicy.conflict p.host.depth).run StepFault.account (attempts p client replicas s) σ =
      (⟨[.call client (rescaleCall replicas s)], .error ⟨.update, f.raised p.host.depth⟩⟩,
        { σ with world }) := by
  have hrun : attempts p client replicas s 1 σ = _ := rescale_error h
  rw [RetryPolicy.conflict_run_stop hrun hc, ending_eq]
  rfl

theorem attempts_again {f : Fault} {t : List Effect} {r : Except StepFault (Option StatefulSet)}
    (hc : f.isConflict p.host.depth = .ok true)
    (h : p.host.answer (rescaleCall replicas s) σ.world = (.error f, world))
    (h' : rescaleCurrent p client replicas s.identity { σ with world } = (⟨t, r⟩, σ')) :
    (RetryPolicy.conflict p.host.depth).run StepFault.account (attempts p client replicas s) σ =
      (⟨.call client (rescaleCall replicas s) :: .log (RetryPolicy.retrying f) :: t,
        r.mapError (StepFault.raised p.host.depth)⟩, σ') := by
  have hrun : attempts p client replicas s 1 σ = _ := rescale_error h
  have hrun' : attempts p client replicas s 2 { σ with world } = _ := h'
  rw [RetryPolicy.conflict_run_again hrun hc hrun', funext (ending_eq p.host.depth)]
  rfl

/-- The calls that scaling may make: it replaces the copy it is given and, after a conflict, reads
the stateful set again and replaces it as it was read. -/
structure Scaling (depth : Nat) (replicas : Int) (s : StatefulSet) (calls : List Call)
    (replies : List (Except Fault (Option StatefulSet))) : Prop where
  sequence : calls = [rescaleCall replicas s] ∨
    calls = [rescaleCall replicas s, .read ⟨s.metadata.ns, s.metadata.name⟩] ∨
    ∃ current, replies[1]? = some (.ok (some current)) ∧
      calls = [rescaleCall replicas s, .read ⟨s.metadata.ns, s.metadata.name⟩,
        rescaleCall replicas current]
  refetched : 1 < calls.length ↔
    ∃ f, replies[0]? = some (.error f) ∧ f.isConflict depth = .ok true
  replaced : 2 < calls.length ↔ 1 < calls.length ∧ ∃ answer, replies[1]? = some (.ok answer)

namespace Scaling

variable {depth : Nat} {replies : List (Except Fault (Option StatefulSet))} {f g : Fault}
  {current : StatefulSet}

/-- Without a conflict there is one call. -/
theorem once (h : ∀ f, replies[0]? = some (.error f) → f.isConflict depth ≠ .ok true) :
    Scaling depth replicas s [rescaleCall replicas s] replies := by
  refine ⟨.inl rfl, ?_, by simp⟩
  constructor
  · intro hlt
    simp at hlt
  · rintro ⟨f, hf, hc⟩
    exact absurd hc (h f hf)

/-- After a conflict nothing is replaced that cannot be read. -/
theorem unread (h : replies[0]? = some (.error f)) (hc : f.isConflict depth = .ok true)
    (h' : replies[1]? = some (.error g)) :
    Scaling depth replicas s [rescaleCall replicas s, .read s.identity] replies := by
  refine ⟨.inr (.inl rfl), ?_, ?_⟩
  · exact iff_of_true (by simp) ⟨f, h, hc⟩
  · simp [h']

/-- After a conflict what can be read is replaced. -/
theorem twice (h : replies[0]? = some (.error f)) (hc : f.isConflict depth = .ok true)
    (h' : replies[1]? = some (.ok (some current))) : Scaling depth replicas s
      [rescaleCall replicas s, .read s.identity, rescaleCall replicas current] replies := by
  refine ⟨.inr (.inr ⟨current, h', rfl⟩), ?_, ?_⟩
  · exact iff_of_true (by simp) ⟨f, h, hc⟩
  · exact iff_of_true (by simp) ⟨by simp, _, h'⟩

end Scaling

/-- The step of the last call. -/
def lastStep (calls : List Call) : Step :=
  match calls.getLast? with
  | some (.read _) => .retrieve
  | _ => .update

/-- How the attempts end: as the last call is answered. -/
def ended (depth : Nat) (calls : List Call) (last : Except Fault (Option StatefulSet)) :
    Except StepFault (Option StatefulSet) :=
  last.mapError fun f => ⟨lastStep calls, f.raised depth⟩

/-- What both attempts do, whatever the host answers. -/
theorem attempts_cases (p : Platform ω) (client : Client) (replicas : Int) (s : StatefulSet)
    (σ : Session ω) (hread : ∀ world, (p.host.answer (.read s.identity) world).1 ≠ .ok none) :
    ∃ t calls last σ', (RetryPolicy.conflict p.host.depth).run StepFault.account
        (attempts p client replicas s) σ = (⟨t, ended p.host.depth calls last⟩, σ') ∧
      Scaling p.host.depth replicas s calls (p.host.replies calls σ.world) ∧
      (p.host.replies calls σ.world).getLast? = some last ∧
      t.filterMap Effect.call? = calls.map (client, ·) ∧ errorLines t = [] := by
  rcases h₁ : p.host.answer (rescaleCall replicas s) σ.world with ⟨answer, world⟩
  have hone : p.host.replies [rescaleCall replicas s] σ.world = [answer] := by
    simp only [Host.replies, h₁]
  cases answer with
  | ok updated =>
    refine ⟨_, [rescaleCall replicas s], .ok updated, _, attempts_ok h₁, ?_, ?_, rfl, rfl⟩
    · rw [hone]
      exact Scaling.once (by rintro _ ⟨⟩)
    · rw [hone]
      rfl
  | error f =>
    by_cases hc : f.isConflict p.host.depth = .ok true
    · rcases h₂ : p.host.answer (.read s.identity) world with ⟨answer, world'⟩
      cases answer with
      | error g =>
        have htwo : p.host.replies [rescaleCall replicas s, .read s.identity] σ.world =
            [.error f, .error g] := by
          simp only [Host.replies, h₁, h₂]
        refine ⟨_, [rescaleCall replicas s, .read s.identity], .error g, _,
          attempts_again hc h₁ (rescaleCurrent_unread h₂), ?_, ?_, rfl, rfl⟩
        · rw [htwo]
          exact Scaling.unread rfl hc rfl
        · rw [htwo]
          rfl
      | ok answer =>
        obtain ⟨current, rfl⟩ : ∃ current, answer = some current := by
          cases answer with
          | none => exact absurd (congrArg Prod.fst h₂) (hread world)
          | some current => exact ⟨current, rfl⟩
        rcases h₃ : p.host.answer (rescaleCall replicas current) world' with ⟨answer, world''⟩
        have hthree : p.host.replies
            [rescaleCall replicas s, .read s.identity, rescaleCall replicas current] σ.world =
            [.error f, .ok (some current), answer] := by
          simp only [Host.replies, h₁, h₂, h₃]
        have hscaling : Scaling p.host.depth replicas s
            [rescaleCall replicas s, .read s.identity, rescaleCall replicas current]
            [.error f, .ok (some current), answer] := Scaling.twice rfl hc rfl
        rw [← hthree] at hscaling
        have hlast := congrArg List.getLast? hthree
        cases answer with
        | ok updated =>
          exact ⟨_, _, .ok updated, _,
            attempts_again hc h₁ (rescaleCurrent_read h₂ (rescale_ok h₃)), hscaling, hlast, rfl,
            rfl⟩
        | error g =>
          exact ⟨_, _, .error g, _,
            attempts_again hc h₁ (rescaleCurrent_read h₂ (rescale_error h₃)), hscaling, hlast, rfl,
            rfl⟩
    · refine ⟨_, [rescaleCall replicas s], .error f, _, attempts_stop hc h₁, ?_, ?_, rfl, rfl⟩
      · rw [hone]
        exact Scaling.once (by rintro _ ⟨⟩; exact hc)
      · rw [hone]
        rfl

/-! ## The whole -/

/-- How scaling ends, and what is logged about it as an error: as its last call is answered, and an
API error is reported with the step that failed and the object. A fault of which it cannot be told
whether it is a conflict is replaced by another one, and nothing is reported. -/
inductive Ended (depth : Nat) (cluster : Cluster) (step object : String) :
    Except Fault (Option StatefulSet) → Except Fault (Option StatefulSet) → List Log → Prop where
  | answered (answer : Option StatefulSet) :
      Ended depth cluster step object (.ok answer) (.ok answer) []
  | reported {e : ApiError}
      (readable : ∀ container, ¬(Fault.api e).Unreadable depth container) :
      Ended depth cluster step object (.error (.api e)) (.error (.api e))
        [⟨.error, s!"[{cluster.ns}/{cluster.name}] failed to {step} statefulset {object}: {e.message}"⟩]
  | unreported {f : Fault} (other : ∀ e, f ≠ .api e) :
      Ended depth cluster step object (.error f) (.error f) []
  | unreadable {f : Fault} {container : Json.Container}
      (deep : f.Unreadable depth container) :
      Ended depth cluster step object (.error f) (.error (.deepBody container)) []

/-- It ends with the fault of the last call, once that has been asked whether it is a conflict. -/
theorem Ended.of_raised (depth : Nat) (cluster : Cluster) (step object : String)
    (last : Except Fault (Option StatefulSet)) :
    Ended depth cluster step object last (last.mapError (Fault.raised depth))
      (match last.mapError (Fault.raised depth) with
        | .error f => errorLines (Manager.reported (failedLine cluster step object f) f)
        | .ok _ => []) := by
  cases last with
  | ok answer => exact .answered answer
  | error f =>
    show Ended _ _ _ _ (.error f) (.error (f.raised depth)) (errorLines _)
    by_cases h : ∃ container, f.Unreadable depth container
    · obtain ⟨container, hdeep⟩ := h
      rw [Fault.raised_of_unreadable hdeep]
      exact .unreadable hdeep
    · have hreadable := not_exists.mp h
      rw [Fault.raised_of_readable hreadable]
      cases f with
      | api e => exact .reported hreadable
      | _ => exact .unreported (fun _ h => by cases h)

/-- What scaling does through a client, whatever the host answers. -/
theorem scaleThrough_cases (p : Platform ω) (client : Client) (cluster : Cluster) (replicas : Int)
    (s : StatefulSet) (σ : Session ω)
    (hread : ∀ world, (p.host.answer (.read s.identity) world).1 ≠ .ok none) :
    ∃ t calls last outcome σ',
      scaleThrough p client cluster replicas s σ = (⟨t, outcome⟩, σ') ∧
      Scaling p.host.depth replicas s calls (p.host.replies calls σ.world) ∧
      (p.host.replies calls σ.world).getLast? = some last ∧
      t.filterMap Effect.call? = calls.map (client, ·) ∧
      Ended p.host.depth cluster (lastStep calls).verb s.identity.title last outcome
        (errorLines t) := by
  obtain ⟨t, calls, last, σ', hrun, hscaling, hlast, hcalls, herrors⟩ :=
    attempts_cases p client replicas s σ hread
  have hended := Ended.of_raised p.host.depth cluster (lastStep calls).verb s.identity.title last
  cases last with
  | ok updated =>
    refine ⟨_, calls, .ok updated, _, σ',
      bind_ok (reporting_ok hrun) (bind_ok (emit_eq _) (pure_eq updated)), hscaling, hlast, ?_, ?_⟩
    · rw [List.filterMap_append, hcalls]
      exact List.append_nil _
    · rw [errorLines_append, herrors]
      exact hended
  | error f =>
    refine ⟨_, calls, .error f, _, σ',
      bind_error (reporting_error hrun (failed_eq p cluster s.identity.title _)), hscaling, hlast,
      ?_, ?_⟩
    · rw [List.filterMap_append, hcalls, reported_calls, List.append_nil]
    · rw [errorLines_append, herrors, List.nil_append]
      exact hended

theorem scale_ok {ε : Type} {σ'' : Session ω} {cluster : Cluster} {t u : List Effect}
    {outcome : Except Fault (Option StatefulSet)}
    (h : Session.client p.host σ = (⟨t, .ok client⟩, σ'))
    (h' : scaleThrough p client cluster replicas s σ' = (⟨u, outcome⟩, σ'')) :
    (scale p cluster replicas s σ : Traced Effect ε Scaled × Session ω) =
      (⟨t ++ u, .ok ⟨s.withReplicas replicas, outcome⟩⟩, σ'') := by
  unfold scale
  rw [← List.append_nil u]
  exact attempt_bind h (attempt_bind h' rfl)

theorem scale_error {ε : Type} {cluster : Cluster} {t : List Effect} {f : Fault}
    (h : Session.client p.host σ = (⟨t, .error f⟩, σ')) :
    (scale p cluster replicas s σ : Traced Effect ε Scaled × Session ω) =
      (⟨t, .ok ⟨s, .error f⟩⟩, σ') := by
  unfold scale
  rw [← List.append_nil t]
  exact attempt_bind h rfl

/-- **Scaling.** Without a client there are no calls. With one, the stateful set is replaced, read
again after a conflict, and replaced as it was read if it can be read; the whole ends as the last
call does and reports an API error that it ends with. Only where the body of the last fault goes
too deep to tell whether it is a conflict, another fault takes its place and is not reported. -/
theorem scale_run {ε : Type} (p : Platform ω) (cluster : Cluster) (replicas : Int) (s : StatefulSet)
    (session : Session ω)
    (hread : ∀ world,
      (p.host.answer (.read ⟨s.metadata.ns, s.metadata.name⟩) world).1 ≠ .ok none) :
    let run : Traced Effect ε Scaled := (scale p cluster replicas s session).1
    match Session.client p.host session with
    | (⟨_, .error f⟩, _) => run.calls = [] ∧ run.result = .ok ⟨s, .error f⟩
    | (⟨_, .ok client⟩, ready) =>
      ∃ calls last outcome, run.calls = calls.map (client, ·) ∧
        Scaling p.host.depth replicas s calls (p.host.replies calls ready.world) ∧
        (p.host.replies calls ready.world).getLast? = some last ∧
        run.result = .ok ⟨{ s with spec := { s.spec with replicas := some replicas } }, outcome⟩ ∧
        let step := match calls.getLast? with
          | some (.read _) => "retrieve"
          | _ => "update"
        let object := s.metadata.ns.getD "None" ++ "/" ++ s.metadata.name.getD "None"
        Ended p.host.depth cluster step object last outcome (errorLines run.trace) := by
  intro run
  rcases client_cases p.host session with
    ⟨t, client, ready, hclient, hquiet⟩ | ⟨t, f, ready, hclient, hquiet⟩
  · obtain ⟨u, calls, last, outcome, σ', hrun, hscaling, hlast, hcalls, hended⟩ :=
      scaleThrough_cases p client cluster replicas s ready hread
    have hscale : run = ⟨t ++ u, .ok ⟨s.withReplicas replicas, outcome⟩⟩ :=
      congrArg Prod.fst (scale_ok hclient hrun)
    have hstep : (lastStep calls).verb = match calls.getLast? with
        | some (.read _) => "retrieve"
        | _ => "update" := by
      unfold lastStep
      split <;> rfl
    rw [hclient, hscale]
    refine ⟨calls, last, outcome, ?_, hscaling, hlast, rfl, ?_⟩
    · show (t ++ u).filterMap Effect.call? = _
      rw [List.filterMap_append, hquiet.calls, hcalls, List.nil_append]
    · rw [errorLines_append, hquiet.errors, List.nil_append, ← hstep]
      exact hended
  · have hscale : run = ⟨t, .ok ⟨s, .error f⟩⟩ :=
      congrArg Prod.fst (scale_error hclient)
    rw [hclient, hscale]
    exact ⟨hquiet, rfl⟩

/-- A host that refuses the first call as a conflict and answers the others. -/
def staleHost : Host Nat where
  answer
    | .replace _ _, 0 => (.error (.api { status := some (.code 409) }), 1)
    | .replace _ body, n + 1 => (.ok (some body), n + 2)
    | .read id, n => (.ok (some { metadata := { name := id.name, ns := id.ns } }), n + 1)
    | _, n => (.ok none, n + 1)
  load _ n := (.ok (), n)
  now _ := ""
  depth := 980

theorem scale_run_staleHost :
    let p : Platform Nat := ⟨staleHost, fun _ _ => .error .noConfiguration, {}⟩
    let cluster : Cluster := { name := "c", ns := "n", uid := "u", spec := { app := "db" } }
    let session : Session Nat := { world := 0, manager := { client := some ⟨0⟩ } }
    let run : Traced Effect Fault Scaled := (scale p cluster 3 {} session).1
    ∃ calls, run.calls = calls.map (⟨0⟩, ·) ∧ calls.length = 3 ∧
      Scaling 980 3 {} calls (staleHost.replies calls 0) := by
  intro p cluster session run
  have hread : ∀ world, (p.host.answer (.read ⟨none, none⟩) world).1 ≠ .ok none := nofun
  obtain ⟨calls, last, outcome, hcalls, hscaling, -⟩ := scale_run p cluster 3 {} session hread
  refine ⟨calls, hcalls, ?_, hscaling⟩
  rcases hscaling.sequence with rfl | rfl | ⟨current, -, rfl⟩
  · exact absurd (hscaling.refetched.mpr ⟨_, rfl, rfl⟩) (by decide)
  · exact absurd (hscaling.replaced.mpr ⟨by decide, _, rfl⟩) (by decide)
  · rfl

/-- A text with more arrays inside each other than most readers can stand. -/
def deepText : String := String.ofList (List.replicate 3000 '[' ++ List.replicate 3000 ']')

/-- An error answer whose body is that text. -/
def deepError : ApiError :=
  { status := some (.code 409), reason := some "AlreadyExists", body := some (.text deepText) }

def deepFault : Fault := .api deepError

/-- A host that gives this answer to every call, and whose reader cannot stand it. -/
def deepHost : Host Unit where
  answer _ _ := (.error deepFault, ())
  load _ _ := (.ok (), ())
  now _ := ""
  depth := 980

theorem deepText_toList : deepText.toList = List.replicate 3000 '[' ++ List.replicate 3000 ']' :=
  String.toList_ofList

theorem deepFault_unreadable {depth : Nat} (h : depth < 3000) :
    deepFault.Unreadable depth .array := by
  refine ⟨deepError, _, rfl, rfl, rfl, ?_⟩
  show Json.parse depth deepText.toList = _
  rw [deepText_toList]
  exact Json.parse_brackets h _

/-- The fault of the last call is not the fault of the whole, and is not reported. -/
theorem scale_deepBody :
    let p : Platform Unit := ⟨deepHost, fun _ _ => .error .noConfiguration, {}⟩
    let cluster : Cluster := { name := "c", ns := "n", uid := "u", spec := { app := "db" } }
    let session : Session Unit := { world := (), manager := { client := some ⟨0⟩ } }
    let run : Traced Effect Fault Scaled := (scale p cluster 3 {} session).1
    run.calls = [(⟨0⟩, rescaleCall 3 {})] ∧
      deepHost.replies [rescaleCall 3 {}] () = [.error deepFault] ∧
      run.result = .ok ⟨{ spec := { replicas := some 3 } }, .error (.deepBody .array)⟩ ∧
      .deepBody .array ≠ deepFault ∧ errorLines run.trace = [] := by
  intro p cluster session run
  have hdeep : deepFault.Unreadable p.host.depth .array := deepFault_unreadable (by decide)
  have hconflict : deepFault.isConflict p.host.depth ≠ .ok true := by
    rw [Fault.isConflict_eq_error.mpr ⟨_, hdeep, rfl⟩]
    rintro ⟨⟩
  have hraised : deepFault.raised p.host.depth = .deepBody .array :=
    Fault.raised_of_unreadable hdeep
  have hrun : run = _ := congrArg Prod.fst (scale_ok rfl (bind_error
    (reporting_error (attempts_stop hconflict rfl) (failed_eq p cluster _ _))))
  have hother : Fault.deepBody .array ≠ deepFault := by rintro ⟨⟩
  rw [hrun, hraised]
  exact ⟨rfl, rfl, rfl, hother, rfl⟩

end StatefulRoles.Manager
