import StatefulRoles.Proofs.Manager.Creating
/-!
# Operations that are tried once

Creating, bringing back to the owner and deleting are never tried again: each goes through its calls
until one of them fails, and then ends with the fault of that one.

Results:
* `Attempted.of_last`: a run that goes through its calls is known by the last one.
* `create_attempted`, `adopt_attempted`, `delete_attempted`: what each operation does through a
  client, whatever the host answers.
* `single_attempt`: what each of them does in any session.
-/
namespace StatefulRoles

/-! ## Calls and their answers -/

/-- Is the operation to go on with the stateful set in the answer? -/
def Call.yieldsObject : Call → Bool
  | .create _ _ | .read _ => true
  | _ => false

/-- A call and how it was answered. -/
structure Exchange where
  call : Call
  answer : Except Fault (Option StatefulSet)

/-- Calls made one after the other, with the answers of a host. -/
def Host.exchanges {ω : Type} (host : Host ω) : List Call → ω → List Exchange
  | [], _ => []
  | call :: calls, world =>
    ⟨call, (host.answer call world).1⟩ :: exchanges host calls (host.answer call world).2

namespace Exchange

/-- The fault that a call ends with: that of the server, or that a stateful set is missing from the
answer. -/
def failure? : Exchange → Option Fault
  | ⟨_, .error f⟩ => some f
  | ⟨call, .ok answer⟩ =>
    if call.yieldsObject && answer.isNone then some (.noObject "metadata") else none

/-- The report on a call: there is one if it ends with an API error. -/
def alarm? (report : Call → ApiError → Log) (x : Exchange) : Option Log :=
  (x.failure?.bind Fault.api?).map (report x.call)

theorem alarm?_eq_none {report : Call → ApiError → Log} {x : Exchange} (h : x.failure? = none) :
    x.alarm? report = none := by
  rw [alarm?, h]
  rfl

end Exchange

theorem Host.exchanges_one {ω : Type} {host : Host ω} {call : Call} {world world' : ω}
    {answer : Except Fault (Option StatefulSet)} (h : host.answer call world = (answer, world')) :
    host.exchanges [call] world = [] ++ [⟨call, answer⟩] := by
  simp only [exchanges, h, List.nil_append]

/-- Building is quiet, however it ends. -/
theorem Synthesis.build_quiet (catalog : Catalog) (settings : Checked Settings) (cluster : Cluster)
    (role : Role) (status : Option RoleStatus) (replicas : Int) (native : Option Bool) :
    Session.Quiet (build catalog settings cluster role status replicas native).trace := by
  refine ⟨(follows_build catalog settings cluster role status replicas native).calls, ?_⟩
  obtain ⟨skipped, groups, hlogs, hlogged⟩ :=
    build_logs catalog settings cluster role status replicas native
  have hskipped : ∀ line ∈ skipped, line.level = .info := by
    intro line hline
    by_cases hopened : ∀ s ∈ opening role native,
        Stage.failure? catalog settings cluster role s = none
    · obtain ⟨setup, appDirs, -, -, rfl⟩ := hlogged.merged hopened
      obtain ⟨record, -, rfl⟩ := List.mem_map.mp hline
      rfl
    · rw [hlogged.unmerged hopened] at hline
      cases hline
  have hgroups : ∀ line ∈ groups, line.level = .debug := by
    intro line hline
    by_cases hneeded : (∀ s ∈ opening role native,
        Stage.failure? catalog settings cluster role s = none) ∧
        NeedsControlGroups catalog settings cluster native
    · rw [hlogged.needed hneeded.1 hneeded.2, List.mem_singleton] at hline
      rw [hline]
    · rw [hlogged.unneeded hneeded] at hline
      cases hline
  show (Traced.logs _).filter _ = []
  rw [hlogs, List.filter_eq_nil_iff]
  intro line hline
  rcases List.mem_append.mp hline with hline | hline
  · simp [hskipped line hline]
  · simp [hgroups line hline]

namespace Manager

open Act Session
open Synthesis (fault?)

variable {ω α : Type} {p : Platform ω} {client : Client} {cluster : Cluster} {σ σ' ready : Session ω}
  {t u : List Effect}

/-- What a run has done that makes each of its calls once, through a client. It goes through a plan,
in which a stateful set may occur that it reads first; it stops after a call that fails and ends
with the fault of that one, and reports it if it is an API error. -/
structure Attempted (client : Client) (plan : StatefulSet → List Call)
    (report : Call → ApiError → Log) (exchanges : List Exchange) (run : Traced Effect Fault α) :
    Prop where
  sent : run.calls = exchanges.map fun x => (client, x.call)
  planned : ∃ current, exchanges.map (·.call) <+: plan current ∧
    (1 < exchanges.length → exchanges[0]?.map (·.answer) = some (.ok (some current))) ∧
    (fault? run.result = none → exchanges.map (·.call) = plan current)
  stopped : ∀ x ∈ exchanges.dropLast, x.failure? = none
  raised : fault? run.result = exchanges.findSome? Exchange.failure?
  reported : alarms run.trace = exchanges.filterMap (Exchange.alarm? report)

section

variable {plan : StatefulSet → List Call} {report : Call → ApiError → Log}
  {run : Traced Effect Fault α} {x : Exchange} {before : List Exchange}

/-- If no call but the last one can have failed, it is the last one that tells how the run ends. -/
theorem Attempted.of_last (hbefore : ∀ y ∈ before, y.failure? = none)
    (hsent : run.calls = (before ++ [x]).map fun y => (client, y.call))
    (hplanned : ∃ current, (before ++ [x]).map (·.call) <+: plan current ∧
      (before ≠ [] → before[0]?.map (·.answer) = some (.ok (some current))) ∧
      (x.failure? = none → (before ++ [x]).map (·.call) = plan current))
    (hraised : fault? run.result = x.failure?)
    (hreported : alarms run.trace = (x.alarm? report).toList) :
    Attempted client plan report (before ++ [x]) run := by
  obtain ⟨current, hbegins, hread, hdone⟩ := hplanned
  refine ⟨hsent, ⟨current, hbegins, ?_, fun h => hdone (hraised ▸ h)⟩, ?_, ?_, ?_⟩
  · intro hlength
    have hne : before ≠ [] := by
      rintro rfl
      simp at hlength
    rw [List.getElem?_append_left (List.length_pos_of_ne_nil hne)]
    exact hread hne
  · rwa [List.dropLast_concat]
  · have hnone : before.findSome? Exchange.failure? = none := List.findSome?_eq_none_iff.mpr hbefore
    rw [List.findSome?_append, hnone, hraised]
    simp
  · have hnone : before.filterMap (Exchange.alarm? report) = [] :=
      List.filterMap_eq_nil_iff.mpr fun y hy => Exchange.alarm?_eq_none (hbefore y hy)
    rw [List.filterMap_append, hnone, hreported]
    cases h : x.alarm? report <;> simp [h]

/-- What comes quietly before the calls is no matter. -/
theorem Attempted.after {exchanges : List Exchange} {r : Except Fault α} (hu : Quiet u)
    (h : Attempted client plan report exchanges ⟨t, r⟩) :
    Attempted client plan report exchanges ⟨u ++ t, r⟩ := by
  refine ⟨?_, h.planned, h.stopped, h.raised, ?_⟩
  · show (u ++ t).filterMap Effect.call? = _
    rw [List.filterMap_append, hu.calls]
    exact h.sent
  · rw [alarms_append, hu.alarms]
    exact h.reported

end

/-- The alarms that a failed call leaves: its report, if it has one. -/
theorem alarms_reported {call : Call} {report : Call → ApiError → Log} {f : Fault}
    (line : Fault → Log) (hlevel : (line f).level = .warning ∨ (line f).level = .error)
    (hline : ∀ e, line (.api e) = report call e) :
    alarms (reported (line f) f) = (Exchange.alarm? report ⟨call, .error f⟩).toList := by
  cases f with
  | api e =>
    have hkept : alarms [.log (line (.api e))] = [line (.api e)] := by
      simp [alarms, Effect.log?, hlevel]
    exact hkept.trans (congrArg (fun line => [line]) (hline e))
  | _ => rfl

/-! ## Creating -/

theorem uncreated_eq (cluster : Cluster) (object : String) (e : ApiError) :
    failedLine cluster Step.create.verb object (.api e) = ⟨.error,
      s!"[{cluster.ns}/{cluster.name}] failed to create statefulset {object}: {e.message}"⟩ := by
  have hjoined : "] failed to create statefulset " =
      "] failed to " ++ (Step.create.verb ++ " statefulset ") := by decide
  have hmessage : (Fault.api e).message = e.message := rfl
  simp only [failedLine, hmessage, toString, hjoined, String.append_assoc]

theorem create_attempted {role : Role} {status : Option RoleStatus} {native : Option Bool}
    {body : StatefulSet}
    (hbuild : Synthesis.build p.catalog (.ok p.settings) cluster role status 0 native =
      ⟨t, .ok body⟩) (ht : Quiet t)
    (hclient : Session.client p.host σ = (⟨u, .ok client⟩, ready)) (hu : Quiet u) :
    Attempted client (fun _ => [.create cluster.ns body])
      (fun _ e => failedLine cluster Step.create.verb s!"for role {role.id}" (.api e))
      (p.host.exchanges [.create cluster.ns body] ready.world)
      (create p cluster role native (σ, status)).1 := by
  rcases hanswer : p.host.answer (.create cluster.ns body) ready.world with ⟨answer, world⟩
  rw [Host.exchanges_one hanswer, create_eq hbuild hclient hanswer]
  refine .after ht (.after hu (.of_last (List.forall_mem_nil _) ?_ ?_ ?_ ?_))
  · exact congrArg ((client, Call.create cluster.ns body) :: ·)
      (creationLogs_calls cluster role answer)
  · exact ⟨{}, List.prefix_rfl, fun h => absurd rfl h, fun _ => rfl⟩
  · rcases answer with f | (_ | created) <;> rfl
  · rcases answer with f | (_ | created)
    · rw [creationLogs_error]
      exact alarms_reported (failedLine cluster Step.create.verb _) (.inr rfl) fun _ => rfl
    · rfl
    · rfl

/-! ## Bringing back to the owner -/

/-- The call that makes the cluster the one owner of a stateful set. -/
def adoptCall (cluster : Cluster) (current : StatefulSet) : Call :=
  .patch ⟨current.metadata.ns, current.metadata.name⟩
    [.add "/metadata/ownerReferences" (Metadata.owners cluster)]

/-- The report on a failed call that has to do with it. -/
def unadopted (cluster : Cluster) (object : String) (call : Call) (e : ApiError) : Log :=
  let step := match call with
    | .read _ => "retrieve"
    | _ => "patch"
  failedLine cluster step object (.api e)

section

variable {id : Identity} {current : StatefulSet} {f : Fault} {world world' : ω}

theorem adopt_unread (h : p.host.answer (.read id) σ.world = (.error f, world)) :
    adopt p client cluster id σ =
      (⟨[.call client (.read id)], .error ⟨.retrieve, f⟩⟩, { σ with world }) :=
  bind_error (mapFault_eq (send_eq client h))

theorem adopt_missing (h : p.host.answer (.read id) σ.world = (.ok none, world)) :
    adopt p client cluster id σ =
      (⟨[.call client (.read id)], .error ⟨.patch, .noObject "metadata"⟩⟩, { σ with world }) :=
  bind_ok (mapFault_eq (send_eq client h)) (fail_eq _)

theorem adopt_unpatched (h : p.host.answer (.read id) σ.world = (.ok (some current), world))
    (h' : p.host.answer (adoptCall cluster current) world = (.error f, world')) :
    adopt p client cluster id σ =
      (⟨[.call client (.read id), .call client (adoptCall cluster current)], .error ⟨.patch, f⟩⟩,
        { σ with world := world' }) :=
  bind_ok (mapFault_eq (send_eq client h)) (mapFault_eq (patch_error client h'))

theorem adopt_ok {answer : Option StatefulSet}
    (h : p.host.answer (.read id) σ.world = (.ok (some current), world))
    (h' : p.host.answer (adoptCall cluster current) world = (.ok answer, world')) :
    adopt p client cluster id σ =
      (⟨[.call client (.read id), .call client (adoptCall cluster current),
        .log (patchedLog current.identity)], .ok ()⟩, { σ with world := world' }) :=
  bind_ok (mapFault_eq (send_eq client h)) (mapFault_eq (patch_ok client h'))

end

/-- What is logged before a stateful set is brought back. -/
def repairingLog (cluster : Cluster) (id : Identity) : Log :=
  let message := s!"repairing owner ref on statefulset {shown id.name}"
  .info s!"[{cluster.title}] {message}"

/-- What is logged once a stateful set has been brought back, or has not. -/
def repairLogs (cluster : Cluster) (id : Identity) : Except StepFault Unit → List Effect
  | .ok () => []
  | .error e => reported (failedLine cluster e.step.verb id.title e.fault) e.fault

theorem repairLogs_calls (cluster : Cluster) (id : Identity) (r : Except StepFault Unit) :
    (repairLogs cluster id r).filterMap Effect.call? = [] := by
  cases r with
  | ok => rfl
  | error e => exact reported_calls _ _

/-- Nothing is to be done for a role that is gone, and for a stateful set that the cluster owns. -/
def needsNothing (cluster : Cluster) (role : Option Role) (s : StatefulSet) : Bool :=
  role.isNone || Metadata.isOwned cluster s.metadata.ownerReferences

variable {role : Option Role} {s : StatefulSet}

theorem repair_idle (h : needsNothing cluster role s = true) :
    repair p cluster role s σ = (⟨[], .ok ()⟩, σ) := by
  unfold repair
  exact congrFun (if_pos h) σ

/-- The one attempt to bring a stateful set back. -/
def bringBack (p : Platform ω) (client : Client) (cluster : Cluster) (id : Identity) :
    Run ω Fault Unit :=
  reporting StepFault.account (failed p cluster id.title)
    (RetryPolicy.single.run StepFault.account fun _ => adopt p client cluster id)

theorem bringBack_eq {id : Identity} {v : List Effect} {r : Except StepFault Unit}
    (h : adopt p client cluster id σ = (⟨v, r⟩, σ')) :
    bringBack p client cluster id σ =
      (⟨v ++ repairLogs cluster id r, r.mapError StepFault.fault⟩, σ') := by
  cases r with
  | ok =>
    rw [repairLogs, List.append_nil]
    exact reporting_ok (RetryPolicy.single_run h)
  | error e => exact reporting_error (RetryPolicy.single_run h) (failed_eq p cluster id.title e)

/-- A repair that is needed is announced before there is a client. -/
theorem repair_eq {v : List Effect} {r : Except Fault Unit}
    (h : needsNothing cluster role s = false)
    (h' : (Session.client p.host >>= (bringBack p · cluster s.identity)) σ = (⟨v, r⟩, σ')) :
    repair p cluster role s σ =
      (⟨[.log (repairingLog cluster s.identity)] ++ v, r⟩, σ') := by
  unfold repair
  refine (congrFun (if_neg (ne_true_of_eq_false h)) σ).trans ?_
  exact bind_ok (Recorder.info_logOnly p.host p.settings cluster _) h'

/-- The calls that bring a stateful set back, if none fails. -/
def adoption (cluster : Cluster) (id : Identity) (current : StatefulSet) : List Call :=
  [.read id, adoptCall cluster current]

theorem adopt_attempted (p : Platform ω) (client : Client) (cluster : Cluster) (id : Identity)
    (σ : Session ω) :
    ∃ v r σ' calls, adopt p client cluster id σ = (⟨v, r⟩, σ') ∧
      Attempted client (adoption cluster id) (unadopted cluster id.title)
        (p.host.exchanges calls σ.world)
        ⟨v ++ repairLogs cluster id r, r.mapError StepFault.fault⟩ := by
  have hsent {v : List Effect} (r : Except StepFault Unit) :
      (v ++ repairLogs cluster id r).filterMap Effect.call? = v.filterMap Effect.call? := by
    rw [List.filterMap_append, repairLogs_calls, List.append_nil]
  have hunread (f : Fault) :
      alarms (reported (failedLine cluster Step.retrieve.verb id.title f) f) =
        (Exchange.alarm? (unadopted cluster id.title) ⟨.read id, .error f⟩).toList :=
    alarms_reported (failedLine cluster Step.retrieve.verb id.title) (.inr rfl) fun _ => rfl
  have hunpatched (current : StatefulSet) (f : Fault) :
      alarms (reported (failedLine cluster Step.patch.verb id.title f) f) =
        (Exchange.alarm? (unadopted cluster id.title)
          ⟨adoptCall cluster current, .error f⟩).toList :=
    alarms_reported (failedLine cluster Step.patch.verb id.title) (.inr rfl) fun _ => rfl
  have hbegins (current : StatefulSet) : [.read id] <+: adoption cluster id current :=
    List.prefix_append [.read id] [adoptCall cluster current]
  rcases hread : p.host.answer (.read id) σ.world with ⟨answer, world⟩
  have hone := Host.exchanges_one hread
  rcases answer with f | (_ | current)
  · refine ⟨_, _, _, [.read id], adopt_unread hread, ?_⟩
    rw [hone]
    refine .of_last (List.forall_mem_nil _) (hsent _) ?_ rfl (hunread f)
    exact ⟨{}, hbegins {}, fun h => absurd rfl h, nofun⟩
  · refine ⟨_, _, _, [.read id], adopt_missing hread, ?_⟩
    rw [hone]
    refine .of_last (List.forall_mem_nil _) (hsent _) ?_ rfl rfl
    exact ⟨{}, hbegins {}, fun h => absurd rfl h, nofun⟩
  · rcases hpatch : p.host.answer (adoptCall cluster current) world with ⟨answer, world'⟩
    have htwo : p.host.exchanges (adoption cluster id current) σ.world =
        [⟨.read id, .ok (some current)⟩] ++ [⟨adoptCall cluster current, answer⟩] := by
      simp only [adoption, Host.exchanges, hread, hpatch, List.singleton_append]
    cases answer with
    | error f =>
      refine ⟨_, _, _, adoption cluster id current, adopt_unpatched hread hpatch, ?_⟩
      rw [htwo]
      refine .of_last (List.forall_mem_singleton.mpr rfl) (hsent _) ?_ rfl
        (hunpatched current f)
      exact ⟨current, List.prefix_rfl, fun _ => rfl, nofun⟩
    | ok answer =>
      refine ⟨_, _, _, adoption cluster id current, adopt_ok hread hpatch, ?_⟩
      rw [htwo]
      refine .of_last (List.forall_mem_singleton.mpr rfl) (hsent _) ?_ rfl rfl
      exact ⟨current, List.prefix_rfl, fun _ => rfl, fun _ => rfl⟩

theorem repair_attempted (h : needsNothing cluster role s = false)
    (hclient : Session.client p.host σ = (⟨u, .ok client⟩, ready)) (hu : Quiet u) :
    ∃ calls, Attempted client (adoption cluster s.identity) (unadopted cluster s.identity.title)
      (p.host.exchanges calls ready.world) (repair p cluster role s σ).1 := by
  obtain ⟨v, r, σ', calls, hadopt, hattempted⟩ :=
    adopt_attempted p client cluster s.identity ready
  rw [repair_eq h (bind_ok hclient (bringBack_eq hadopt))]
  exact ⟨calls, .after ⟨rfl, rfl⟩ (.after hu hattempted)⟩

/-! ## Deleting -/

/-- What is logged once the server has answered a deletion. -/
def deletionLogs (id : Identity) : Except Fault (Option StatefulSet) → List Effect
  | .ok _ => [.log (deletedLog id)]
  | .error f => reported (undeleted id f) f

theorem deletionLogs_calls (id : Identity) (answer : Except Fault (Option StatefulSet)) :
    (deletionLogs id answer).filterMap Effect.call? = [] := by
  cases answer with
  | ok => rfl
  | error f => exact reported_calls _ f

theorem undeleted_level (id : Identity) (f : Fault) :
    (undeleted id f).level = if f.isNotFound then .warning else .error := by
  unfold undeleted
  split <;> rfl

/-- An object that is not there is no error. -/
theorem undeleted_eq (id : Identity) (e : ApiError) :
    undeleted id (.api e) =
      let object := id.ns.getD "None" ++ "/" ++ id.name.getD "None"
      if e.status.bind (·.code?) = some 404 then
        ⟨.warning, s!"[K8S:MANAGER] Statefulset {object} not found for deletion"⟩
      else ⟨.error, s!"[K8S:MANAGER] Failed to delete statefulset {object}: {e.message}"⟩ := by
  have hmissing : (Fault.api e).isNotFound = true ↔ e.status.bind (·.code?) = some 404 :=
    ApiError.hasCode_iff
  have htitle : id.title = id.ns.getD "None" ++ "/" ++ id.name.getD "None" := rfl
  simp only [undeleted, hmissing, htitle]
  rfl

theorem delete_eq {id : Identity} {answer : Except Fault (Option StatefulSet)} {world : ω}
    (hclient : Session.client p.host σ = (⟨u, .ok client⟩, ready))
    (hanswer : p.host.answer (.delete id) ready.world = (answer, world)) :
    delete p id σ =
      (⟨u ++ ([.call client (.delete id)] ++ deletionLogs id answer), answer.map fun _ => ()⟩,
        { ready with world }) := by
  refine bind_ok hclient ?_
  cases answer with
  | ok answer =>
    exact reporting_ok (RetryPolicy.single_run (delete_ok client hanswer))
  | error f =>
    exact reporting_error (RetryPolicy.single_run (delete_error client hanswer)) (emit_eq _)

theorem delete_attempted {id : Identity}
    (hclient : Session.client p.host σ = (⟨u, .ok client⟩, ready)) (hu : Quiet u) :
    Attempted client (fun _ => [.delete id]) (fun _ e => undeleted id (.api e))
      (p.host.exchanges [.delete id] ready.world) (delete p id σ).1 := by
  rcases hanswer : p.host.answer (.delete id) ready.world with ⟨answer, world⟩
  rw [Host.exchanges_one hanswer, delete_eq hclient hanswer]
  refine .after hu (.of_last (List.forall_mem_nil _) ?_ ?_ ?_ ?_)
  · exact congrArg ((client, Call.delete id) :: ·) (deletionLogs_calls id answer)
  · exact ⟨{}, List.prefix_rfl, fun h => absurd rfl h, fun _ => rfl⟩
  · cases answer <;> rfl
  · cases answer with
    | ok => rfl
    | error f =>
      have hlevel : (undeleted id f).level = .warning ∨ (undeleted id f).level = .error := by
        rw [undeleted_level]
        cases f.isNotFound
        · exact .inr rfl
        · exact .inl rfl
      exact alarms_reported (undeleted id) hlevel fun _ => rfl

/-! ## All three -/

/-- The run ends without a call, and with nothing wrong in the log. -/
structure Unsent (run : Traced Effect Fault α) (r : Except Fault α) : Prop where
  calls : run.calls = []
  alarms : alarms run.trace = []
  result : run.result = r

/-- The run comes by a client, and then makes each of its calls once. Without a client it ends, with
nothing to say about that but what was said when no configuration was found. -/
def TriesOnce (host : Host ω) (σ : Session ω) (plan : StatefulSet → List Call)
    (report : Call → ApiError → Log) (run : Traced Effect Fault α) : Prop :=
  match Session.client host σ with
  | (⟨t, .error f⟩, _) =>
    run.calls = [] ∧ alarms run.trace = alarms t ∧ run.result = .error f
  | (⟨_, .ok client⟩, ready) =>
    ∃ calls, Attempted client plan report (host.exchanges calls ready.world) run

section

variable {host : Host ω} {plan : StatefulSet → List Call} {report : Call → ApiError → Log}
  {run : Traced Effect Fault α} {v : List Effect}

/-- A run tries its calls once if it does so with any client, and without one has only done quietly
what comes before. -/
theorem TriesOnce.intro (hv : Quiet v)
    (hfails : ∀ t f σ', Session.client host σ = (⟨t, .error f⟩, σ') → run = ⟨v ++ t, .error f⟩)
    (htries : ∀ t client ready, Session.client host σ = (⟨t, .ok client⟩, ready) → Quiet t →
      ∃ calls, Attempted client plan report (host.exchanges calls ready.world) run) :
    TriesOnce host σ plan report run := by
  unfold TriesOnce
  rcases client_cases host σ with ⟨t, client, ready, hclient, ht⟩ | ⟨t, f, ready, hclient, ht⟩
  · rw [hclient]
    exact htries t client ready hclient ht
  · rw [hclient, hfails t f ready hclient]
    refine ⟨?_, ?_, rfl⟩
    · show (v ++ t).filterMap Effect.call? = []
      rw [List.filterMap_append, hv.calls, ht, List.append_nil]
    · rw [alarms_append, hv.alarms, List.nil_append]

end

/-- **One attempt.** Whatever the host answers, creating, repairing and deleting make each of their
calls once: they go through their plan up to the first call that fails, end with the fault of that
one, and report it exactly if it is an API error, with the step that failed; an object that could
not be deleted because it is not there is no error. -/
theorem single_attempt (p : Platform ω) (σ : Session ω) :
    (∀ cluster role status native,
      let run := (create p cluster role native (σ, status)).1
      let object := "for role " ++ role.id
      match (Synthesis.build p.catalog (.ok p.settings) cluster role status 0 native).result with
      | .error f => Unsent run (.error f)
      | .ok body => TriesOnce p.host σ (fun _ => [.create cluster.ns body])
          (fun _ e => ⟨.error,
            s!"[{cluster.ns}/{cluster.name}] failed to create statefulset {object}: {e.message}"⟩)
          run) ∧
    (∀ cluster role s,
      let run := (repair p cluster role s σ).1
      let object := s.metadata.ns.getD "None" ++ "/" ++ s.metadata.name.getD "None"
      if needsNothing cluster role s then Unsent run (.ok ())
      else TriesOnce p.host σ
        (fun current => [.read ⟨s.metadata.ns, s.metadata.name⟩,
          .patch ⟨current.metadata.ns, current.metadata.name⟩
            [.add "/metadata/ownerReferences" (Metadata.owners cluster)]])
        (fun call e =>
          let step := match call with
            | .read _ => "retrieve"
            | _ => "patch"
          ⟨.error,
            s!"[{cluster.ns}/{cluster.name}] failed to {step} statefulset {object}: {e.message}"⟩)
        run) ∧
    ∀ id : Identity,
      let object := id.ns.getD "None" ++ "/" ++ id.name.getD "None"
      TriesOnce p.host σ (fun _ => [.delete id])
        (fun _ e =>
          if e.status.bind (·.code?) = some 404 then
            ⟨.warning, s!"[K8S:MANAGER] Statefulset {object} not found for deletion"⟩
          else ⟨.error, s!"[K8S:MANAGER] Failed to delete statefulset {object}: {e.message}"⟩)
        (delete p id σ).1 := by
  refine ⟨fun cluster role status native => ?_, fun cluster role s => ?_, fun id => ?_⟩
  · have hquiet :=
      Synthesis.build_quiet p.catalog (.ok p.settings) cluster role status 0 native
    rcases hbuild : Synthesis.build p.catalog (.ok p.settings) cluster role status 0 native with
      ⟨t, f | body⟩
    · rw [hbuild] at hquiet
      dsimp only
      rw [create_unbuilt hbuild]
      exact ⟨hquiet.calls, hquiet.alarms, rfl⟩
    · rw [hbuild] at hquiet
      simp only [← uncreated_eq]
      refine .intro hquiet (fun u f σ' hclient => ?_) fun u client ready hclient hu =>
        ⟨_, create_attempted hbuild hquiet hclient hu⟩
      exact congrArg Prod.fst (create_unsupplied hbuild hclient)
  · cases h : needsNothing cluster role s with
    | true =>
      dsimp only
      rw [if_pos rfl, repair_idle h]
      exact ⟨rfl, rfl, rfl⟩
    | false =>
      refine .intro (v := [.log (repairingLog cluster s.identity)]) ⟨rfl, rfl⟩
        (fun u f σ' hclient => ?_) fun u client ready hclient hu => repair_attempted h hclient hu
      exact congrArg Prod.fst (repair_eq h (bind_error hclient))
  · simp only [← undeleted_eq]
    refine .intro (v := []) ⟨rfl, rfl⟩ (fun u f σ' hclient => ?_)
      fun u client ready hclient hu => ⟨_, delete_attempted hclient hu⟩
    exact congrArg Prod.fst (bind_error hclient)

end Manager
end StatefulRoles
