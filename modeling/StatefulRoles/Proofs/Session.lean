import StatefulRoles.Proofs.Trace
import StatefulRoles.Session
/-!
# What a session does

Results:
* `send_eq`, and lemmas such as `create_ok` and `create_error` for each call: a call is sent once and
  ends as the host answers it.
* `loadConfiguration_eq`: how a configuration is looked for, and what comes of it.
* `client_own`, `client_shared`, `client_loaded`: whose client a manager gets, and what is left when
  there is none.
* `client_cases`: coming by a client takes no call to the server, and logs an error only if no
  configuration can be loaded.
* `client_world`: it leaves the server alone if loading a configuration does.
-/
namespace StatefulRoles

/-- The answers of a host to calls made one after the other. -/
def Host.replies {ω : Type} (host : Host ω) : List Call → ω → List (Except Fault (Option StatefulSet))
  | [], _ => []
  | call :: calls, world =>
    (host.answer call world).1 :: replies host calls (host.answer call world).2

theorem Host.tries_world {ω : Type} (host : Host ω) (loader : Loader) (world : ω) :
    (host.tries loader world).2 = (host.load loader world).2 := by
  unfold tries
  cases host.breaks loader world <;> rfl

/-- The error lines of a trace. -/
def errorLines (t : List Effect) : List Log := (t.filterMap Effect.log?).filter (·.level = .error)

theorem errorLines_append (t u : List Effect) :
    errorLines (t ++ u) = errorLines t ++ errorLines u := by
  simp [errorLines]

/-- The lines of a trace that say that something is wrong: warnings and error lines. -/
def alarms (t : List Effect) : List Log :=
  (t.filterMap Effect.log?).filter fun line => line.level = .warning ∨ line.level = .error

theorem alarms_append (t u : List Effect) : alarms (t ++ u) = alarms t ++ alarms u := by
  simp [alarms]

theorem errorLines_eq (t : List Effect) :
    errorLines t = (alarms t).filter (·.level = .error) := by
  unfold errorLines alarms
  rw [List.filter_filter]
  refine List.filter_congr fun line _ => ?_
  cases line.level <;> rfl

namespace Session

open Act

variable {ω ε : Type} {host : Host ω} {s : Session ω}

/-! ## Calls -/

theorem send_eq (client : Client) {call : Call} {answer : Except Fault (Option StatefulSet)}
    {world : ω} (h : host.answer call s.world = (answer, world)) :
    send host client call s = (⟨[.call client call], answer⟩, { s with world }) := by
  simp only [send, h]

/-- What is logged about a stateful set that was created. -/
def createdLog (ns : String) (created : StatefulSet) : Log :=
  .info s!"[K8S] ✅ Created statefulset: {ns}/{shown created.metadata.name}"

theorem create_ok (client : Client) {ns : String} {body created : StatefulSet} {world : ω}
    (h : host.answer (.create ns body) s.world = (.ok (some created), world)) :
    create host client ns body s =
      (⟨[.call client (.create ns body), .log (createdLog ns created)], .ok created⟩,
        { s with world }) :=
  bind_ok (send_eq client h) (bind_ok (emit_eq _) (pure_eq created))

theorem create_none (client : Client) {ns : String} {body : StatefulSet} {world : ω}
    (h : host.answer (.create ns body) s.world = (.ok none, world)) :
    create host client ns body s =
      (⟨[.call client (.create ns body)], .error (.noObject "metadata")⟩, { s with world }) :=
  bind_ok (send_eq client h) (fail_eq _)

theorem create_error (client : Client) {ns : String} {body : StatefulSet} {f : Fault} {world : ω}
    (h : host.answer (.create ns body) s.world = (.error f, world)) :
    create host client ns body s =
      (⟨[.call client (.create ns body)], .error f⟩, { s with world }) :=
  bind_error (send_eq client h)

/-- What is logged about a stateful set that was replaced. -/
def replacedLog (id : Identity) : Log := .info s!"[K8S] ✅ Updated statefulset: {id.title}"

theorem replace_ok (client : Client) {body : StatefulSet} {updated : Option StatefulSet} {world : ω}
    (h : host.answer (.replace body.identity body) s.world = (.ok updated, world)) :
    replace host client body s =
      (⟨[.call client (.replace body.identity body), .log (replacedLog body.identity)],
        .ok updated⟩, { s with world }) :=
  bind_ok (send_eq client h) (bind_ok (emit_eq _) (pure_eq updated))

theorem replace_error (client : Client) {body : StatefulSet} {f : Fault} {world : ω}
    (h : host.answer (.replace body.identity body) s.world = (.error f, world)) :
    replace host client body s =
      (⟨[.call client (.replace body.identity body)], .error f⟩, { s with world }) :=
  bind_error (send_eq client h)

/-- What is logged about a stateful set that was patched. -/
def patchedLog (id : Identity) : Log := .info s!"[K8S] ✅ Patched statefulset: {id.title}"

theorem patch_ok (client : Client) {id : Identity} {steps : List PatchStep}
    {answer : Option StatefulSet} {world : ω}
    (h : host.answer (.patch id steps) s.world = (.ok answer, world)) :
    patch host client id steps s =
      (⟨[.call client (.patch id steps), .log (patchedLog id)], .ok ()⟩, { s with world }) :=
  bind_ok (send_eq client h) (emit_eq _)

theorem patch_error (client : Client) {id : Identity} {steps : List PatchStep} {f : Fault} {world : ω}
    (h : host.answer (.patch id steps) s.world = (.error f, world)) :
    patch host client id steps s =
      (⟨[.call client (.patch id steps)], .error f⟩, { s with world }) :=
  bind_error (send_eq client h)

/-- What is logged about a stateful set that was deleted. -/
def deletedLog (id : Identity) : Log := .info s!"[K8S] Deleted statefulset: {id.title}"

theorem delete_ok (client : Client) {id : Identity} {answer : Option StatefulSet} {world : ω}
    (h : host.answer (.delete id) s.world = (.ok answer, world)) :
    delete host client id s =
      (⟨[.call client (.delete id), .log (deletedLog id)], .ok ()⟩, { s with world }) :=
  bind_ok (send_eq client h) (emit_eq _)

theorem delete_error (client : Client) {id : Identity} {f : Fault} {world : ω}
    (h : host.answer (.delete id) s.world = (.error f, world)) :
    delete host client id s = (⟨[.call client (.delete id)], .error f⟩, { s with world }) :=
  bind_error (send_eq client h)

/-! ## Configurations -/

/-- A trace without calls in which nothing is wrong. -/
structure Quiet (t : List Effect) : Prop where
  calls : t.filterMap Effect.call? = []
  alarms : alarms t = []

theorem Quiet.errors {t : List Effect} (h : Quiet t) : errorLines t = [] := by
  rw [errorLines_eq, h.alarms]
  rfl

/-- What is logged when there is no configuration. -/
def unloaded (reason : String) : Log := .error s!"Failed to load Kubernetes config: {reason}"

/-- How a configuration is looked for, and what that leaves of the host's state: the user's
is asked for only if the cluster has none, and a loader that breaks ends the search. -/
inductive Loading (host : Host ω) (world : ω) : List Effect → Except Fault Unit → ω → Prop where
  | ofCluster {world₁ : ω} (h : host.tries .cluster world = (.ok (.ok ()), world₁)) :
      Loading host world
        [.load .cluster, .log (.info "Loaded in-cluster Kubernetes configuration")] (.ok ()) world₁
  | clusterBroken {f : Fault} {world₁ : ω} (h : host.tries .cluster world = (.error f, world₁)) :
      Loading host world [.load .cluster] (.error f) world₁
  | ofUser {reason : String} {world₁ world₂ : ω}
      (h : host.tries .cluster world = (.ok (.error reason), world₁))
      (h' : host.tries .user world₁ = (.ok (.ok ()), world₂)) :
      Loading host world
        [.load .cluster, .load .user, .log (.info "Loaded kubeconfig for development")] (.ok ())
        world₂
  | userBroken {reason : String} {f : Fault} {world₁ world₂ : ω}
      (h : host.tries .cluster world = (.ok (.error reason), world₁))
      (h' : host.tries .user world₁ = (.error f, world₂)) :
      Loading host world [.load .cluster, .load .user] (.error f) world₂
  | nowhere {reason reason' : String} {world₁ world₂ : ω}
      (h : host.tries .cluster world = (.ok (.error reason), world₁))
      (h' : host.tries .user world₁ = (.ok (.error reason'), world₂)) :
      Loading host world [.load .cluster, .load .user, .log (unloaded reason')]
        (.error .noConfiguration) world₂

namespace Loading

variable {t : List Effect} {r : Except Fault Unit} {world world' : ω}

theorem calls (h : Loading host world t r world') : t.filterMap Effect.call? = [] := by
  cases h <;> rfl

/-- Finding a configuration is quiet. -/
theorem quiet (h : Loading host world t (.ok ()) world') : Quiet t := by
  cases h <;> exact ⟨rfl, rfl⟩

theorem world_eq (hload : ∀ loader world, (host.load loader world).2 = world)
    (h : Loading host world t r world') : world' = world := by
  have htries {loader : Loader} {w w' : ω} {r : Except Fault (Except String Unit)}
      (h : host.tries loader w = (r, w')) : w' = w := by
    rw [← hload loader w, ← Host.tries_world, h]
  cases h with
  | ofCluster h | clusterBroken h => exact htries h
  | ofUser h h' | userBroken h h' | nowhere h h' => exact (htries h').trans (htries h)

end Loading

theorem load_eq {loader : Loader} {r : Except Fault (Except String Unit)} {world : ω}
    (h : host.tries loader s.world = (r, world)) :
    load host loader s = (⟨[.load loader], r⟩, { s with world }) := by
  simp only [load, h]

theorem loadConfiguration_eq (host : Host ω) (s : Session ω) :
    ∃ t r world, loadConfiguration host s = (⟨t, r⟩, { s with world }) ∧
      Loading host s.world t r world := by
  rcases h : host.tries .cluster s.world with ⟨f | (reason | ⟨⟨⟩⟩), world⟩
  · exact ⟨_, _, world, bind_error (load_eq h), .clusterBroken h⟩
  · rcases h' : host.tries .user world with ⟨f | (reason' | ⟨⟨⟩⟩), world'⟩
    · exact ⟨_, _, world', bind_ok (load_eq h) (bind_error (load_eq h')), .userBroken h h'⟩
    · exact ⟨_, _, world', bind_ok (load_eq h) (bind_ok (load_eq h') (bind_ok (emit_eq _)
        (fail_eq _))), .nowhere h h'⟩
    · exact ⟨_, _, world', bind_ok (load_eq h) (bind_ok (load_eq h') (emit_eq _)), .ofUser h h'⟩
  · exact ⟨_, _, world, bind_ok (load_eq h) (emit_eq _), .ofCluster h⟩

/-! ## Clients -/

theorem newClient_eq :
    (newClient : Run ω ε Client) s = (⟨[], .ok ⟨s.made⟩⟩, { s with made := s.made + 1 }) := rfl

/-- A manager that has a client keeps to it. -/
theorem client_own (host : Host ω) {c : Client} (h : s.manager.client = some c) :
    Session.client host s = (⟨[], .ok c⟩, s) := by
  unfold Session.client
  rw [get_bind, h]
  exact pure_eq c

/-- One that has none takes the shared one and keeps it. -/
theorem client_shared (host : Host ω) {c : Client} (h : s.manager.client = none)
    (h' : s.shared = some c) :
    Session.client host s = (⟨[], .ok c⟩, { s with manager := s.manager.withClient c }) := by
  have hshared : sharedClient host s = (⟨[], .ok c⟩, s) := by
    unfold sharedClient
    rw [get_bind, h']
    exact pure_eq c
  unfold Session.client
  rw [get_bind, h]
  exact bind_ok hshared (bind_ok (modify_eq _) (pure_eq c))

/-- If there is no shared one either, it is made from the configuration that is found and shared
from then on; if none is found, nobody gets a client. -/
theorem client_loaded (host : Host ω) (h : s.manager.client = none) (h' : s.shared = none) :
    (∃ t world, Loading host s.world t (.ok ()) world ∧
      Session.client host s = (⟨t, .ok ⟨s.made⟩⟩,
        ⟨world, some ⟨s.made⟩, s.made + 1, s.manager.withClient ⟨s.made⟩⟩)) ∨
    ∃ t f world, Loading host s.world t (.error f) world ∧
      Session.client host s = (⟨t, .error f⟩, { s with world }) := by
  obtain ⟨world₀, shared, made, manager⟩ := s
  obtain rfl : shared = none := h'
  obtain ⟨t, r, world, hrun, hloading⟩ := loadConfiguration_eq host ⟨world₀, none, made, manager⟩
  cases r with
  | error f =>
    have hshared : sharedClient host ⟨world₀, none, made, manager⟩ =
        (⟨t, .error f⟩, ⟨world, none, made, manager⟩) := by
      unfold sharedClient
      rw [get_bind]
      exact bind_error hrun
    refine .inr ⟨t, f, world, hloading, ?_⟩
    unfold Session.client
    rw [get_bind, h]
    exact bind_error hshared
  | ok =>
    have hshared : sharedClient host ⟨world₀, none, made, manager⟩ =
        (⟨t, .ok ⟨made⟩⟩, ⟨world, some ⟨made⟩, made + 1, manager⟩) := by
      unfold sharedClient
      rw [get_bind, ← List.append_nil t]
      exact bind_ok hrun (bind_ok newClient_eq (bind_ok (modify_eq _) (pure_eq _)))
    refine .inl ⟨t, world, hloading, ?_⟩
    unfold Session.client
    rw [get_bind, h, ← List.append_nil t]
    exact bind_ok hshared (bind_ok (modify_eq _) (pure_eq _))

/-- A client is come by quietly, or not at all. -/
theorem client_cases (host : Host ω) (s : Session ω) :
    (∃ t client s', Session.client host s = (⟨t, .ok client⟩, s') ∧ Quiet t) ∨
      ∃ t f s', Session.client host s = (⟨t, .error f⟩, s') ∧ t.filterMap Effect.call? = [] := by
  cases h : s.manager.client with
  | some client => exact .inl ⟨[], client, s, client_own host h, ⟨rfl, rfl⟩⟩
  | none =>
    cases h' : s.shared with
    | some client => exact .inl ⟨[], client, _, client_shared host h h', ⟨rfl, rfl⟩⟩
    | none =>
      rcases client_loaded host h h' with
        ⟨t, world, hloading, hclient⟩ | ⟨t, f, world, hloading, hclient⟩
      · exact .inl ⟨t, _, _, hclient, hloading.quiet⟩
      · exact .inr ⟨t, f, _, hclient, hloading.calls⟩

theorem client_calls {t : List Effect} {r : Except Fault Client} {s' : Session ω}
    (h : Session.client host s = (⟨t, r⟩, s')) : t.filterMap Effect.call? = [] := by
  rcases client_cases host s with ⟨t', client, s'', h', hquiet⟩ | ⟨t', f, s'', h', hcalls⟩
  · cases h.symm.trans h'
    exact hquiet.calls
  · cases h.symm.trans h'
    exact hcalls

/-- Coming by a client leaves the server alone if loading a configuration does. -/
theorem client_world (hload : ∀ loader world, (host.load loader world).2 = world)
    (s : Session ω) : (Session.client host s).2.world = s.world := by
  cases h : s.manager.client with
  | some client => rw [client_own host h]
  | none =>
    cases h' : s.shared with
    | some client => rw [client_shared host h h']
    | none =>
      rcases client_loaded host h h' with
        ⟨t, world, hloading, hclient⟩ | ⟨t, f, world, hloading, hclient⟩
      · rw [hclient]
        exact hloading.world_eq hload
      · rw [hclient]
        exact hloading.world_eq hload

end Session
end StatefulRoles
