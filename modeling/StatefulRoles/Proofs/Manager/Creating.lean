import StatefulRoles.Proofs.Manager.Reporting
import StatefulRoles.Proofs.Retry
import StatefulRoles.Proofs.Synthesis.Stages
/-!
# Creating

The name of a stateful set is on record from the first time that the server gave it one, so that a
later request is for the same stateful set, and its volumes, again.

Results:
* `create_of_ok`, `create_of_error`: the record takes the name of what was created, and stays as it
  is if nothing was.
* `create_cases`: a request fails before it comes to a call, or makes one call with what was built
  and ends as that is answered.
* `compose_manifest`: what is built is named as the record says.
* `createAll_recorded`: over any run of requests with one record, the record follows the server's
  answers, and a name in it never changes.
-/
namespace StatefulRoles

/-- There is a status of the role at hand, with a name on record. -/
def Named (status : Option RoleStatus) (name : String) : Prop :=
  status.bind (·.statefulSet) = some name ∧ name ≠ ""

theorem Metadata.recordedName_eq_some {status : Option RoleStatus} {name : String} :
    recordedName status = some name ↔ Named status name := by
  unfold recordedName Named
  rw [Option.filter_eq_some_iff]
  exact and_congr_right fun _ => decide_eq_true_iff

namespace Manager

open Act Session

variable {ω : Type}

/-! ## One request -/

/-- How a request ends, as the server answers its call. -/
def creation : Except Fault (Option StatefulSet) → Except Fault StatefulSet
  | .ok (some created) => .ok created
  | .ok none => .error (.noObject "metadata")
  | .error f => .error f

/-- The status of the role behind a request, as the server answers its call. -/
def recording (status : Option RoleStatus) :
    Except Fault (Option StatefulSet) → Option RoleStatus
  | .ok (some created) => status.map fun s => { s with statefulSet := created.metadata.name }
  | _ => status

/-- The one attempt to create what was built. -/
def attemptOnce (p : Platform ω) (client : Client) (ns : String) (body : StatefulSet) :
    Run ω StepFault StatefulSet :=
  RetryPolicy.single.run StepFault.account fun _ =>
    atStep .create (Session.create p.host client ns body)

theorem attemptOnce_eq {p : Platform ω} {client : Client} {ns : String} {body : StatefulSet}
    {σ σ' : Session ω} {t : List Effect} {r : Except Fault StatefulSet}
    (h : Session.create p.host client ns body σ = (⟨t, r⟩, σ')) :
    attemptOnce p client ns body σ = (⟨t, r.mapError (⟨.create, ·⟩)⟩, σ') :=
  RetryPolicy.single_run (mapFault_eq h)

/-- What is logged about a stateful set that implements a role from now on. -/
def implementedLog (role : Role) (created : StatefulSet) : Log :=
  .info s!"[K8S:MANAGER] Role {role.id} -> statefulset {shown created.metadata.name}"

/-- What is logged once the server has answered a request, before the name is put on record. -/
def builtLogs (cluster : Cluster) (role : Role) :
    Except Fault (Option StatefulSet) → List Effect
  | .ok (some created) => [.log (createdLog cluster.ns created)]
  | .ok none => []
  | .error f => reported (failedLine cluster Step.create.verb s!"for role {role.id}" f) f

/-- What is logged behind that. -/
def recordedLogs (role : Role) : Except Fault (Option StatefulSet) → List Effect
  | .ok (some created) => [.log (implementedLog role created)]
  | _ => []

/-- Behind a failed call there is only the report. -/
theorem creationLogs_error (cluster : Cluster) (role : Role) (f : Fault) :
    builtLogs cluster role (.error f) ++ recordedLogs role (.error f) =
      reported (failedLine cluster Step.create.verb s!"for role {role.id}" f) f :=
  List.append_nil _

theorem creationLogs_calls (cluster : Cluster) (role : Role)
    (answer : Except Fault (Option StatefulSet)) :
    (builtLogs cluster role answer ++ recordedLogs role answer).filterMap Effect.call? = [] := by
  rcases answer with f | (_ | created)
  · rw [creationLogs_error]
    exact reported_calls _ f
  · rfl
  · rfl

section

variable {p : Platform ω} {cluster : Cluster} {role : Role} {status : Option RoleStatus}
  {native : Option Bool} {σ σ' ready : Session ω} {t u : List Effect}

/-- What was created is put on record by its name. -/
theorem create_of_ok {created : StatefulSet}
    (h : createBuilt p cluster role status native σ = (⟨t, .ok created⟩, σ')) :
    create p cluster role native (σ, status) =
      (⟨t ++ [.log (implementedLog role created)], .ok created⟩, σ',
        status.map fun s => { s with statefulSet := created.metadata.name }) := by
  unfold create
  rw [get_bind]
  exact bind_ok (beside_eq h status) (bind_ok (modify_eq _) (bind_ok (beside_eq (emit_eq _) _) rfl))

/-- If nothing was, the record is left as it is. -/
theorem create_of_error {f : Fault}
    (h : createBuilt p cluster role status native σ = (⟨t, .error f⟩, σ')) :
    create p cluster role native (σ, status) = (⟨t, .error f⟩, σ', status) := by
  unfold create
  rw [get_bind]
  exact bind_error (beside_eq h status)

/-- A request with a status at hand: what becomes of it, and the status that is left. -/
theorem holding_create {ε : Type} (p : Platform ω) (cluster : Cluster) (role : Role)
    (status : Option RoleStatus) (native : Option Bool) :
    ((create p cluster role native).holding status :
      Run ω ε (Option RoleStatus × Except Fault StatefulSet)) = do
        match ← (createBuilt p cluster role status native).attempt with
        | .error f => return (status, .error f)
        | .ok created =>
          Session.log (implementedLog role created)
          return (status.map fun s => { s with statefulSet := created.metadata.name },
            .ok created) := by
  funext σ
  rcases hbuilt : createBuilt p cluster role status native σ with ⟨⟨t, f | created⟩, σ'⟩
  · rw [holding_eq (create_of_error hbuilt), ← List.append_nil t]
    refine Eq.symm (attempt_bind hbuilt ?_)
    exact pure_eq _
  · rw [holding_eq (create_of_ok hbuilt)]
    refine Eq.symm (attempt_bind hbuilt ?_)
    exact bind_ok (emit_eq _) (pure_eq _)

/-- With a client, what was built is sent once, and ends as that is answered. -/
theorem createBuilt_eq {client : Client} {body : StatefulSet}
    {answer : Except Fault (Option StatefulSet)} {world : ω}
    (hbuild : Synthesis.build p.catalog (.ok p.settings) cluster role status 0 native =
      ⟨t, .ok body⟩)
    (hclient : Session.client p.host σ = (⟨u, .ok client⟩, ready))
    (hanswer : p.host.answer (.create cluster.ns body) ready.world = (answer, world)) :
    createBuilt p cluster role status native σ =
      (⟨t ++ (u ++ .call client (.create cluster.ns body) :: builtLogs cluster role answer),
        creation answer⟩, { ready with world }) := by
  refine bind_ok (congrArg (·, σ) hbuild) (bind_ok hclient ?_)
  have hreport (f : Fault) := failed_eq p cluster s!"for role {role.id}" ⟨.create, f⟩
    (s := { ready with world })
  rcases answer with f | (_ | created)
  · exact reporting_error (attemptOnce_eq (create_error client hanswer)) (hreport f)
  · exact reporting_error (attemptOnce_eq (create_none client hanswer)) (hreport _)
  · exact reporting_ok (attemptOnce_eq (create_ok client hanswer))

/-- The request ends so too, and the record follows the answer. -/
theorem create_eq {client : Client} {body : StatefulSet}
    {answer : Except Fault (Option StatefulSet)} {world : ω}
    (hbuild : Synthesis.build p.catalog (.ok p.settings) cluster role status 0 native =
      ⟨t, .ok body⟩)
    (hclient : Session.client p.host σ = (⟨u, .ok client⟩, ready))
    (hanswer : p.host.answer (.create cluster.ns body) ready.world = (answer, world)) :
    create p cluster role native (σ, status) =
      (⟨t ++ (u ++ .call client (.create cluster.ns body) ::
          (builtLogs cluster role answer ++ recordedLogs role answer)), creation answer⟩,
        { ready with world }, recording status answer) := by
  have hbuilt := createBuilt_eq hbuild hclient hanswer
  rcases answer with f | (_ | created)
  · rw [creationLogs_error]
    exact create_of_error hbuilt
  · exact create_of_error hbuilt
  · rw [← List.cons_append, ← List.append_assoc u, ← List.append_assoc t]
    exact create_of_ok hbuilt

/-- Where nothing can be built, or there is no client, nothing is created. -/
theorem create_unbuilt {f : Fault}
    (hbuild : Synthesis.build p.catalog (.ok p.settings) cluster role status 0 native =
      ⟨t, .error f⟩) :
    create p cluster role native (σ, status) = (⟨t, .error f⟩, σ, status) :=
  create_of_error (bind_error (congrArg (·, σ) hbuild))

theorem create_unsupplied {body : StatefulSet} {f : Fault}
    (hbuild : Synthesis.build p.catalog (.ok p.settings) cluster role status 0 native =
      ⟨t, .ok body⟩)
    (hclient : Session.client p.host σ = (⟨u, .error f⟩, ready)) :
    create p cluster role native (σ, status) = (⟨t ++ u, .error f⟩, ready, status) :=
  create_of_error (bind_ok (congrArg (·, σ) hbuild) (bind_error hclient))

end

/-- A request fails before it comes to a call and leaves the record as it is, or makes one call with
what was built and ends as that is answered. -/
theorem create_cases (p : Platform ω) (cluster : Cluster) (role : Role)
    (status : Option RoleStatus) (native : Option Bool) (σ : Session ω) :
    (∃ t f σ', create p cluster role native (σ, status) = (⟨t, .error f⟩, σ', status) ∧
      t.filterMap Effect.call? = []) ∨
    ∃ t client body answer σ',
      create p cluster role native (σ, status) =
        (⟨t, creation answer⟩, σ', recording status answer) ∧
      t.filterMap Effect.call? = [(client, .create cluster.ns body)] ∧
      p.host.answer (.create cluster.ns body) (Session.client p.host σ).2.world =
        (answer, σ'.world) ∧
      (Synthesis.build p.catalog (.ok p.settings) cluster role status 0 native).result =
        .ok body := by
  have hsilent :=
    (Synthesis.follows_build p.catalog (.ok p.settings) cluster role status 0 native).calls
  rcases hbuild : Synthesis.build p.catalog (.ok p.settings) cluster role status 0 native with
    ⟨t, r⟩
  rw [hbuild] at hsilent
  have ht : t.filterMap Effect.call? = [] := hsilent
  cases r with
  | error f => exact .inl ⟨t, f, σ, create_unbuilt hbuild, ht⟩
  | ok body =>
    rcases client_cases p.host σ with
      ⟨u, client, ready, hclient, hu⟩ | ⟨u, f, ready, hclient, hu⟩
    · refine .inr ⟨_, client, body, _, _, create_eq hbuild hclient rfl, ?_, ?_, rfl⟩
      · rw [List.filterMap_append, List.filterMap_append, ht, hu.calls]
        exact congrArg ((client, Call.create cluster.ns body) :: ·) (creationLogs_calls _ _ _)
      · rw [hclient]
    · refine .inl ⟨t ++ u, _, ready, create_unsupplied hbuild hclient, ?_⟩
      rw [List.filterMap_append, ht, hu, List.nil_append]

/-! ## Names -/

/-- A manifest that is sent: without replicas, in the cluster's namespace, and with the name on
record or else the beginning of a name that the server completes. -/
structure Manifest (cluster : Cluster) (status : Option RoleStatus) (body : StatefulSet) : Prop where
  replicas : body.spec.replicas = some 0
  ns : body.metadata.ns = some cluster.ns
  named : ∀ name, Named status name →
    body.metadata.name = some name ∧ body.metadata.generateName = none
  unnamed : (¬∃ name, Named status name) →
    body.metadata.name = none ∧ ∃ beginning, body.metadata.generateName = some beginning

theorem compose_manifest (cluster : Cluster) (role : Role) (status : Option RoleStatus)
    (facts : Synthesis.Facts) :
    Manifest cluster status (Synthesis.compose cluster role status 0 facts) := by
  have hmetadata : (Synthesis.compose cluster role status 0 facts).metadata =
    Metadata.withNaming _ (Metadata.naming cluster role status facts.nameBeginning) := rfl
  refine ⟨rfl, ?_, ?_, ?_⟩
  · rw [hmetadata]
    cases Metadata.naming cluster role status facts.nameBeginning <;> rfl
  · intro name hname
    rw [hmetadata, Metadata.naming, Metadata.recordedName_eq_some.mpr hname]
    exact ⟨rfl, rfl⟩
  · intro hnone
    have hrecorded : Metadata.recordedName status = none :=
      Option.eq_none_iff_forall_ne_some.mpr fun name hname =>
        hnone ⟨name, Metadata.recordedName_eq_some.mp hname⟩
    rw [hmetadata, Metadata.naming, hrecorded]
    cases cluster.spec.namingScheme <;> exact ⟨rfl, _, rfl⟩

/-- The server keeps the name that a stateful set is created with, and gives it one if it has
none. -/
structure Names (host : Host ω) : Prop where
  keeps : ∀ ns body name world created, body.metadata.name = some name →
    (host.answer (.create ns body) world).1 = .ok (some created) →
    created.metadata.name = some name
  gives : ∀ ns body world created, body.metadata.name = none →
    (host.answer (.create ns body) world).1 = .ok (some created) →
    ∃ name, created.metadata.name = some name ∧ name ≠ ""

/-! ## Runs of requests -/

/-- A request to create the stateful set of a role. -/
structure Request where
  catalog : Catalog
  settings : Settings
  cluster : Cluster
  role : Role
  native : Option Bool := none

/-- A request, the status of the role that it was made with and the session that it was made in,
what it did, and the status that it left. -/
structure Made (ω : Type) where
  request : Request
  before : Option RoleStatus
  session : Session ω
  run : Traced Effect Fault StatefulSet
  after : Option RoleStatus

/-- Makes requests one after the other, each with the status that the one before it left. -/
def createAll (host : Host ω) : List Request → Option RoleStatus → Session ω → List (Made ω)
  | [], _, _ => []
  | request :: requests, before, session =>
    let (run, session', after) := create ⟨host, request.catalog, request.settings⟩ request.cluster
      request.role request.native (session, before)
    ⟨request, before, session, run, after⟩ :: createAll host requests after session'

/-- What a request sends and records. -/
structure Recorded (host : Host ω) (made : Made ω) : Prop where
  sent : ∀ c ∈ made.run.calls, ∃ body, c.2 = .create made.request.cluster.ns body ∧
    Manifest made.request.cluster made.before body
  failed : ∀ f, made.run.result = .error f → made.after = made.before
  succeeded : ∀ created, made.run.result = .ok created →
    made.after = made.before.map (fun s => { s with statefulSet := created.metadata.name }) ∧
    ∃ client body, made.run.calls = [(client, .create made.request.cluster.ns body)] ∧
      (host.answer (.create made.request.cluster.ns body)
        (Session.client host made.session).2.world).1 = .ok (some created)

/-- The record keeps the name that it has. -/
def Keeps (before after : Option RoleStatus) : Prop := ∀ name, Named before name → Named after name

theorem create_recorded {host : Host ω} {request : Request} {before after : Option RoleStatus}
    {session session' : Session ω} {run : Traced Effect Fault StatefulSet}
    (h : create ⟨host, request.catalog, request.settings⟩ request.cluster request.role
      request.native (session, before) = (run, session', after)) :
    Recorded host ⟨request, before, session, run, after⟩ := by
  rcases create_cases ⟨host, request.catalog, request.settings⟩ request.cluster request.role
    before request.native session with
    ⟨t, f, σ', hrun, ht⟩ | ⟨t, client, body, answer, σ', hrun, ht, hanswer, hbuild⟩
  · obtain ⟨rfl, hrest⟩ := Prod.mk.inj (h.symm.trans hrun)
    obtain ⟨-, rfl⟩ := Prod.mk.inj hrest
    refine ⟨?_, fun _ _ => rfl, ?_⟩
    · intro c hc
      have hnil : c ∈ ([] : List (Client × Call)) := ht ▸ hc
      cases hnil
    · intro created hok
      have hnone : Except.error f = .ok created := hok
      cases hnone
  · obtain ⟨rfl, hrest⟩ := Prod.mk.inj (h.symm.trans hrun)
    obtain ⟨-, rfl⟩ := Prod.mk.inj hrest
    have hcalls : Traced.calls ⟨t, creation answer⟩ =
        [(client, .create request.cluster.ns body)] := ht
    obtain ⟨facts, -, rfl⟩ := Synthesis.build_eq_ok.mp hbuild
    refine ⟨?_, ?_, ?_⟩
    · intro c hc
      rw [hcalls, List.mem_singleton] at hc
      exact ⟨_, congrArg Prod.snd hc, compose_manifest _ _ _ _⟩
    · intro f hf
      rcases answer with f | (_ | created)
      · rfl
      · rfl
      · cases hf
    · intro created hok
      obtain rfl : answer = .ok (some created) := by
        rcases answer with f | (_ | created')
        · cases hok
        · cases hok
        · exact congrArg (Except.ok ∘ some) (Except.ok.inj hok)
      exact ⟨rfl, client, _, hcalls, congrArg Prod.fst hanswer⟩

/-- What a success sent, and what the server answered. -/
theorem Recorded.accepted {host : Host ω} {made : Made ω} (h : Recorded host made)
    {created : StatefulSet} (hok : made.run.result = .ok created) :
    made.after = made.before.map (fun s => { s with statefulSet := created.metadata.name }) ∧
    ∃ body world, Manifest made.request.cluster made.before body ∧
      (host.answer (.create made.request.cluster.ns body) world).1 = .ok (some created) := by
  obtain ⟨hafter, client, body, hcalls, hanswer⟩ := h.succeeded created hok
  obtain ⟨body', hcall, hmanifest⟩ := h.sent _ (hcalls ▸ List.mem_singleton_self _)
  cases hcall
  exact ⟨hafter, body, _, hmanifest, hanswer⟩

/-- A status of the role that is at hand stays at hand. -/
theorem Recorded.isSome {host : Host ω} {made : Made ω} (h : Recorded host made) :
    made.after.isSome = made.before.isSome := by
  cases hr : made.run.result with
  | error f => rw [h.failed f hr]
  | ok created => rw [(h.succeeded created hr).1, Option.isSome_map]

/-- After a success the name that the server gave is on record. -/
theorem Recorded.answered {host : Host ω} {made : Made ω} (h : Recorded host made)
    {created : StatefulSet} (hok : made.run.result = .ok created) (hhand : made.before.isSome)
    {name : String} (hname : created.metadata.name = some name) (hne : name ≠ "") :
    Named made.after name := by
  obtain ⟨record, hrecord⟩ := Option.isSome_iff_exists.mp hhand
  rw [(h.succeeded created hok).1, hrecord]
  exact ⟨hname, hne⟩

theorem Named.isSome {status : Option RoleStatus} {name : String} (h : Named status name) :
    status.isSome := by
  cases status with
  | none => cases h.1
  | some record => rfl

theorem Recorded.keeps {host : Host ω} {made : Made ω} (h : Recorded host made)
    (hnames : Names host) : Keeps made.before made.after := by
  intro name hname
  cases hr : made.run.result with
  | error f =>
    rw [h.failed f hr]
    exact hname
  | ok created =>
    obtain ⟨-, body, world, hmanifest, hanswer⟩ := h.accepted hr
    have hkept := hnames.keeps _ body name world created (hmanifest.named name hname).1 hanswer
    exact h.answered hr (Named.isSome hname) hkept hname.2

/-- After a success there is a name on record. -/
theorem Recorded.named {host : Host ω} {made : Made ω} (h : Recorded host made)
    (hnames : Names host) (hhand : made.before.isSome) {created : StatefulSet}
    (hok : made.run.result = .ok created) : ∃ name, Named made.after name := by
  by_cases hname : ∃ name, Named made.before name
  · obtain ⟨name, hname⟩ := hname
    exact ⟨name, h.keeps hnames name hname⟩
  · obtain ⟨-, body, world, hmanifest, hanswer⟩ := h.accepted hok
    obtain ⟨name, hgiven, hne⟩ :=
      hnames.gives _ body world created (hmanifest.unnamed hname).1 hanswer
    exact ⟨name, h.answered hok hhand hgiven hne⟩

theorem Keeps.trans {a b c : Option RoleStatus} (h : Keeps a b) (h' : Keeps b c) : Keeps a c :=
  fun name hname => h' name (h name hname)

/-- **The name stays.** Over any run of requests with one record, each request sends what the record
says, leaves it alone if it fails and otherwise puts the name on it that the server answered; and
the record keeps the first name that it has for good. -/
theorem createAll_recorded (host : Host ω) (hnames : Names host) (requests : List Request)
    (record : RoleStatus) (session : Session ω) :
    let all := createAll host requests (some record) session
    (∀ made ∈ all, Recorded host made ∧ ∀ created,
      made.run.result = .ok created → ∃ name, Named made.after name) ∧
    (some record :: all.map Made.after).Pairwise Keeps := by
  intro all
  induction requests generalizing record session with
  | nil => exact ⟨List.forall_mem_nil _, List.pairwise_singleton _ _⟩
  | cons request requests ih =>
    rcases hrun : create ⟨host, request.catalog, request.settings⟩ request.cluster request.role
      request.native (session, some record) with ⟨run, session', after⟩
    have hmade := create_recorded hrun
    obtain ⟨record', hafter⟩ : ∃ record', after = some record' :=
      Option.isSome_iff_exists.mp hmade.isSome
    rw [hafter] at hrun hmade
    have hfirst := hmade.keeps hnames
    obtain ⟨hrest, hkept⟩ := ih record' session'
    have hall : all = ⟨request, some record, session, run, some record'⟩ ::
        createAll host requests (some record') session' := by
      simp only [all, createAll, hrun]
    rw [hall]
    refine ⟨List.forall_mem_cons.mpr ⟨⟨hmade, fun _ => hmade.named hnames rfl⟩, hrest⟩, ?_⟩
    -- the other requests begin with the record that the first one leaves
    refine List.pairwise_cons.mpr ⟨?_, hkept⟩
    refine List.forall_mem_cons.mpr ⟨hfirst, fun later hlater => ?_⟩
    exact hfirst.trans (List.rel_of_pairwise_cons hkept hlater)

/-- A server that refuses the first call. -/
def reluctantHost : Host Nat where
  answer
    | .create _ _, 0 => (.error (.api { status := some (.code 500) }), 1)
    | .create _ body, n => (.ok (some { body with metadata := { body.metadata with
        name := body.metadata.name.or (some "db-x2x4z") } }), n + 1)
    | _, n => (.ok none, n + 1)
  load _ n := (.ok (), n)
  now _ := ""
  depth := 0

theorem createAll_recorded_reluctantHost :
    let cluster : Cluster := { name := "c", ns := "n", uid := "u", spec := { app := "db" } }
    let request : Request :=
      { catalog := Synthesis.plainCatalog none, settings := {}, cluster, role := { id := "db" } }
    let other : Request := { request with
      cluster := { cluster with spec := { app := "db", namingScheme := .clusterAndRole } } }
    let record : RoleStatus := { id := "db" }
    let all := createAll reluctantHost [request, request, other] (some record) { world := 0 }
    all.map Made.after = [some record, some { record with statefulSet := some "db-x2x4z" },
        some { record with statefulSet := some "db-x2x4z" }] ∧
      ∀ made ∈ all, Recorded reluctantHost made := by
  intro cluster request other record all
  have hnames : Names reluctantHost := by
    constructor
    · intro ns body name world created hname hcreated
      cases world with
      | zero => cases hcreated
      | succ n =>
        cases hcreated
        show body.metadata.name.or _ = some name
        rw [hname]
        rfl
    · intro ns body world created hname hcreated
      cases world with
      | zero => cases hcreated
      | succ n =>
        cases hcreated
        refine ⟨"db-x2x4z", ?_, by decide⟩
        show body.metadata.name.or _ = _
        rw [hname]
        rfl
  obtain ⟨hall, -⟩ := createAll_recorded reluctantHost hnames [request, request, other] record
    { world := 0 }
  exact ⟨rfl, fun made hmade => (hall made hmade).1⟩

end Manager
end StatefulRoles
