import StatefulRoles.Proofs.Manager.Scaling
import StatefulRoles.Proofs.Manager.SingleAttempt
/-!
# Operations and their client

What an operation does before it needs a client is its opening. From there on it speaks to the
server, and does so through the client that it came by.

Results:
* `Confined.bind`, `Confined.run`: a run is confined to a client if its parts are, however often it
  is tried again.
* `bind_supplied`: what such a run does once there is a client.
* `perform_cases`: an operation ends with its opening, or comes by a client and goes on with its
  first call, confined to that client.
-/
namespace StatefulRoles

/-- What is done goes through a client, if it has to do with clients at all. -/
def Effect.IsThrough (client : Client) : Effect → Prop
  | .call c _ => c = client
  | .load _ => False
  | _ => True

/-- Everything in a session but the host's state. -/
def Session.holders {ω : Type} (s : Session ω) : Option Client × Nat × Manager :=
  (s.shared, s.made, s.manager)

open Act Session

variable {ω ε ε' α β : Type} {client : Client} {call : Call}

/-! ## Runs that are confined to a client -/

/-- Whatever the run does goes through the client, and it changes nothing about who has which. -/
structure Confined (client : Client) (x : Run ω ε α) : Prop where
  through : ∀ s, ∀ e ∈ (x s).1.trace, e.IsThrough client
  keeps : Leaves holders x

namespace Confined

variable {x : Run ω ε α}

theorem pure (a : α) : Confined client (Pure.pure a : Run ω ε α) :=
  ⟨fun _ => List.forall_mem_nil _, .pure a⟩

theorem fail (e : ε) : Confined client (Act.fail e : Run ω ε α) :=
  ⟨fun _ => List.forall_mem_nil _, .fail e⟩

theorem log (line : Log) : Confined client (Session.log line : Run ω ε Unit) :=
  ⟨fun _ => List.forall_mem_singleton.mpr trivial, .emit _⟩

theorem send (host : Host ω) (call : Call) : Confined client (send host client call) :=
  ⟨fun _ => List.forall_mem_singleton.mpr rfl, fun _ => rfl⟩

theorem bind {f : α → Run ω ε β} (hx : Confined client x) (hf : ∀ a, Confined client (f a)) :
    Confined client (x >>= f) := by
  refine ⟨fun s => ?_, hx.keeps.bind fun a => (hf a).keeps⟩
  have hfirst := hx.through s
  rcases hrun : x s with ⟨⟨t, r⟩, s'⟩
  rw [hrun] at hfirst
  cases r with
  | ok a =>
    rw [bind_ok hrun rfl]
    exact List.forall_mem_append.mpr ⟨hfirst, (hf a).through s'⟩
  | error e =>
    rw [bind_error hrun]
    exact hfirst

theorem attempt (hx : Confined client x) : Confined client (x.attempt : Run ω ε' (Except ε α)) :=
  ⟨hx.through, hx.keeps⟩

theorem mapFault {f : ε → ε'} (hx : Confined client x) : Confined client (x.mapFault f) :=
  ⟨hx.through, hx.keeps⟩

theorem compositional (client : Client) :
    Compositional fun _ _ (x _ : Run ω _ _) => Confined client x :=
  ⟨.pure, .fail, .log, .bind, .attempt⟩

/-- However often a run is tried again, it is confined if each attempt is. -/
theorem run (policy : RetryPolicy) {account : Fault.Account ε} {operation : Nat → Run ω ε α}
    (h : ∀ number, Confined client (operation number)) :
    Confined client (policy.run account operation) :=
  (compositional client).run policy (g := operation) h

theorem reporting {account : Fault.Account ε} {report : ε → Run ω Fault Unit}
    (hx : Confined client x) (hreport : ∀ e, Confined client (report e)) :
    Confined client (Manager.reporting account report x) :=
  (compositional client).reporting (y := x) (g := report) hx hreport

end Confined

/-! ## Runs that begin with a call -/

/-- The first thing that the run does is a call. -/
def Begins (client : Client) (call : Call) (x : Run ω ε α) : Prop :=
  ∀ s, ∃ t, (x s).1.trace = .call client call :: t

namespace Begins

variable {x : Run ω ε α}

theorem send (host : Host ω) (client : Client) (call : Call) :
    Begins client call (send host client call) := fun _ => ⟨[], rfl⟩

theorem bind {f : α → Run ω ε β} (hx : Begins client call x) : Begins client call (x >>= f) := by
  intro s
  obtain ⟨t, ht⟩ := hx s
  rcases hrun : x s with ⟨⟨u, r⟩, s'⟩
  rw [hrun] at ht
  obtain rfl : u = .call client call :: t := ht
  cases r with
  | ok a =>
    rw [bind_ok hrun rfl]
    exact ⟨_, rfl⟩
  | error e =>
    rw [bind_error hrun]
    exact ⟨t, rfl⟩

theorem attempt (hx : Begins client call x) :
    Begins client call (x.attempt : Run ω ε' (Except ε α)) := hx

theorem mapFault {f : ε → ε'} (hx : Begins client call x) : Begins client call (x.mapFault f) := hx

theorem run (policy : RetryPolicy) {account : Fault.Account ε} {operation : Nat → Run ω ε α}
    (h : Begins client call (operation 1)) : Begins client call (policy.run account operation) := by
  unfold RetryPolicy.run
  cases (policy.attempts - 1).toNat with
  | zero => exact h.attempt.bind
  | succ more => exact h.attempt.bind

theorem reporting {account : Fault.Account ε} {report : ε → Run ω Fault Unit}
    (hx : Begins client call x) : Begins client call (Manager.reporting account report x) :=
  hx.attempt.bind

end Begins

/-- With a client, a run that begins with a call and is confined changes nothing but the host's
state. -/
theorem bind_supplied {host : Host ω} {rest : Client → Run ω Fault α} {s ready : Session ω}
    {t : List Effect} (hbegins : Begins client call (rest client))
    (hconfined : Confined client (rest client))
    (hclient : Session.client host s = (⟨t, .ok client⟩, ready)) :
    ∃ u r world, (Session.client host >>= rest) s =
        (⟨t ++ .call client call :: u, r⟩, { ready with world }) ∧
      ∀ e ∈ u, e.IsThrough client := by
  obtain ⟨u, hfirst⟩ := hbegins ready
  have hthrough := hconfined.through ready
  have hkeeps := hconfined.keeps ready
  rcases hrun : rest client ready with ⟨⟨v, r⟩, ⟨world, shared, made, manager⟩⟩
  rw [hrun] at hfirst hthrough hkeeps
  obtain rfl : v = .call client call :: u := hfirst
  obtain ⟨rfl, rfl, rfl⟩ : shared = ready.shared ∧ made = ready.made ∧ manager = ready.manager := by
    simpa only [holders, Prod.mk.injEq] using hkeeps
  exact ⟨u, r, world, bind_ok hclient hrun, (List.forall_mem_cons.mp hthrough).2⟩

namespace Manager

section

variable (p : Platform ω) (cluster : Cluster)

theorem confined_failed (object : String) (e : StepFault) :
    Confined client (failed p cluster object e) := by
  refine ⟨fun s => ?_, fun s => ?_⟩
  · rw [failed_eq]
    exact List.forall_mem_singleton.mpr trivial
  · rw [failed_eq]

theorem confined_create (ns : String) (body : StatefulSet) :
    Confined client (Session.create p.host client ns body) := by
  refine (Confined.send p.host _).bind fun answer => ?_
  cases answer with
  | none => exact .fail _
  | some created => exact (Confined.log _).bind fun _ => .pure created

theorem confined_adopt (id : Identity) : Confined client (adopt p client cluster id) := by
  refine (Confined.send p.host _).mapFault.bind fun answer => ?_
  cases answer with
  | none => exact .fail _
  | some current => exact ((Confined.send p.host _).bind fun _ => .log _).mapFault

theorem confined_rescale (replicas : Int) (s : StatefulSet) :
    Confined client (rescale p client replicas s) :=
  ((Confined.send p.host _).bind fun answer => (Confined.log _).bind fun _ => .pure answer).mapFault

theorem confined_scaleThrough (replicas : Int) (s : StatefulSet) :
    Confined client (scaleThrough p client cluster replicas s) := by
  refine .bind (.reporting (.run _ fun number => ?_) (confined_failed p cluster _))
    fun updated => (Confined.log _).bind fun _ => .pure updated
  split
  · exact confined_rescale p replicas s
  · refine (Confined.log _).bind fun _ => (Confined.send p.host _).mapFault.bind fun answer => ?_
    cases answer with
    | none => exact .fail _
    | some current => exact confined_rescale p replicas current

end

/-! ## Operations -/

/-- What a manager can be asked for. What is to be scaled or repaired was read before. -/
inductive Operation where
  | create (cluster : Cluster) (role : Role) (status : Option RoleStatus) (native : Option Bool)
  | scale (cluster : Cluster) (replicas : Int) (s : StatefulSet)
  | repair (cluster : Cluster) (role : Option Role) (s : StatefulSet)
  | delete (id : Identity)

namespace Operation

/-- What an operation gives back. -/
abbrev Answer : Operation → Type
  | create .. => StatefulSet × Option RoleStatus
  | scale .. => Option StatefulSet
  | repair .. => Unit
  | delete .. => Unit

/-- What an operation does before it needs a client, and the first call that it then comes to, if it
comes to one. -/
def opening (catalog : Catalog) (settings : Settings) : Operation → Traced Effect Fault (Option Call)
  | create cluster role status native => do
    let body ← Synthesis.build catalog (.ok settings) cluster role status 0 native
    return some (.create cluster.ns body)
  | scale _ replicas s => return some (rescaleCall replicas s)
  | repair cluster role s =>
    if needsNothing cluster role s then return none
    else do
      Traced.log [repairingLog cluster s.identity]
      return some (.read s.identity)
  | delete id => return some (.delete id)

end Operation

/-- Does what a manager is asked for. -/
def perform (p : Platform ω) : (operation : Operation) → Run ω Fault operation.Answer
  | .create cluster role status native => do
    let (status, outcome) ← (create p cluster role native).holding status
    Act.ofExcept (outcome.map (·, status))
  | .scale cluster replicas s => do Act.ofExcept (← scale p cluster replicas s).outcome
  | .repair cluster role s => repair p cluster role s
  | .delete id => delete p id

section

variable {p : Platform ω} {σ : Session ω} {t : List Effect} {f : Fault}

section

variable {catalog : Catalog} {settings : Settings} {cluster : Cluster} {role : Role}
  {status : Option RoleStatus} {native : Option Bool}

theorem opening_built {body : StatefulSet}
    (h : Synthesis.build catalog (.ok settings) cluster role status 0 native = ⟨t, .ok body⟩) :
    Operation.opening catalog settings (.create cluster role status native) =
      ⟨t, .ok (some (.create cluster.ns body))⟩ := by
  have hopening : Operation.opening catalog settings (.create cluster role status native) = _ :=
    Traced.bind_of_ok (congrArg Traced.result h)
  rw [hopening, h]
  exact congrArg (Traced.mk · _) (List.append_nil t)

theorem opening_unbuilt
    (h : Synthesis.build catalog (.ok settings) cluster role status 0 native = ⟨t, .error f⟩) :
    Operation.opening catalog settings (.create cluster role status native) = ⟨t, .error f⟩ := by
  have hopening : Operation.opening catalog settings (.create cluster role status native) = _ :=
    Traced.bind_of_error (congrArg Traced.result h)
  rw [hopening, h]

theorem opening_idle {role : Option Role} {s : StatefulSet}
    (h : needsNothing cluster role s = true) :
    Operation.opening catalog settings (.repair cluster role s) = ⟨[], .ok none⟩ := if_pos h

theorem opening_repair {role : Option Role} {s : StatefulSet}
    (h : needsNothing cluster role s = false) :
    Operation.opening catalog settings (.repair cluster role s) =
      ⟨[.log (repairingLog cluster s.identity)], .ok (some (.read s.identity))⟩ :=
  if_neg (ne_true_of_eq_false h)

end

/-- The opening does nothing but ask the catalog and write to the log. -/
theorem opening_quiet (catalog : Catalog) (settings : Settings) (operation : Operation) :
    Quiet (operation.opening catalog settings).trace ∧
      (operation.opening catalog settings).loads = [] := by
  cases operation with
  | create cluster role status native =>
    have hquiet := Synthesis.build_quiet catalog (.ok settings) cluster role status 0 native
    have hloads :=
      (Synthesis.follows_build catalog (.ok settings) cluster role status 0 native).loads
    rcases hbuild : Synthesis.build catalog (.ok settings) cluster role status 0 native with
      ⟨t, f | body⟩
    · rw [hbuild] at hquiet hloads
      rw [opening_unbuilt hbuild]
      exact ⟨hquiet, hloads⟩
    · rw [hbuild] at hquiet hloads
      rw [opening_built hbuild]
      exact ⟨hquiet, hloads⟩
  | repair cluster role s =>
    cases hneeds : needsNothing cluster role s with
    | true =>
      rw [opening_idle hneeds]
      exact ⟨⟨rfl, rfl⟩, rfl⟩
    | false =>
      rw [opening_repair hneeds]
      exact ⟨⟨rfl, rfl⟩, rfl⟩
  | scale | delete => exact ⟨⟨rfl, rfl⟩, rfl⟩

/-- What follows on what the server created. -/
def putOnRecord (role : Role) (status : Option RoleStatus) (created : StatefulSet) :
    Run ω Fault (StatefulSet × Option RoleStatus) := do
  Session.log (implementedLog role created)
  return (created, status.map fun s => { s with statefulSet := created.metadata.name })

theorem perform_create (p : Platform ω) (cluster : Cluster) (role : Role)
    (status : Option RoleStatus) (native : Option Bool) :
    perform p (.create cluster role status native) =
      createBuilt p cluster role status native >>= putOnRecord role status := by
  funext σ
  rcases hbuilt : createBuilt p cluster role status native σ with ⟨⟨t, f | created⟩, σ'⟩
  · rw [bind_error hbuilt, ← List.append_nil t]
    exact bind_ok (holding_eq (create_of_error hbuilt)) rfl
  · have hrecorded : putOnRecord role status created σ' = _ := bind_ok (emit_eq _) (pure_eq _)
    rw [bind_ok hbuilt hrecorded, ← List.append_nil (t ++ _)]
    exact bind_ok (holding_eq (create_of_ok hbuilt)) rfl

theorem perform_scale {cluster : Cluster} {replicas : Int} {s : StatefulSet} {σ' : Session ω}
    {copy : StatefulSet} {outcome : Except Fault (Option StatefulSet)}
    (h : (scale p cluster replicas s : Run ω Fault Scaled) σ = (⟨t, .ok ⟨copy, outcome⟩⟩, σ')) :
    perform p (.scale cluster replicas s) σ = (⟨t, outcome⟩, σ') := by
  rw [← List.append_nil t]
  exact bind_ok h rfl

/-- An operation ends with its opening, or comes by a client and goes on with its first call. -/
theorem perform_cases (p : Platform ω) (operation : Operation) (σ : Session ω) :
    (∃ t f, operation.opening p.catalog p.settings = ⟨t, .error f⟩ ∧
      perform p operation σ = (⟨t, .error f⟩, σ)) ∨
    (∃ t a, operation.opening p.catalog p.settings = ⟨t, .ok none⟩ ∧
      perform p operation σ = (⟨t, .ok a⟩, σ)) ∨
    ∃ t first, ∃ rest : Client → Run ω Fault operation.Answer,
      operation.opening p.catalog p.settings = ⟨t, .ok (some first)⟩ ∧
      (∀ client, Begins client first (rest client)) ∧ (∀ client, Confined client (rest client)) ∧
      ∀ u r σ', (Session.client p.host >>= rest) σ = (⟨u, r⟩, σ') →
        perform p operation σ = (⟨t ++ u, r⟩, σ') := by
  cases operation with
  | create cluster role status native =>
    rcases hbuild : Synthesis.build p.catalog (.ok p.settings) cluster role status 0 native with
      ⟨t, f | body⟩
    · refine .inl ⟨t, f, opening_unbuilt hbuild, ?_⟩
      rw [perform_create]
      exact bind_error (bind_error (congrArg (·, σ) hbuild))
    · let rest (client : Client) : Run ω Fault (StatefulSet × Option RoleStatus) :=
        reporting StepFault.account (failed p cluster s!"for role {role.id}")
          (attemptOnce p client cluster.ns body) >>= putOnRecord role status
      refine .inr (.inr ⟨t, _, rest, opening_built hbuild, fun client => ?_, fun client => ?_,
        fun u r σ' hrest => ?_⟩)
      · exact (Begins.run _ (Begins.send _ _ _).bind.mapFault).reporting.bind
      · exact (Confined.reporting (.run _ fun _ => (confined_create p _ _).mapFault)
          (confined_failed p cluster _)).bind fun created => (Confined.log _).bind fun _ => .pure _
      · rw [perform_create, createBuilt, bind_assoc]
        refine bind_ok (congrArg (·, σ) hbuild) ?_
        rw [bind_assoc]
        exact hrest
  | scale cluster replicas s =>
    refine .inr (.inr ⟨[], _, (scaleThrough p · cluster replicas s), rfl, fun client => ?_,
      fun client => confined_scaleThrough p cluster replicas s, fun u r σ' hrest => ?_⟩)
    · have hfirst : Begins client (rescaleCall replicas s) (rescale p client replicas s) :=
        (Begins.send _ _ _).bind.mapFault
      exact (Begins.run _ hfirst).reporting.bind
    · rcases hclient : Session.client p.host σ with ⟨⟨t, f | client⟩, ready⟩
      · cases hrest.symm.trans (bind_error hclient)
        exact perform_scale (scale_error hclient)
      · rcases hthrough : scaleThrough p client cluster replicas s ready with ⟨⟨v, outcome⟩, σ''⟩
        cases hrest.symm.trans (bind_ok hclient hthrough)
        exact perform_scale (t := t ++ v) (scale_ok hclient hthrough)
  | repair cluster role s =>
    cases hneeds : needsNothing cluster role s with
    | true => exact .inr (.inl ⟨[], (), opening_idle hneeds, repair_idle hneeds⟩)
    | false =>
      refine .inr (.inr ⟨_, _, (bringBack p · cluster s.identity), opening_repair hneeds,
        fun client => ?_, fun client => ?_, fun u r σ' hrest => repair_eq hneeds hrest⟩)
      · exact (Begins.run _ (Begins.send _ _ _).mapFault.bind).reporting
      · exact .reporting (.run _ fun _ => confined_adopt p cluster _) (confined_failed p cluster _)
  | delete id =>
    refine .inr (.inr ⟨[], _, _, rfl, fun client => ?_, fun client => ?_,
      fun u r σ' hrest => hrest⟩)
    · exact (Begins.run _ (Begins.send _ _ _).bind).reporting
    · exact .reporting (.run _ fun _ => (Confined.send _ _).bind fun _ => .log _) fun f => .log _

end

end Manager
end StatefulRoles
