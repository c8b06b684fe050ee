import StatefulRoles.Proofs.Manager.Operation
/-!
# Operations and what becomes of events

A manager reports what it does to its recorder, and the recorder may have a client or none, be told
to keep events to itself, or fail at every event that it writes. Two runs of one operation that
differ in nothing else are compared (`Alike`): all that could tell them apart is an event, and a
manager gives none of its reports a reason.

Results:
* `Alike.bind`, `Alike.run`: two runs are alike if their parts are, however often they are tried
  again.
* `Recorder.record_eq`: what the recorder does about a report.
* `recording_harmless`: what becomes of events never changes an operation, nor does a report that is
  put on record change how the recorder ends.
-/
namespace StatefulRoles

/-- The call puts an event on record. -/
def Call.IsEvent : Call → Prop
  | .createEvent .. => True
  | _ => False

/-- An event is put on record, or at least that is tried. -/
def Effect.IsEvent : Effect → Prop
  | .call _ c => c.IsEvent
  | _ => False

/-- Two platforms with the same server, which differ at most in whether events are enabled, on whose
behalf they are written, when, and what comes of writing them. -/
structure Platform.SameButEvents {ω : Type} (p q : Platform ω) : Prop where
  catalog : q.catalog = p.catalog
  settings : q.settings = { p.settings with
    eventsEnabled := q.settings.eventsEnabled
    eventComponent := q.settings.eventComponent }
  answer : ∀ call world, ¬ call.IsEvent → q.host.answer call world = p.host.answer call world
  load : q.host.load = p.host.load
  breaks : q.host.breaks = p.host.breaks
  depth : q.host.depth = p.host.depth

/-- Two sessions that differ at most in the client of the recorder. -/
structure Session.SameButRecorder {ω : Type} (s t : Session ω) : Prop where
  world : t.world = s.world
  shared : t.shared = s.shared
  made : t.made = s.made
  client : t.manager.client = s.manager.client

open Act Session

variable {ω ε ε' α β : Type}

/-- A trace without calls is one without events. -/
theorem eventless_of_calls {t : List Effect} (h : t.filterMap Effect.call? = []) :
    ∀ e ∈ t, ¬ e.IsEvent := by
  intro e he hevent
  cases e with
  | call client c =>
    have hcall := List.filterMap_eq_nil_iff.mp h _ he
    cases hcall
  | log | lookup | load => exact hevent

theorem Session.SameButRecorder.refl (s : Session ω) : s.SameButRecorder s := ⟨rfl, rfl, rfl, rfl⟩

/-! ## Runs that are alike -/

/-- From sessions that differ at most in the recorder's client, the runs do the same things, which
events are not among, and end the same way, again in such sessions. -/
structure Alike (x y : Run ω ε α) : Prop where
  same : ∀ {s t : Session ω}, s.SameButRecorder t → (y t).1 = (x s).1
  after : ∀ {s t : Session ω}, s.SameButRecorder t → (x s).2.SameButRecorder (y t).2
  eventless : ∀ s, ∀ e ∈ (x s).1.trace, ¬ e.IsEvent

namespace Alike

variable {x y : Run ω ε α}

/-- A run that leaves the session alone is like itself. -/
theorem lift {z : Traced Effect ε α} (h : ∀ e ∈ z.trace, ¬ e.IsEvent) :
    Alike (Act.lift z : Run ω ε α) (Act.lift z) :=
  ⟨fun _ => rfl, id, fun _ => h⟩

theorem pure (a : α) : Alike (Pure.pure a : Run ω ε α) (Pure.pure a) :=
  lift (List.forall_mem_nil _)

theorem ofExcept (r : Except ε α) : Alike (Act.ofExcept r : Run ω ε α) (Act.ofExcept r) :=
  lift (List.forall_mem_nil _)

theorem fail (e : ε) : Alike (Act.fail e : Run ω ε α) (Act.fail e) := ofExcept _

theorem log (line : Log) : Alike (Session.log line : Run ω ε Unit) (Session.log line) :=
  lift (List.forall_mem_singleton.mpr not_false)

theorem modify {f : Session ω → Session ω}
    (h : ∀ {s t : Session ω}, s.SameButRecorder t → (f s).SameButRecorder (f t)) :
    Alike (Act.modify f : Run ω ε Unit) (Act.modify f) :=
  ⟨fun _ => rfl, h, fun _ => List.forall_mem_nil _⟩

theorem send {p q : Platform ω} (hpq : p.SameButEvents q) (client : Client) (call : Call)
    (h : ¬ call.IsEvent) :
    Alike (Session.send p.host client call) (Session.send q.host client call) := by
  have hanswer {s t : Session ω} (hst : s.SameButRecorder t) :
      q.host.answer call t.world = p.host.answer call s.world := by
    rw [hst.world]
    exact hpq.answer call s.world h
  refine ⟨fun hst => ?_, fun hst => ?_, fun _ => List.forall_mem_singleton.mpr h⟩
  · simp only [Session.send, hanswer hst]
  · simp only [Session.send, hanswer hst]
    exact ⟨rfl, hst.shared, hst.made, hst.client⟩

/-- Trying to load a configuration is no event. -/
theorem load (host : Host ω) (loader : Loader) :
    Alike (Session.load host loader) (Session.load host loader) := by
  refine ⟨fun hst => ?_, fun hst => ?_, fun _ => List.forall_mem_singleton.mpr not_false⟩
  · simp only [Session.load, hst.world]
  · simp only [Session.load, hst.world]
    exact ⟨rfl, hst.shared, hst.made, hst.client⟩

theorem newClient : Alike (Session.newClient : Run ω ε Client) Session.newClient := by
  refine ⟨fun hst => ?_, fun hst => ?_, fun _ => List.forall_mem_nil _⟩
  · simp only [Session.newClient, hst.made]
  · exact ⟨hst.world, hst.shared, congrArg (· + 1) hst.made, hst.client⟩

/-- What a run reads from its session may be told from what another one reads from its own only by
the recorder's client. -/
theorem get_bind {f g : Session ω → Run ω ε α}
    (h : ∀ {s t : Session ω}, s.SameButRecorder t → Alike (f s) (g t)) :
    Alike (Act.get >>= f) (Act.get >>= g) :=
  ⟨fun hst => (h hst).same hst, fun hst => (h hst).after hst,
    fun s => (h (.refl s)).eventless s⟩

/-- Two runs of two parts are alike if both parts are. -/
theorem bind {f g : α → Run ω ε β} (hxy : Alike x y) (hfg : ∀ a, Alike (f a) (g a)) :
    Alike (x >>= f) (y >>= g) := by
  -- how the two runs go on from where the first parts leave them
  have hruns {s t : Session ω} (hst : s.SameButRecorder t) :
      ((y >>= g) t).1 = ((x >>= f) s).1 ∧ ((x >>= f) s).2.SameButRecorder ((y >>= g) t).2 := by
    have hsame := hxy.same hst
    have hafter := hxy.after hst
    rcases hx : x s with ⟨⟨u, r⟩, s'⟩
    rcases hy : y t with ⟨z, t'⟩
    rw [hx, hy] at hsame hafter
    obtain rfl : z = ⟨u, r⟩ := hsame
    cases r with
    | ok a =>
      have hrest : (g a t').1 = (f a s').1 := (hfg a).same hafter
      rw [bind_ok hx rfl, bind_ok hy rfl]
      simp only [hrest]
      exact ⟨trivial, (hfg a).after hafter⟩
    | error e =>
      rw [bind_error hx, bind_error hy]
      exact ⟨rfl, hafter⟩
  refine ⟨fun hst => (hruns hst).1, fun hst => (hruns hst).2, fun s => ?_⟩
  have hfirst := hxy.eventless s
  rcases hx : x s with ⟨⟨u, r⟩, s'⟩
  rw [hx] at hfirst
  cases r with
  | ok a =>
    rw [bind_ok hx rfl]
    exact List.forall_mem_append.mpr ⟨hfirst, (hfg a).eventless s'⟩
  | error e =>
    rw [bind_error hx]
    exact hfirst

theorem attempt (h : Alike x y) :
    Alike (x.attempt : Run ω ε' (Except ε α)) (y.attempt : Run ω ε' (Except ε α)) := by
  refine ⟨fun hst => ?_, h.after, h.eventless⟩
  simp only [Act.attempt, h.same hst]

theorem mapFault {f : ε → ε'} (h : Alike x y) : Alike (x.mapFault f) (y.mapFault f) := by
  refine ⟨fun hst => ?_, h.after, h.eventless⟩
  simp only [Act.mapFault, h.same hst]

theorem compositional : Compositional fun _ _ (x y : Run ω _ _) => Alike x y :=
  ⟨.pure, .fail, .log, .bind, .attempt⟩

/-- However often two runs are tried again, they are alike if each attempt is like the other's. -/
theorem run (policy : RetryPolicy) {account : Fault.Account ε} {f g : Nat → Run ω ε α}
    (h : ∀ number, Alike (f number) (g number)) :
    Alike (policy.run account f) (policy.run account g) :=
  compositional.run policy h

theorem reporting {account : Fault.Account ε} {f g : ε → Run ω Fault Unit} (hxy : Alike x y)
    (hfg : ∀ e, Alike (f e) (g e)) :
    Alike (Manager.reporting account f x) (Manager.reporting account g y) :=
  compositional.reporting hxy hfg

/-! ## Clients -/

theorem loadConfiguration (host : Host ω) :
    Alike (Session.loadConfiguration host) (Session.loadConfiguration host) := by
  refine (load host .cluster).bind fun loaded => ?_
  cases loaded with
  | ok => exact log _
  | error reason =>
    refine (load host .user).bind fun loaded => ?_
    cases loaded with
    | ok => exact log _
    | error reason => exact (log _).bind fun _ => fail _

theorem sharedClient (host : Host ω) :
    Alike (Session.sharedClient host) (Session.sharedClient host) := by
  unfold Session.sharedClient
  refine get_bind fun {s t} hst => ?_
  rw [hst.shared]
  cases s.shared with
  | some client => exact pure client
  | none =>
    refine (loadConfiguration host).bind fun _ => newClient.bind fun client =>
      bind (modify ?_) fun _ => pure client
    intro s t hst
    exact ⟨hst.world, rfl, hst.made, hst.client⟩

/-- A manager comes by the same client, whoever its recorder speaks to the server through. -/
theorem client {p q : Platform ω} (h : p.SameButEvents q) :
    Alike (Session.client p.host) (Session.client q.host) := by
  -- no call is needed for it, so that the two hosts do the same
  have hhosts : Session.client q.host = Session.client p.host := by
    have htries : q.host.tries = p.host.tries := by
      unfold Host.tries
      rw [h.load, h.breaks]
    unfold Session.client Session.sharedClient Session.loadConfiguration Session.load
    rw [htries]
  rw [hhosts]
  unfold Session.client
  refine get_bind fun {s t} hst => ?_
  rw [hst.client]
  cases s.manager.client with
  | some client => exact pure client
  | none =>
    refine (sharedClient p.host).bind fun client => bind (modify ?_) fun _ => pure client
    intro s t hst
    exact ⟨hst.world, hst.shared, hst.made, rfl⟩

end Alike

/-! ## Operations -/

namespace Manager

section

variable {p q : Platform ω} (h : p.SameButEvents q) (client : Client) (cluster : Cluster)

include h

/-- Settings that differ only in what concerns events make the same manifest. -/
theorem build_same (role : Role) (status : Option RoleStatus) (native : Option Bool) :
    Synthesis.build q.catalog (.ok q.settings) cluster role status 0 native =
      Synthesis.build p.catalog (.ok p.settings) cluster role status 0 native := by
  rw [h.catalog, h.settings]
  rfl

omit h in
/-- A failed step is only logged. -/
theorem alike_failed (object : String) (e : StepFault) :
    Alike (failed p cluster object e) (failed q cluster object e) := by
  have hfailed (p : Platform ω) :
      failed p cluster object e =
        Session.log (failedLine cluster e.step.verb object e.fault) :=
    funext fun s => failed_eq p cluster object e
  rw [hfailed p, hfailed q]
  exact .log _

theorem alike_created (ns : String) (body : StatefulSet) :
    Alike (Session.create p.host client ns body) (Session.create q.host client ns body) := by
  refine (Alike.send h client (.create ns body) not_false).bind fun answer => ?_
  cases answer with
  | none => exact .fail _
  | some created => exact (Alike.log _).bind fun _ => .pure created

theorem alike_rescale (replicas : Int) (s : StatefulSet) :
    Alike (rescale p client replicas s) (rescale q client replicas s) :=
  ((Alike.send h client (.replace _ _) not_false).bind fun answer =>
    (Alike.log _).bind fun _ => .pure answer).mapFault

theorem alike_rescaleCurrent (replicas : Int) (id : Identity) :
    Alike (rescaleCurrent p client replicas id) (rescaleCurrent q client replicas id) := by
  refine (Alike.log _).bind fun _ =>
    (Alike.send h client (.read id) not_false).mapFault.bind fun answer => ?_
  cases answer with
  | none => exact .fail _
  | some current => exact alike_rescale h client replicas current

theorem alike_scaleThrough (replicas : Int) (s : StatefulSet) :
    Alike (scaleThrough p client cluster replicas s)
      (scaleThrough q client cluster replicas s) := by
  unfold scaleThrough
  rw [h.depth]
  refine .bind (.reporting (.run _ fun number => ?_) (alike_failed cluster _))
    fun updated => (Alike.log _).bind fun _ => .pure updated
  by_cases hfirst : number = 1
  · rw [if_pos hfirst, if_pos hfirst]
    exact alike_rescale h client replicas s
  · rw [if_neg hfirst, if_neg hfirst]
    exact alike_rescaleCurrent h client replicas s.identity

theorem alike_adopt (id : Identity) :
    Alike (adopt p client cluster id) (adopt q client cluster id) := by
  refine (Alike.send h client (.read id) not_false).mapFault.bind fun answer => ?_
  cases answer with
  | none => exact .fail _
  | some current =>
    exact ((Alike.send h client (.patch _ _) not_false).bind fun _ => .log _).mapFault

theorem alike_createBuilt (role : Role) (status : Option RoleStatus) (native : Option Bool) :
    Alike (createBuilt p cluster role status native)
      (createBuilt q cluster role status native) := by
  unfold createBuilt
  rw [build_same h]
  refine .bind (.lift ?_) fun body => (Alike.client h).bind fun client => ?_
  · exact eventless_of_calls (Synthesis.build_quiet p.catalog _ cluster role status 0 native).calls
  · exact .reporting (.run _ fun _ => (alike_created h client _ body).mapFault)
      (alike_failed cluster _)

theorem alike_create (role : Role) (status : Option RoleStatus) (native : Option Bool) :
    Alike ((create p cluster role native).holding status :
        Run ω ε (Option RoleStatus × Except Fault StatefulSet))
      ((create q cluster role native).holding status) := by
  rw [holding_create, holding_create]
  refine (alike_createBuilt h cluster role status native).attempt.bind fun r => ?_
  cases r with
  | error f => exact .pure _
  | ok created => exact (Alike.log _).bind fun _ => .pure _

theorem alike_scale (replicas : Int) (s : StatefulSet) :
    Alike (scale p cluster replicas s : Run ω ε Scaled) (scale q cluster replicas s) := by
  refine (Alike.client h).attempt.bind fun r => ?_
  cases r with
  | error f => exact .pure _
  | ok client =>
    exact (alike_scaleThrough h client cluster replicas s).attempt.bind fun _ => .pure _

theorem alike_repair (role : Option Role) (s : StatefulSet) :
    Alike (repair p cluster role s) (repair q cluster role s) := by
  unfold repair
  split
  · exact .pure ()
  · have hinfo (p : Platform ω) (message : String) :
        (Recorder.info p.host p.settings cluster Recorder.logOnly message : Run ω Fault Unit) =
          Session.log (.info s!"[{cluster.title}] {message}") :=
      funext fun s => Recorder.info_logOnly p.host p.settings cluster message
    simp only [hinfo]
    refine (Alike.log _).bind fun _ => (Alike.client h).bind fun client => ?_
    exact .reporting (.run _ fun _ => alike_adopt h client cluster _) (alike_failed cluster _)

theorem alike_delete (id : Identity) : Alike (delete p id) (delete q id) := by
  refine (Alike.client h).bind fun client => .reporting (.run _ fun _ => ?_) fun f => .log _
  exact (Alike.send h client (.delete id) not_false).bind fun _ => .log _

theorem alike_perform (operation : Operation) :
    Alike (perform p operation) (perform q operation) := by
  cases operation with
  | create cluster role status native =>
    exact (alike_create h cluster role status native).bind fun _ => .ofExcept _
  | scale cluster replicas s =>
    exact (alike_scale h cluster replicas s).bind fun scaled => .ofExcept scaled.outcome
  | repair cluster role s => exact alike_repair h cluster role s
  | delete id => exact alike_delete h id

end

end Manager

/-! ## Reports that are put on record -/

namespace Recorder

open Synthesis (fault?)

variable {host : Host ω} {settings : Settings} {cluster : Cluster} {s : Session ω}

/-- The client that an event is written through, if there is one and events are enabled. -/
def writer? (settings : Settings) (manager : Manager) : Option Client :=
  if settings.eventsEnabled then manager.recorder else none

/-- What is done to write an event through a client: one call, and a warning if it fails. -/
def writing (host : Host ω) (cluster : Cluster) (event : Event) (world : ω) (client : Client) :
    List Effect :=
  .call client (.createEvent cluster.ns event) ::
    (fault? (host.answer (.createEvent cluster.ns event) world).1).toList.map
      (.log <| unrecorded cluster ·)

theorem writing_calls (event : Event) (world : ω) (client : Client) :
    (writing host cluster event world client).filterMap Effect.call? =
      [(client, .createEvent cluster.ns event)] := by
  unfold writing
  cases fault? (host.answer (.createEvent cluster.ns event) world).1 <;> rfl

theorem writing_logs (event : Event) (world : ω) (client : Client) :
    (writing host cluster event world client).filterMap Effect.log? =
      (fault? (host.answer (.createEvent cluster.ns event) world).1).toList.map
        (unrecorded cluster) := by
  unfold writing
  cases fault? (host.answer (.createEvent cluster.ns event) world).1 <;> rfl

/-- Writing an event never fails. -/
theorem write_eq (host : Host ω) (settings : Settings) (client : Client) (cluster : Cluster)
    (s : Session ω) (type reason message : String) :
    let event := Event.about cluster type reason message settings.eventComponent (host.now s.world)
    ∃ s', (write host settings client cluster type reason message : Run ω ε Unit) s =
      (⟨writing host cluster event s.world client, .ok ()⟩, s') := by
  intro event
  unfold write writing
  rw [get_bind]
  rcases hanswer : host.answer (.createEvent cluster.ns event) s.world with ⟨f | object, world⟩
  · have hcreate : createEvent host client cluster.ns event s = _ :=
      bind_error (send_eq client hanswer)
    exact ⟨{ s with world }, attempt_bind hcreate (emit_eq _)⟩
  · have hcreate : createEvent host client cluster.ns event s = _ :=
      bind_ok (send_eq client hanswer) (pure_eq ())
    exact ⟨{ s with world }, attempt_bind hcreate (pure_eq ())⟩

/-- What the recorder does about a report that gives a reason. It never fails either. -/
theorem record_eq (host : Host ω) (settings : Settings) (cluster : Cluster) (s : Session ω)
    (type message : String) {reason : String} (h : reason ≠ logOnly) :
    let event := Event.about cluster type reason message settings.eventComponent (host.now s.world)
    ∃ s', (record host settings cluster type reason message : Run ω ε Unit) s =
      (⟨(writer? settings s.manager).toList.flatMap (writing host cluster event s.world), .ok ()⟩,
        s') := by
  intro event
  have hreason : decide (reason = logOnly) = false := decide_eq_false h
  unfold record writer?
  rw [get_bind, hreason]
  cases s.manager.recorder with
  | none => exact ⟨s, by rw [ite_self]; rfl⟩
  | some client =>
    cases settings.eventsEnabled with
    | false => exact ⟨s, rfl⟩
    | true =>
      obtain ⟨s', hwrite⟩ := write_eq host settings client cluster s type reason message
      exact ⟨s', hwrite.trans (by rw [if_pos rfl, Option.toList_some, List.flatMap_singleton])⟩

/-- A report that is put on record as an event. It is logged first. If the recorder has a client and
events are enabled, there is one try to write the event, and if that fails, it is logged with a
warning. Whatever comes of it, the recorder ends well. -/
structure Reported (host : Host ω) (settings : Settings) (cluster : Cluster) (s : Session ω)
    (line : Log) (event : Event) (run : Traced Effect ε Unit) : Prop where
  ends : run.result = .ok ()
  first : run.trace.head? = some (.log line)
  calls : run.calls =
    (writer? settings s.manager).toList.map (·, .createEvent cluster.ns event)
  logs : run.logs = line :: (run.calls.filterMap fun (_, call) =>
    fault? (host.answer call s.world).1).map fun f =>
      ⟨.warning, s!"[EVENTS] Failed to record event for {cluster.ns}/{cluster.name}: {f.message}"⟩

/-- What is logged about an event that could not be written. -/
theorem unrecorded_eq (cluster : Cluster) : unrecorded cluster = fun f =>
    ⟨.warning,
      s!"[EVENTS] Failed to record event for {cluster.ns}/{cluster.name}: {f.message}"⟩ := by
  funext f
  simp only [unrecorded, Log.warning, Cluster.title, toString, String.append_assoc]

theorem reported_record (line : Log) (type message : String) {reason : String}
    (h : reason ≠ logOnly) :
    Reported host settings cluster s line
      (Event.about cluster type reason message settings.eventComponent (host.now s.world))
      ((do log line; record host settings cluster type reason message : Run ω ε Unit) s).1 := by
  obtain ⟨s', hrecord⟩ := record_eq host settings cluster s type message h
  have hrun : (do
      log line
      record host settings cluster type reason message : Run ω ε Unit) s = _ :=
    bind_ok (emit_eq _) hrecord
  rw [hrun]
  generalize Event.about cluster type reason message settings.eventComponent _ = event
  have hcalls : ((writer? settings s.manager).toList.flatMap
      (writing host cluster event s.world)).filterMap Effect.call? =
        (writer? settings s.manager).toList.map (·, .createEvent cluster.ns event) := by
    cases writer? settings s.manager with
    | none => rfl
    | some client => simp [writing_calls]
  have hlogs : ((writer? settings s.manager).toList.flatMap
      (writing host cluster event s.world)).filterMap Effect.log? =
        (((writer? settings s.manager).toList.map (·, .createEvent cluster.ns event)).filterMap
          fun (_, call) => fault? (host.answer call s.world).1).map (unrecorded cluster) := by
    cases writer? settings s.manager with
    | none => rfl
    | some client =>
      cases hfault : fault? (host.answer (.createEvent cluster.ns event) s.world).1 with
      | none => simp [writing_logs, hfault]
      | some f => simp [writing_logs, hfault]
  rw [← hcalls, unrecorded_eq] at hlogs
  exact ⟨rfl, rfl, hcalls, congrArg (line :: ·) hlogs⟩

end Recorder

namespace Manager

/-- **Recording is harmless.** Whatever an operation is and however the server answers it, nothing
of what becomes of events can be told from what the operation does and how it ends, and it writes
none: two runs of it are alike, and leave the same status of the role and the same copy of what was
scaled. A report that gives a reason is logged first, one try is made to write it as an event if the
recorder has a client and events are enabled, a warning is added exactly if that fails, and the
recorder ends well. -/
theorem recording_harmless :
    (∀ p q : Platform ω, p.SameButEvents q →
      (∀ operation, Alike (perform p operation) (perform q operation)) ∧
      (∀ cluster role status native,
        Alike ((create p cluster role native).holding status :
            Run ω ε (Option RoleStatus × Except Fault StatefulSet))
          ((create q cluster role native).holding status)) ∧
      ∀ cluster replicas s,
        Alike (scale p cluster replicas s : Run ω ε Scaled) (scale q cluster replicas s)) ∧
    ∀ (host : Host ω) (settings : Settings) (cluster : Cluster) (s : Session ω)
      (reason message : String), reason ≠ "" →
      Recorder.Reported host settings cluster s
        ⟨.info, s!"[{cluster.ns}/{cluster.name}] {message}"⟩
        (Event.about cluster Event.normal reason message settings.eventComponent (host.now s.world))
        (Recorder.info host settings cluster reason message s : Traced Effect ε Unit × _).1 ∧
      ∀ f : Fault,
        Recorder.Reported host settings cluster s
          ⟨.error, s!"[{cluster.ns}/{cluster.name}] {message}: {f.message}"⟩
          (Event.about cluster Event.warning reason s!"{message}: {f.message}"
            settings.eventComponent (host.now s.world))
          (Recorder.error host settings cluster f reason message s : Traced Effect ε Unit × _).1 := by
  refine ⟨fun p q h => ⟨alike_perform h, alike_create h, alike_scale h⟩, ?_⟩
  intro host settings cluster s reason message hreason
  refine ⟨?_, fun f => ?_⟩
  · have hline : (⟨.info, s!"[{cluster.ns}/{cluster.name}] {message}"⟩ : Log) =
        .info s!"[{cluster.title}] {message}" := by
      simp only [Log.info, Cluster.title, toString, String.append_assoc]
    rw [hline]
    exact Recorder.reported_record _ _ _ hreason
  · have hline : (⟨.error, s!"[{cluster.ns}/{cluster.name}] {message}: {f.message}"⟩ : Log) =
        .error s!"[{cluster.title}] {message}: {f.message}" := by
      simp only [Log.error, Cluster.title, toString, String.append_assoc]
    rw [hline]
    exact Recorder.reported_record _ _ _ hreason

/-- A host that has an answer to events and refuses everything else. -/
def refusingHost (answer : Except Fault (Option StatefulSet)) : Host Unit where
  answer
    | .createEvent .., _ => (answer, ())
    | _, _ => (.error (.api { status := some (.code 500) }), ())
  load _ _ := (.ok (), ())
  now _ := ""
  depth := 0

theorem recording_harmless_refused :
    let f : Fault := .foreign "ConnectionError" "reset"
    let cluster : Cluster := { name := "c", ns := "n", uid := "u", spec := { app := "db" } }
    let p : Platform Unit := ⟨refusingHost (.ok none), fun _ _ => .error .noConfiguration, {}⟩
    let q : Platform Unit :=
      ⟨refusingHost (.error f), p.catalog, { p.settings with eventsEnabled := false }⟩
    let s : Session Unit := { world := (), manager := { client := some ⟨0⟩ } }
    let mute : Session Unit := { s with manager := ⟨some ⟨0⟩, none⟩ }
    p.SameButEvents q ∧ s.SameButRecorder mute ∧
      (perform q (.delete ⟨"n", "db"⟩) mute).1 = (perform p (.delete ⟨"n", "db"⟩) s).1 ∧
      "Cluster" ≠ "" ∧
      (Recorder.info q.host p.settings cluster "Cluster" "scaled" s :
        Traced Effect Fault Unit × _).1.logs =
          [⟨.info, "[n/c] scaled"⟩,
            ⟨.warning, "[EVENTS] Failed to record event for n/c: reset"⟩] := by
  intro f cluster p q s mute
  have hpq : p.SameButEvents q := by
    refine ⟨rfl, rfl, fun call world hcall => ?_, rfl, rfl, rfl⟩
    cases call with
    | createEvent => exact absurd trivial hcall
    | _ => rfl
  have hs : s.SameButRecorder mute := ⟨rfl, rfl, rfl, rfl⟩
  have hreason : "Cluster" ≠ "" := by decide
  obtain ⟨hoperations, hreports⟩ := @recording_harmless Unit Fault
  obtain ⟨hinfo, -⟩ := hreports q.host p.settings cluster s "Cluster" "scaled" hreason
  refine ⟨hpq, hs, ((hoperations p q hpq).1 _).same hs, hreason, ?_⟩
  rw [hinfo.logs, hinfo.calls]
  rfl

end Manager
end StatefulRoles
