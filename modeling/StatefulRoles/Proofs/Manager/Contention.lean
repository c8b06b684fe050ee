import Mathlib.Logic.Function.Iterate
import StatefulRoles.Proofs.Manager.Scaling
import StatefulRoles.Proofs.Server
/-!
# Scaling among other writers

Scaling is safe against others who write the same stateful set. Its first attempt carries the
version of the copy that it was given, its second one that of a copy read in between, so that the
server accepts a replacement only of what the sent one was made from.

Results:
* `attempts_others`: the ways in which both attempts may go on a server that others write to.
* `scale_atomic`: nothing that others wrote is lost. Scaling that succeeds changes the number of
  replicas of what is kept and nothing else; scaling that fails changes nothing, and with a client
  it fails only if others wrote while it was tried again.
-/
namespace StatefulRoles.Manager

open Act Session

variable {server : Server} {replicas : Int} {s : StatefulSet}

/-! ## All or nothing -/

/-- Between two stores, what is kept was replaced by itself with another number of replicas. -/
structure Rescaled (replicas : Int) (before after : Store) : Prop where
  current : ∃ version, some version ∉ before.versions ∧
    after.current = { before.current with
      spec := { before.current.spec with replicas := some replicas }
      metadata := { before.current.metadata with resourceVersion := some version } }
  past : after.past = before.held

theorem Rescaled.write (server : Server) (replicas : Int) (store : Store) :
    Rescaled replicas store (server.write (store.current.withReplicas replicas) store) := by
  refine ⟨⟨server.next store.versions, server.next_fresh _, ?_⟩, rfl⟩
  have hid : store.current.identity = store.id := store.addressed _ List.mem_cons_self
  show (store.current.withReplicas replicas).keptAs store.id _ = _
  rw [← hid]
  exact StatefulSet.keptAs_identity _ _

/-- What scaling leaves, given what others have left when its last call arrives. -/
structure Atomic (replicas : Int) (before after : World)
    (outcome : Except Fault (Option StatefulSet)) : Prop where
  succeeded : ∀ answer, outcome = .ok answer →
    Rescaled replicas before.store after.store ∧ after.foreign = before.foreign ∧
      answer = some after.store.current
  failed : ∀ f, outcome = .error f → after = before

theorem Atomic.write (server : Server) (replicas : Int) (before : World) :
    let store := server.write (before.store.current.withReplicas replicas) before.store
    Atomic replicas before { before with store } (.ok (some store.current)) := by
  intro store
  refine ⟨?_, ?_⟩
  · intro answer h
    exact ⟨Rescaled.write server replicas before.store, rfl, (Except.ok.inj h).symm⟩
  · intro f h
    cases h

theorem Atomic.refuse (replicas : Int) (before : World) (f : Fault) :
    Atomic replicas before before (.error f) := by
  refine ⟨?_, fun _ _ => rfl⟩
  intro answer h
  cases h

/-! ## Scaling -/

/-- What the others have left when the last call of a run arrives, if the run changes nothing. -/
def arrival (server : Server) (w : World) (t : List Effect) : World :=
  server.others^[(t.filterMap Effect.call?).length] w

/-- Scaling goes through if the copy that it is given is kept when its first call arrives, or if no
one else writes between its read and its second replacement. -/
def Prevails (server : Server) (s : StatefulSet) (w : World) : Prop :=
  s = (server.others w).store.current ∨ w.foreign.getD 2 [] = []

/-- Both attempts, among other writers. -/
theorem attempts_others (catalog : Catalog) (settings : Settings) (client : Client)
    (replicas : Int) {σ : Session World} (hs : s ∈ σ.world.store.held) :
    let p : Platform World := ⟨server.host, catalog, settings⟩
    ∃ t r σ', (RetryPolicy.conflict p.host.depth).run StepFault.account
        (attempts p client replicas s) σ = (⟨t, r⟩, σ') ∧
      Atomic replicas (arrival server σ.world t) σ'.world (r.mapError StepFault.fault) ∧
      ((∃ answer, r = .ok answer) ↔ Prevails server s σ.world) := by
  intro p
  let w := server.others σ.world
  by_cases hfirst : s = w.store.current
  · -- what was given is kept: the first replacement goes through
    have h₁ : p.host.answer (rescaleCall replicas s) σ.world = _ :=
      Server.answer_fresh hs rfl hfirst
    refine ⟨_, _, _, attempts_ok h₁, ?_, iff_of_true ⟨_, rfl⟩ (.inl hfirst)⟩
    rw [hfirst]
    exact Atomic.write server replicas w
  · have h₁ : p.host.answer (rescaleCall replicas s) σ.world = _ :=
      Server.answer_stale hs rfl hfirst
    have h₂ : p.host.answer (.read s.identity) w = _ :=
      Server.answer_read (Server.mem_held_others hs)
    let read := (server.others w).store.current
    have hread : read ∈ (server.others w).store.held := List.mem_cons_self
    have hprevails : Prevails server s σ.world ↔
        (server.others (server.others w)).store.current = read := by
      rw [Server.current_others]
      -- the first two lists were written before the first call and before the read
      have hforeign : (server.others w).foreign.headD [] = σ.world.foreign.getD 2 [] := by
        show (σ.world.foreign.tail.tail).headD [] = _
        rcases σ.world.foreign with _ | ⟨_, _ | ⟨_, _ | ⟨_, _⟩⟩⟩ <;> rfl
      rw [hforeign]
      exact or_iff_right hfirst
    have hconflict := server.refusal_isConflict (s.withReplicas replicas)
    by_cases hsecond : read = (server.others (server.others w)).store.current
    · -- what was read is still kept: the second replacement goes through
      have h₃ : p.host.answer (rescaleCall replicas read) (server.others w) = _ :=
        Server.answer_fresh hread rfl hsecond
      refine ⟨_, _, _, attempts_again hconflict h₁ (rescaleCurrent_read h₂ (rescale_ok h₃)), ?_,
        iff_of_true ⟨_, rfl⟩ (hprevails.mpr hsecond.symm)⟩
      rw [hsecond]
      exact Atomic.write server replicas _
    · -- others wrote once more: both replacements are refused
      have h₃ : p.host.answer (rescaleCall replicas read) (server.others w) = _ :=
        Server.answer_stale hread rfl hsecond
      refine ⟨_, _, _, attempts_again hconflict h₁ (rescaleCurrent_read h₂ (rescale_error h₃)),
        Atomic.refuse replicas _ _, iff_of_false ?_ fun h => hsecond (hprevails.mp h).symm⟩
      rintro ⟨answer, h⟩
      cases h

/-- Around its attempts, scaling only writes to the log. -/
theorem scaleThrough_eq {p : Platform World} {client : Client} (cluster : Cluster)
    {σ σ' : Session World} {t : List Effect} {r : Except StepFault (Option StatefulSet)}
    (h : (RetryPolicy.conflict p.host.depth).run StepFault.account
      (attempts p client replicas s) σ = (⟨t, r⟩, σ')) :
    ∃ u, scaleThrough p client cluster replicas s σ =
        (⟨t ++ u, r.mapError StepFault.fault⟩, σ') ∧
      u.filterMap Effect.call? = [] := by
  cases r with
  | ok updated => exact ⟨_, bind_ok (reporting_ok h) (bind_ok (emit_eq _) (pure_eq updated)), rfl⟩
  | error e =>
    exact ⟨_, bind_error (reporting_error h (failed_eq p cluster s.identity.title e)),
      reported_calls _ _⟩

/-- **Nothing is lost.** Scaling a copy that the server once kept, while others write to it at any
time: if it succeeds, it has changed the number of replicas of what was kept when its last call
arrived, and nothing else of it; if it fails, it has changed nothing. With a client, it fails only
if others write between its read and its second replacement. -/
theorem scale_atomic {ε : Type} (server : Server) (catalog : Catalog) (settings : Settings)
    (cluster : Cluster) (replicas : Int) (s : StatefulSet) (session : Session World)
    (hs : s ∈ session.world.store.held) :
    let run : Traced Effect ε Scaled × Session World :=
      scale ⟨server.host, catalog, settings⟩ cluster replicas s session
    ∃ copy outcome, run.1.result = .ok ⟨copy, outcome⟩ ∧
      Atomic replicas (arrival server session.world run.1.trace) run.2.world outcome ∧
      ((∃ answer, outcome = .ok answer) ↔
        (∃ client, (Session.client server.host session).1.result = .ok client) ∧
          Prevails server s session.world) := by
  intro run
  have hworld : (Session.client server.host session).2.world = session.world :=
    client_world (fun _ _ => rfl) session
  rcases client_cases server.host session with
    ⟨t, client, ready, hclient, hquiet⟩ | ⟨t, f, ready, hclient, hquiet⟩
  · rw [hclient] at hworld
    have hready : ready.world = session.world := hworld
    rw [← hready] at hs
    obtain ⟨u, r, σ', hattempts, hatomic, hprevails⟩ :=
      attempts_others catalog settings client replicas hs
    obtain ⟨v, hthrough, hv⟩ := scaleThrough_eq cluster hattempts
    have hrun : run = _ := scale_ok hclient hthrough
    have harrival : arrival server session.world run.1.trace = arrival server ready.world u := by
      rw [hrun, hready]
      unfold arrival
      rw [List.filterMap_append, List.filterMap_append, hquiet.calls, hv, List.append_nil,
        List.nil_append]
    rw [harrival, hrun, hclient]
    refine ⟨_, _, rfl, hatomic, ?_⟩
    rw [← hready, ← hprevails]
    cases r with
    | ok answer => exact iff_of_true ⟨_, rfl⟩ ⟨⟨client, rfl⟩, answer, rfl⟩
    | error e =>
      refine iff_of_false ?_ ?_
      · rintro ⟨answer, h⟩
        cases h
      · rintro ⟨-, answer, h⟩
        cases h
  · rw [hclient] at hworld
    have hready : ready.world = session.world := hworld
    have hrun : run = _ := scale_error hclient
    have harrival : arrival server session.world run.1.trace = session.world := by
      rw [hrun]
      unfold arrival
      rw [hquiet]
      rfl
    rw [harrival, hrun, hclient]
    refine ⟨_, _, rfl, hready ▸ Atomic.refuse replicas _ _, iff_of_false ?_ ?_⟩
    · rintro ⟨answer, h⟩
      cases h
    · rintro ⟨⟨client, h⟩, -⟩
      cases h

/-- A server whose versions get longer and longer. -/
def lengtheningServer : Server where
  next used := String.ofList
    (List.replicate ((used.map fun v => (v.getD "").length).max?.getD 0 + 1) '1')
  next_fresh used h := by
    have hle := List.le_max?_getD_of_mem (k := 0)
      (List.mem_map_of_mem (f := fun v => (v.getD "").length) h)
    rw [Option.getD_some, String.length_ofList, List.length_replicate] at hle
    omega
  depth := 3
  refusal _ := { status := some (.code 409), reason := some "Conflict" }
  refusal_code _ := rfl
  refusal_reason _ := rfl

/-- A stateful set with a service and a version. -/
def kept (service version : String) : StatefulSet where
  metadata := { name := some "sts", ns := some "n", resourceVersion := some version }
  spec := { serviceName := some service }

/-- The copy is stale, and others write before the first call, the second and the fourth one. -/
def busyWorld : World where
  store :=
    { id := ⟨some "n", some "sts"⟩
      current := kept "b" "11"
      past := [kept "a" "1"]
      addressed := by simp [kept, StatefulSet.identity]
      distinct := by decide +kernel }
  foreign := [[kept "c" ""], [kept "d" "", kept "e" ""], [], [kept "f" ""]]

theorem scale_atomic_busyWorld :
    let run : Traced Effect Fault Scaled × Session World :=
      scale ⟨lengtheningServer.host, fun _ _ => .error .noConfiguration, {}⟩
        { name := "c", ns := "n", uid := "u", spec := { app := "db" } } 3 (kept "a" "1")
        { world := busyWorld }
    kept "a" "1" ∈ busyWorld.store.held ∧ kept "a" "1" ≠ busyWorld.store.current ∧
      run.2.world.store.current.spec.serviceName = some "e" ∧
      ∃ copy answer, run.1.result = .ok ⟨copy, .ok answer⟩ ∧
        Atomic 3 (arrival lengtheningServer busyWorld run.1.trace) run.2.world (.ok answer) := by
  intro run
  have hheld : kept "a" "1" ∈ busyWorld.store.held := List.mem_cons_of_mem _ List.mem_cons_self
  have hstale : kept "a" "1" ≠ busyWorld.store.current := fun h =>
    absurd (congrArg StatefulSet.version h) (by decide)
  obtain ⟨copy, outcome, hresult, hatomic, hprevails⟩ :=
    scale_atomic (ε := Fault) lengtheningServer (fun _ _ => .error .noConfiguration) {}
      { name := "c", ns := "n", uid := "u", spec := { app := "db" } } 3 _ { world := busyWorld }
      hheld
  obtain ⟨answer, rfl⟩ := hprevails.mpr ⟨⟨_, rfl⟩, .inr rfl⟩
  exact ⟨hheld, hstale, rfl, copy, answer, hresult, hatomic⟩

end StatefulRoles.Manager
