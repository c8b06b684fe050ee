import Mathlib.Logic.Function.Basic
import StatefulRoles.Proofs.Manager.Operation
/-!
# Managers side by side

Managers that are made without a client come by one when an operation first needs it, and all of
them by the same. What a fleet holds, the shared client, each manager's and each recorder's, is in
step after every operation (`InStep`), whatever the loaders do.

Results:
* `InStep.equip`: it stays in step when a manager gets the shared client.
* `run_lazily`: how one operation comes by a client, and what that leaves.
* `runAll_lazily`: the same over a run, in which nothing is loaded any more once a configuration was
  found.
-/
namespace StatefulRoles.Manager

open Act Session

variable {ω : Type} {host : Host ω}

/-! ## Fleets -/

/-- Managers that share a client: the host's state, that client, the number of clients made so far,
and the client of each manager and of each recorder. Managers may have a recorder in common. -/
structure Fleet (ω : Type) where
  world : ω
  shared : Option Client := none
  made : Nat := 0
  clients : Nat → Option Client := fun _ => none
  recorders : Nat → Option Client := fun _ => none
  recorderOf : Nat → Nat := fun i => i

namespace Fleet

variable {start now : Fleet ω} {i : Nat} {client : Client} {world : ω}

/-- The session in which one of the managers is at work. -/
def session (fleet : Fleet ω) (i : Nat) : Session ω where
  world := fleet.world
  shared := fleet.shared
  made := fleet.made
  manager := ⟨fleet.clients i, fleet.recorders (fleet.recorderOf i)⟩

/-- The fleet after a session of one of the managers. -/
def resume (fleet : Fleet ω) (i : Nat) (s : Session ω) : Fleet ω :=
  { fleet with
    world := s.world
    shared := s.shared
    made := s.made
    clients := Function.update fleet.clients i s.manager.client
    recorders := Function.update fleet.recorders (fleet.recorderOf i) s.manager.recorder }

/-- The fleet once a manager has the shared client, and so has its recorder unless that has one. -/
def equip (fleet : Fleet ω) (i : Nat) (client : Client) : Fleet ω :=
  { fleet with
    shared := some client
    clients := Function.update fleet.clients i (some client)
    recorders := Function.update fleet.recorders (fleet.recorderOf i)
      (fleet.recorders (fleet.recorderOf i) <|> some client) }

theorem resume_session (fleet : Fleet ω) (i : Nat) (world : ω) :
    fleet.resume i { fleet.session i with world } = { fleet with world } := by
  simp only [resume, session, Function.update_eq_self]

/-! ## Fleets in step -/

/-- A manager that has a client has the shared one, and its recorder has that one too unless it had
one from the start. Nobody else has got a client since the start. -/
structure InStep (start now : Fleet ω) : Prop where
  recorderOf : now.recorderOf = start.recorderOf
  clients : ∀ i client, now.clients i = some client → now.shared = some client ∧
    now.recorders (now.recorderOf i) = some ((start.recorders (now.recorderOf i)).getD client)
  recorders : ∀ r, now.recorders r = start.recorders r ∨
    start.recorders r = none ∧ now.recorders r = now.shared

namespace InStep

theorem refl (h : ∀ i, start.clients i = none) : InStep start start where
  recorderOf := rfl
  clients i client hi := by
    rw [h i] at hi
    cases hi
  recorders _ := .inl rfl

/-- It is no matter what the host does. -/
theorem withWorld (h : InStep start now) : InStep start { now with world } :=
  ⟨h.recorderOf, h.clients, h.recorders⟩

/-- A manager that has a client is equipped already. -/
theorem equip_eq (h : InStep start now) (hi : now.clients i = some client) :
    now.equip i client = now := by
  obtain ⟨hshared, hrecorder⟩ := h.clients i client hi
  have hkept : (now.recorders (now.recorderOf i) <|> some client) =
      now.recorders (now.recorderOf i) := by
    rw [hrecorder]
    rfl
  unfold Fleet.equip
  rw [hkept, ← hi, Function.update_eq_self, Function.update_eq_self, hi, ← hshared]

/-- It stays in step when a manager gets the client that is shared, or that will be. -/
theorem equip (h : InStep start now) (hc : now.shared = some client ∨ now.shared = none) (i : Nat)
    (world : ω) (made : Nat) : InStep start { now.equip i client with world, made } := by
  have hrecorders (r : Nat) : now.recorders r = start.recorders r ∨
      start.recorders r = none ∧ now.recorders r = some client := by
    rcases h.recorders r with hr | ⟨hstart, hr⟩
    · exact .inl hr
    · rcases hc with hc | hc
      · exact .inr ⟨hstart, hr.trans hc⟩
      · exact .inl ((hr.trans hc).trans hstart.symm)
  -- what the recorder of the manager gets
  have hgets (r : Nat) : (now.recorders r <|> some client) =
      some ((start.recorders r).getD client) := by
    rcases hrecorders r with hr | ⟨hstart, hr⟩
    · rw [hr]
      cases start.recorders r <;> rfl
    · rw [hr, hstart]
      rfl
  refine ⟨h.recorderOf, fun j c hj => ?_, fun r => ?_⟩
  · replace hj : Function.update now.clients i (some client) j = some c := hj
    show some client = some c ∧ Function.update now.recorders (now.recorderOf i) _
      (now.recorderOf j) = some ((start.recorders (now.recorderOf j)).getD c)
    by_cases hji : j = i
    · rw [hji, Function.update_self] at hj
      obtain rfl : client = c := Option.some.inj hj
      rw [hji, Function.update_self]
      exact ⟨rfl, hgets _⟩
    · rw [Function.update_of_ne hji] at hj
      obtain ⟨hshared, hrecorder⟩ := h.clients j c hj
      obtain rfl : client = c := by
        rcases hc with hc | hc <;> rw [hshared] at hc <;> cases hc
        rfl
      refine ⟨rfl, ?_⟩
      by_cases hr : now.recorderOf j = now.recorderOf i
      · rw [hr, Function.update_self]
        exact hgets _
      · rw [Function.update_of_ne hr]
        exact hrecorder
  · show Function.update now.recorders (now.recorderOf i) _ r = _ ∨
      start.recorders r = none ∧ Function.update now.recorders (now.recorderOf i) _ r = some client
    by_cases hr : r = now.recorderOf i
    · subst hr
      rw [Function.update_self, hgets]
      cases start.recorders (now.recorderOf i) with
      | none => exact .inr ⟨rfl, rfl⟩
      | some c => exact .inl rfl
    · rw [Function.update_of_ne hr]
      exact hrecorders r

end InStep
end Fleet

/-! ## Operations of a fleet -/

/-- An operation that a manager is asked for, with the catalog and the settings that it is given. -/
structure Job where
  manager : Nat
  catalog : Catalog
  settings : Settings
  operation : Operation

/-- An operation that was performed: the fleet before it and after it, and what was done. -/
structure Done (ω : Type) where
  job : Job
  before : Fleet ω
  run : Traced Effect Fault job.operation.Answer
  after : Fleet ω

/-- What was to be done before a client was needed. -/
def Done.opening (done : Done ω) : Traced Effect Fault (Option Call) :=
  done.job.operation.opening done.job.catalog done.job.settings

/-- Has an operation performed by one of the managers. -/
def Job.run (host : Host ω) (job : Job) (fleet : Fleet ω) : Done ω :=
  let (run, session) := perform ⟨host, job.catalog, job.settings⟩ job.operation
    (fleet.session job.manager)
  ⟨job, fleet, run, fleet.resume job.manager session⟩

/-- Has operations performed one after the other. -/
def runAll (host : Host ω) : List Job → Fleet ω → List (Done ω)
  | [], _ => []
  | job :: jobs, fleet => job.run host fleet :: runAll host jobs (job.run host fleet).after

/-- How an operation comes by a client, and what it leaves. One that fails before it needs one, or
has nothing to do, leaves everything alone. Any other takes the shared client, or looks for a
configuration when there is none: if it finds one, its manager has the client made from it and goes
on with the first call; if not, it ends, and nobody has got a client. -/
inductive Lazily (host : Host ω) (done : Done ω) : Prop where
  | failed {t : List Effect} {f : Fault} (opening : done.opening = ⟨t, .error f⟩)
      (run : done.run = ⟨t, .error f⟩) (after : done.after = done.before)
  | idle {t : List Effect} {a : done.job.operation.Answer} (opening : done.opening = ⟨t, .ok none⟩)
      (run : done.run = ⟨t, .ok a⟩) (after : done.after = done.before)
  | supplied {t u : List Effect} {first : Call} {client : Client} {world : ω}
      {r : Except Fault done.job.operation.Answer}
      (opening : done.opening = ⟨t, .ok (some first)⟩) (shared : done.before.shared = some client)
      (run : done.run = ⟨t ++ .call client first :: u, r⟩) (through : ∀ e ∈ u, e.IsThrough client)
      (after : done.after = { done.before.equip done.job.manager client with world })
  | loaded {t u v : List Effect} {first : Call} {client : Client} {world world' : ω}
      {r : Except Fault done.job.operation.Answer}
      (opening : done.opening = ⟨t, .ok (some first)⟩) (shared : done.before.shared = none)
      (loading : Loading host done.before.world u (.ok ()) world)
      (run : done.run = ⟨t ++ (u ++ .call client first :: v), r⟩)
      (through : ∀ e ∈ v, e.IsThrough client)
      (after : done.after = { done.before.equip done.job.manager client with
        world := world', made := done.before.made + 1 })
  | unloaded {t u : List Effect} {first : Call} {f : Fault} {world : ω}
      (opening : done.opening = ⟨t, .ok (some first)⟩) (shared : done.before.shared = none)
      (loading : Loading host done.before.world u (.error f) world)
      (run : done.run = ⟨t ++ u, .error f⟩) (after : done.after = { done.before with world })

section

variable {start fleet : Fleet ω} {job : Job}

theorem run_eq {run : Traced Effect Fault job.operation.Answer} {session : Session ω}
    (h : perform ⟨host, job.catalog, job.settings⟩ job.operation (fleet.session job.manager) =
      (run, session)) :
    job.run host fleet = ⟨job, fleet, run, fleet.resume job.manager session⟩ := by
  simp only [Job.run, h]

theorem run_lazily (h : Fleet.InStep start fleet) (host : Host ω) (job : Job) :
    Lazily host (job.run host fleet) := by
  let session := fleet.session job.manager
  rcases perform_cases ⟨host, job.catalog, job.settings⟩ job.operation session with
    ⟨t, f, hopening, hrun⟩ | ⟨t, a, hopening, hrun⟩ |
    ⟨t, first, rest, hopening, hbegins, hconfined, hfollows⟩
  · rw [run_eq hrun]
    exact .failed hopening rfl (fleet.resume_session job.manager fleet.world)
  · rw [run_eq hrun]
    exact .idle hopening rfl (fleet.resume_session job.manager fleet.world)
  · cases hown : fleet.clients job.manager with
    | some client =>
      obtain ⟨u, r, world, hrest, hthrough⟩ := bind_supplied (hbegins client) (hconfined client)
        (client_own host (s := session) hown)
      have hafter : fleet.resume job.manager { session with world } =
          { fleet.equip job.manager client with world } := by
        rw [h.equip_eq hown]
        exact fleet.resume_session job.manager world
      rw [run_eq (hfollows _ _ _ hrest)]
      exact .supplied hopening (h.clients _ client hown).1 rfl hthrough hafter
    | none =>
      cases hshared : fleet.shared with
      | some client =>
        obtain ⟨u, r, world, hrest, hthrough⟩ := bind_supplied (hbegins client) (hconfined client)
          (client_shared host (s := session) hown hshared)
        have hafter : fleet.resume job.manager
            { session with world, manager := session.manager.withClient client } =
            { fleet.equip job.manager client with world } := by
          have hsession : session.shared = some client := hshared
          rw [hsession]
          rfl
        rw [run_eq (hfollows _ _ _ hrest)]
        exact .supplied hopening hshared rfl hthrough hafter
      | none =>
        rcases client_loaded host (s := session) hown hshared with
          ⟨u, world, hloading, hclient⟩ | ⟨u, f, world, hloading, hclient⟩
        · obtain ⟨v, r, world', hrest, hthrough⟩ := bind_supplied (hbegins _) (hconfined _) hclient
          rw [run_eq (hfollows _ _ _ hrest)]
          exact .loaded hopening hshared hloading rfl hthrough rfl
        · rw [run_eq (hfollows _ _ _ (bind_error hclient))]
          exact .unloaded hopening hshared hloading rfl (fleet.resume_session job.manager world)

variable {done : Done ω} {client : Client}

/-- Whatever comes of an operation, it leaves the fleet in step. -/
theorem Lazily.inStep (h : Lazily host done) (hbefore : Fleet.InStep start done.before) :
    Fleet.InStep start done.after := by
  cases h with
  | failed _ _ after | idle _ _ after => exact after ▸ hbefore
  | supplied _ shared _ _ after => exact after ▸ hbefore.equip (.inl shared) _ _ _
  | loaded _ shared _ _ _ after => exact after ▸ hbefore.equip (.inr shared) _ _ _
  | unloaded _ _ _ _ after => exact after ▸ hbefore.withWorld

end

/-! ## Runs -/

/-- An operation that loads nothing and calls the server through a given client, which stays the
shared one. -/
structure Settled (client : Client) (done : Done ω) : Prop where
  loads : done.run.loads = []
  calls : ∀ c ∈ done.run.calls, c.1 = client
  shared : done.after.shared = some client

section

variable {start fleet : Fleet ω} {done : Done ω} {client : Client}

theorem loads_eq_nil {t : List Effect} (h : ∀ e ∈ t, e.IsThrough client) :
    t.filterMap Effect.load? = [] := by
  refine List.filterMap_eq_nil_iff.mpr fun e he => ?_
  have hthrough := h e he
  cases e with
  | load loader => exact hthrough.elim
  | _ => rfl

theorem calls_through {t : List Effect} (h : ∀ e ∈ t, e.IsThrough client) :
    ∀ c ∈ t.filterMap Effect.call?, c.1 = client := by
  intro c hc
  obtain ⟨e, he, hcall⟩ := List.mem_filterMap.mp hc
  have hthrough := h e he
  cases e with
  | call client' call =>
    obtain rfl : (client', call) = c := Option.some.inj hcall
    exact hthrough
  | _ => cases hcall

theorem Settled.of_through (h : ∀ e ∈ done.run.trace, e.IsThrough client)
    (hshared : done.after.shared = some client) : Settled client done :=
  ⟨loads_eq_nil h, calls_through h, hshared⟩

/-- Before a client is needed, none is used or looked for. -/
theorem opening_through (done : Done ω) (client : Client) :
    ∀ e ∈ done.opening.trace, e.IsThrough client := by
  obtain ⟨hquiet, hloads⟩ :=
    opening_quiet done.job.catalog done.job.settings done.job.operation
  intro e he
  cases e with
  | call c call =>
    cases List.filterMap_eq_nil_iff.mp hquiet.calls _ he
  | load loader =>
    cases List.filterMap_eq_nil_iff.mp hloads _ he
  | log | lookup => trivial

/-- Once there is a shared client, nothing is loaded any more, and every call goes through it. -/
theorem Lazily.settled (h : Lazily host done) (hshared : done.before.shared = some client) :
    Settled client done := by
  have hopening := opening_through done client
  cases h with
  | failed opening run after | idle opening run after =>
    rw [opening] at hopening
    exact .of_through (run ▸ hopening) (after ▸ hshared)
  | supplied opening shared run through after =>
    obtain rfl := Option.some.inj (shared.symm.trans hshared)
    rw [opening] at hopening
    refine .of_through ?_ (after ▸ rfl)
    rw [run]
    exact List.forall_mem_append.mpr ⟨hopening, List.forall_mem_cons.mpr ⟨rfl, through⟩⟩
  | loaded _ shared | unloaded _ shared => cases shared.symm.trans hshared

theorem runAll_settled (host : Host ω) (jobs : List Job) (hstep : Fleet.InStep start fleet)
    (hshared : fleet.shared = some client) :
    ∀ done ∈ runAll host jobs fleet, Settled client done := by
  induction jobs generalizing fleet with
  | nil => exact List.forall_mem_nil _
  | cons job jobs ih =>
    have hlazily := run_lazily hstep host job
    have hsettled := hlazily.settled hshared
    exact List.forall_mem_cons.mpr ⟨hsettled, ih (hlazily.inStep hstep) hsettled.shared⟩

end

/-- Each operation finds the fleet as the one before it has left it. -/
theorem runAll_isChain (host : Host ω) (jobs : List Job) (fleet : Fleet ω) :
    (runAll host jobs fleet).IsChain fun earlier later => later.before = earlier.after := by
  induction jobs generalizing fleet with
  | nil => exact .nil
  | cons job jobs ih =>
    have hrest := ih (job.run host fleet).after
    cases jobs with
    | nil => exact .singleton _
    | cons job' jobs => exact .cons_cons rfl hrest

/-- **One client for all.** Over any run of operations on managers that were made without a client,
whatever the loaders do: each operation looks for a configuration only when it comes to its first
call and nobody has found one yet; a search that fails leaves everybody without a client, so that
the next operation searches again; and after one that succeeds nothing is loaded any more, all calls
go through the one client, and every manager that has come to a call has it, as has its recorder. -/
theorem runAll_lazily (host : Host ω) (jobs : List Job) (fleet : Fleet ω)
    (hnew : ∀ i, fleet.clients i = none) :
    let all := runAll host jobs fleet
    (∀ done ∈ all, Lazily host done ∧ fleet.InStep done.after ∧ Quiet done.opening.trace ∧
      done.opening.loads = []) ∧
    (all.IsChain fun earlier later => later.before = earlier.after) ∧
    all.Pairwise fun earlier later =>
      ∀ client, earlier.after.shared = some client → Settled client later := by
  suffices hrun : ∀ now, fleet.InStep now →
      (∀ done ∈ runAll host jobs now, Lazily host done ∧ fleet.InStep done.after) ∧
      (runAll host jobs now).Pairwise fun earlier later =>
        ∀ client, earlier.after.shared = some client → Settled client later by
    obtain ⟨hlazily, hpairs⟩ := hrun fleet (.refl hnew)
    exact ⟨fun done hdone => ⟨(hlazily done hdone).1, (hlazily done hdone).2, opening_quiet _ _ _⟩,
      runAll_isChain host jobs fleet, hpairs⟩
  induction jobs with
  | nil => exact fun _ _ => ⟨List.forall_mem_nil _, .nil⟩
  | cons job jobs ih =>
    intro now hnow
    have hlazily := run_lazily hnow host job
    have hafter := hlazily.inStep hnow
    obtain ⟨hrest, hpairs⟩ := ih _ hafter
    exact ⟨List.forall_mem_cons.mpr ⟨⟨hlazily, hafter⟩, hrest⟩,
      .cons (fun later hlater client hshared => runAll_settled host jobs hafter hshared later hlater)
        hpairs⟩

/-- A host whose user has written down a configuration once it was asked for. -/
def flakyHost : Host Nat where
  answer _ n := (.ok none, n)
  load
    | .cluster, n => (.error "not in a cluster", n)
    | .user, 0 => (.error "no configuration", 1)
    | .user, n + 1 => (.ok (), n + 1)
  now _ := ""
  depth := 0

theorem runAll_lazily_flakyHost :
    let fleet : Fleet Nat := { world := 0 }
    let job (i : Nat) : Job :=
      ⟨i, fun _ _ => .error .noConfiguration, {}, .delete ⟨some "n", some "sts"⟩⟩
    let all := runAll flakyHost [job 0, job 1, job 0] fleet
    (∀ i, fleet.clients i = none) ∧
      all.map (fun done => done.run.loads) = [[.cluster, .user], [.cluster, .user], []] ∧
      (∀ done ∈ all, Lazily flakyHost done ∧ fleet.InStep done.after) := by
  intro fleet job all
  have hnew (i : Nat) : fleet.clients i = none := rfl
  obtain ⟨hlazily, -⟩ := runAll_lazily flakyHost [job 0, job 1, job 0] fleet hnew
  exact ⟨hnew, rfl, fun done hdone => ⟨(hlazily done hdone).1, (hlazily done hdone).2.1⟩⟩

end StatefulRoles.Manager
