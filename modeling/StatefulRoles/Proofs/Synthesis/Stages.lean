import StatefulRoles.Proofs.Directory.Resolution
import StatefulRoles.Proofs.Synthesis.Gathering
/-!
# The stages of building

Building asks the catalog seven questions and reads the settings and the role's request for GPUs,
one after the other, and any of these may fail. `Follows` says of a run that it goes through stages
in this way; it holds of each part of building and so of the whole.

Results:
* `Follows.bind`: a run of two parts goes through the stages of both.
* `follows_build`: building goes through `stages`, whatever fails.
* `build_stages`: so the first stage that fails decides how building ends and what was asked by
  then; and what is logged depends only on how far it came.
-/
namespace StatefulRoles.Synthesis

variable {α β : Type} {catalog : Catalog} {settings : Checked Settings} {cluster : Cluster}
  {role : Role}

/-! ## Stages -/

/-- A part of building that can fail. -/
inductive Stage where
  | settings
  | lookup (question : Lookup)
  | gpu

/-- The fault that something ended with, if it did. -/
def fault? : Except Fault α → Option Fault
  | .ok _ => none
  | .error f => some f

namespace Stage

/-- What the catalog is asked at a stage. -/
def question? : Stage → Option Lookup
  | .lookup question => some question
  | _ => none

/-- The fault that a stage fails with, if it does. -/
def failure? (catalog : Catalog) (settings : Checked Settings) (cluster : Cluster) (role : Role) :
    Stage → Option Fault
  | .settings => fault? settings.toExcept
  | .lookup question => fault? (catalog question cluster)
  | .gpu => fault? ((Environment.requestsGpu role).mapError Fault.quantity)

end Stage

/-- The stages before the directories are merged. The settings are among them when it has to be
found out whether the platform runs systemd. -/
def opening (role : Role) (native : Option Bool) : List Stage :=
  (if native.isNone then [.settings] else []) ++
    [.lookup (.ports role.id), .lookup (.persistDirs role.id), .lookup (.setupPackage role.id),
      .lookup (.image role.id), .lookup .capabilities, .lookup (.containerSpec role.id)]

/-- The stages of building, in order. -/
def stages (role : Role) (native : Option Bool) : List Stage :=
  opening role native ++ [.settings, .lookup .systemdRequired, .gpu]

section

variable (failure? : Stage → Option Fault)

/-- The stages that are reached: those up to the first that fails. -/
def reached (ss : List Stage) : List Stage :=
  ss.takeWhile (fun s => (failure? s).isNone) ++ (ss.find? fun s => (failure? s).isSome).toList

variable {failure?} {ss ts : List Stage} {f : Fault}

theorem reached_cons_error {s : Stage} (h : failure? s = some f) (ss : List Stage) :
    reached failure? (s :: ss) = [s] := by
  simp [reached, h]

theorem reached_cons_ok {s : Stage} (h : failure? s = none) (ss : List Stage) :
    reached failure? (s :: ss) = s :: reached failure? ss := by
  simp [reached, h]

/-- Nothing is reached behind a stage that fails. -/
theorem reached_append_error (h : ss.findSome? failure? = some f) (ts : List Stage) :
    reached failure? (ss ++ ts) = reached failure? ss := by
  induction ss with
  | nil => simp at h
  | cons s ss ih =>
    cases hs : failure? s with
    | some g => rw [List.cons_append, reached_cons_error hs, reached_cons_error hs]
    | none =>
      rw [List.findSome?_cons, hs] at h
      rw [List.cons_append, reached_cons_ok hs, reached_cons_ok hs, ih h]

/-- If none of the first stages fails, all of them are reached. -/
theorem reached_append_ok (h : ss.findSome? failure? = none) (ts : List Stage) :
    reached failure? (ss ++ ts) = ss ++ reached failure? ts := by
  induction ss with
  | nil => rfl
  | cons s ss ih =>
    obtain ⟨hs, hss⟩ := List.forall_mem_cons.mp (List.findSome?_eq_none_iff.mp h)
    rw [List.cons_append, reached_cons_ok hs, ih (List.findSome?_eq_none_iff.mpr hss),
      List.cons_append]

theorem reached_of_ok (h : ss.findSome? failure? = none) : reached failure? ss = ss := by
  have happend := reached_append_ok h []
  rwa [List.append_nil, show reached failure? [] = [] from rfl, List.append_nil] at happend

end

/-! ## Runs that go through stages -/

/-- The run goes through the stages until one fails: it asks what is asked at these, ends with the
fault of that one, and does nothing else but write to the log. -/
structure Follows (failure? : Stage → Option Fault) (ss : List Stage)
    (x : Traced Effect Fault α) : Prop where
  lookups : x.lookups = (reached failure? ss).filterMap Stage.question?
  fault : fault? x.result = ss.findSome? failure?
  calls : x.calls = []
  loads : x.loads = []

namespace Follows

section

variable {failure? : Stage → Option Fault} {ss ts : List Stage}

/-- A run of two parts goes through the stages of both. -/
theorem bind {x : Traced Effect Fault α} {k : α → Traced Effect Fault β}
    (hx : Follows failure? ss x) (hk : ∀ a, x.result = .ok a → Follows failure? ts (k a)) :
    Follows failure? (ss ++ ts) (x >>= k) := by
  have hfault := hx.fault
  cases hr : x.result with
  | ok a =>
    rw [hr] at hfault
    have hall : ss.findSome? failure? = none := hfault.symm
    have ha := hk a hr
    rw [Traced.bind_of_ok hr]
    constructor
    · rw [reached_append_ok hall, List.filterMap_append, ← ha.lookups, ← reached_of_ok hall,
        ← hx.lookups]
      exact List.filterMap_append
    · rw [List.findSome?_append, hall]
      exact ha.fault
    · exact List.filterMap_append.trans (congrArg₂ _ hx.calls ha.calls)
    · exact List.filterMap_append.trans (congrArg₂ _ hx.loads ha.loads)
  | error f =>
    rw [hr] at hfault
    have hsome : ss.findSome? failure? = some f := hfault.symm
    rw [Traced.bind_of_error hr]
    refine ⟨?_, ?_, hx.calls, hx.loads⟩
    · rw [reached_append_error hsome]
      exact hx.lookups
    · rw [List.findSome?_append, hsome]
      rfl

theorem pure (a : α) : Follows failure? [] (Pure.pure a) := ⟨rfl, rfl, rfl, rfl⟩

theorem log (lines : List Log) : Follows failure? [] (Traced.log lines) := by
  have hnone {γ : Type} {g : Effect → Option γ} (hg : ∀ line, g (.log line) = none) :
      (lines.map Effect.log).filterMap g = [] := by
    rw [List.filterMap_map, List.filterMap_eq_nil_iff]
    intro line _
    exact hg line
  exact ⟨hnone fun _ => rfl, rfl, hnone fun _ => rfl, hnone fun _ => rfl⟩

end

/-- Ending with the fault of a stage is going through it. -/
theorem of_stage {failure? : Stage → Option Fault} {s : Stage} {x : Traced Effect Fault α}
    (htrace : x.trace = (s.question?.map Effect.lookup).toList)
    (hfault : fault? x.result = failure? s) : Follows failure? [s] x := by
  have hreached : reached failure? [s] = [s] := by
    cases hs : failure? s with
    | none => exact reached_of_ok (by simp [hs])
    | some f => exact reached_cons_error hs []
  refine ⟨?_, ?_, ?_, ?_⟩
  · rw [hreached, Traced.lookups, htrace]
    cases s <;> rfl
  · rw [hfault]
    simp
  · rw [Traced.calls, htrace]
    cases s <;> rfl
  · rw [Traced.loads, htrace]
    cases s <;> rfl

end Follows

section

variable (catalog : Catalog) (settings : Checked Settings) (cluster : Cluster) (role : Role)

theorem follows_ask (question : Lookup) :
    Follows (Stage.failure? catalog settings cluster role) [.lookup question]
      (ask catalog cluster question) :=
  .of_stage rfl rfl

theorem follows_readSettings :
    Follows (Stage.failure? catalog settings cluster role) [.settings] (readSettings settings) :=
  .of_stage rfl rfl

theorem follows_readNative (native : Option Bool) :
    Follows (Stage.failure? catalog settings cluster role)
      (if native.isNone then [.settings] else []) (readNative native settings) := by
  cases native with
  | some native => exact .pure native
  | none => exact (follows_readSettings catalog settings cluster role).bind fun read _ => .pure _

theorem follows_mounting (native : Bool) (dirs : List String) (claim : String) :
    Follows (Stage.failure? catalog settings cluster role) [.settings, .lookup .systemdRequired]
      (mounting catalog settings cluster role native dirs claim) :=
  (follows_readSettings catalog settings cluster role).bind fun _ _ =>
    (follows_ask catalog settings cluster role .systemdRequired).bind fun _ _ =>
      (Follows.log _).bind fun _ _ => .pure _

end

/-! ## Building -/

/-- What is known before the directories are merged. -/
structure Answers where
  native : Bool
  ports : List PortInfo
  appDirs : Option (List String)
  setup : Option SetupPackage
  image : String
  capabilities : List String
  terminal : Option ContainerSpec

/-- Asks what has to be known before the directories are merged. -/
def inquire (catalog : Catalog) (settings : Checked Settings) (cluster : Cluster) (role : Role)
    (native : Option Bool) : Traced Effect Fault Answers := do
  let native ← readNative native settings
  let ports ← ask catalog cluster (.ports role.id)
  let appDirs ← ask catalog cluster (.persistDirs role.id)
  let setup ← ask catalog cluster (.setupPackage role.id)
  let image ← ask catalog cluster (.image role.id)
  let capabilities ← ask catalog cluster .capabilities
  let terminal ← ask catalog cluster (.containerSpec role.id)
  return { native, ports, appDirs, setup, image, capabilities, terminal }

/-- Merges the directories and gathers the rest. -/
def complete (catalog : Catalog) (settings : Checked Settings) (cluster : Cluster) (role : Role)
    (answers : Answers) : Traced Effect Fault Facts := do
  let resolution := Directory.resolve (Directory.defaults answers.setup) answers.appDirs role.id
  Traced.log resolution.logs
  let mounting ←
    mounting catalog settings cluster role answers.native resolution.dirs Mounting.claimName
  let settings ← readSettings settings
  let gpu ← .ofExcept ((Environment.requestsGpu role).mapError .quantity)
  return {
    mounting, gpu
    ports := answers.ports
    setup := answers.setup
    image := answers.image
    capabilities := answers.capabilities
    dirs := resolution.dirs
    terminal := answers.terminal.getD {}
    nameBeginning := settings.nameBeginning
    blockSize := settings.blockDeviceSize }

/-- The seven questions, in the order in which they are asked. -/
def questions (role : Role) : List Lookup :=
  [.ports role.id, .persistDirs role.id, .setupPackage role.id, .image role.id, .capabilities,
    .containerSpec role.id, .systemdRequired]

theorem questions_eq (role : Role) (native : Option Bool) :
    (stages role native).filterMap Stage.question? = questions role := by
  cases native <;> rfl

section

variable (catalog : Catalog) (settings : Checked Settings) (cluster : Cluster) (role : Role)

theorem gather_eq (native : Option Bool) : gather catalog settings cluster role native =
    inquire catalog settings cluster role native >>= complete catalog settings cluster role := by
  simp only [gather, inquire, complete, bind_assoc, pure_bind]

theorem follows_inquire (native : Option Bool) :
    Follows (Stage.failure? catalog settings cluster role) (opening role native)
      (inquire catalog settings cluster role native) :=
  have hask := follows_ask catalog settings cluster role
  (follows_readNative catalog settings cluster role native).bind fun _ _ =>
    (hask (.ports role.id)).bind fun _ _ =>
      (hask (.persistDirs role.id)).bind fun _ _ =>
        (hask (.setupPackage role.id)).bind fun _ _ =>
          (hask (.image role.id)).bind fun _ _ =>
            (hask .capabilities).bind fun _ _ =>
              (hask (.containerSpec role.id)).bind fun _ _ => .pure _

/-- The settings are read once more behind the volumes, which cannot fail any more. -/
theorem follows_complete (answers : Answers) :
    Follows (Stage.failure? catalog settings cluster role)
      [.settings, .lookup .systemdRequired, .gpu]
      (complete catalog settings cluster role answers) := by
  have hgpu : Follows (Stage.failure? catalog settings cluster role) [.gpu]
      (.ofExcept ((Environment.requestsGpu role).mapError .quantity)) := .of_stage rfl rfl
  refine (Follows.log _).bind fun _ _ =>
    (follows_mounting catalog settings cluster role _ _ _).bind fun m hm => ?_
  obtain ⟨read, hread, -⟩ := Traced.result_bind_eq_ok.mp hm
  cases readSettings_eq_ok.mp hread
  exact hgpu.bind fun _ _ => .pure _

theorem follows_build (status : Option RoleStatus) (replicas : Int) (native : Option Bool) :
    Follows (Stage.failure? catalog settings cluster role) (stages role native)
      (build catalog settings cluster role status replicas native) := by
  have hgather : Follows (Stage.failure? catalog settings cluster role) (stages role native)
      (gather catalog settings cluster role native) := by
    rw [gather_eq]
    exact (follows_inquire catalog settings cluster role native).bind fun answers _ =>
      follows_complete catalog settings cluster role answers
  have hcompose (facts : Facts) : Follows (Stage.failure? catalog settings cluster role) []
      (Pure.pure (compose cluster role status replicas facts)) := .pure _
  have hbuild := hgather.bind fun facts _ => hcompose facts
  rwa [List.append_nil] at hbuild

end

/-! ## What is logged -/

section

variable {x : Traced Effect Fault α} {k : α → Traced Effect Fault β}

theorem logs_bind_of_ok {a : α} (h : x.result = .ok a) :
    (x >>= k).logs = x.logs ++ (k a).logs := by
  rw [Traced.bind_of_ok h]
  exact List.filterMap_append

theorem logs_bind_of_error {f : Fault} (h : x.result = .error f) : (x >>= k).logs = x.logs := by
  rw [Traced.bind_of_error h]
  rfl

theorem logs_bind (hk : ∀ a, (k a).logs = []) : (x >>= k).logs = x.logs := by
  cases hr : x.result with
  | ok a => rw [logs_bind_of_ok hr, hk a, List.append_nil]
  | error f => exact logs_bind_of_error hr

end

theorem log_logs (lines : List Log) :
    (Traced.log lines : Traced Effect Fault Unit).logs = lines := by
  show (lines.map Effect.log).filterMap Effect.log? = lines
  rw [List.filterMap_map]
  exact List.filterMap_some

theorem ask_bind_logs (question : Lookup) {k : question.Answer → Traced Effect Fault β}
    (hk : ∀ a, (k a).logs = []) : (ask catalog cluster question >>= k).logs = [] :=
  logs_bind hk

theorem readNative_logs (native : Option Bool) : (readNative native settings).logs = [] := by
  cases native with
  | some native => rfl
  | none => exact logs_bind fun _ => rfl

/-- Nothing is logged before the directories are merged. -/
theorem inquire_logs (native : Option Bool) :
    (inquire catalog settings cluster role native).logs = [] := by
  refine (logs_bind fun _ => ?_).trans (readNative_logs native)
  exact ask_bind_logs _ fun _ => ask_bind_logs _ fun _ => ask_bind_logs _ fun _ =>
    ask_bind_logs _ fun _ => ask_bind_logs _ fun _ => ask_bind_logs _ fun _ => rfl

/-- The app runs systemd and the platform does not, as far as the settings and the catalog can tell:
then the members see the control groups of their hosts. -/
def NeedsControlGroups (catalog : Catalog) (settings : Checked Settings) (cluster : Cluster)
    (native : Option Bool) : Prop :=
  ∃ read, settings = .ok read ∧ catalog .systemdRequired cluster = .ok true ∧
    native.getD read.nativeSystemd = false

theorem mounting_logs (native : Bool) (dirs : List String) (claim : String) :
    let logs := (mounting catalog settings cluster role native dirs claim).logs
    (NeedsControlGroups catalog settings cluster (some native) → logs = [controlGroupLog role]) ∧
      (¬NeedsControlGroups catalog settings cluster (some native) → logs = []) := by
  intro logs
  cases hread : settings.toExcept with
  | error f =>
    have hlogs : logs = [] := logs_bind_of_error hread
    refine ⟨?_, fun _ => hlogs⟩
    rintro ⟨read, rfl, -⟩
    cases hread
  | ok read =>
    have hsettings := toExcept_eq_ok.mp hread
    cases hsystemd : catalog .systemdRequired cluster with
    | error f =>
      have hlogs : logs = [] :=
        (logs_bind_of_ok hread).trans (logs_bind_of_error hsystemd)
      refine ⟨?_, fun _ => hlogs⟩
      rintro ⟨read, -, htrue, -⟩
      rw [hsystemd] at htrue
      cases htrue
    | ok systemd =>
      have hlogs : logs = if systemd && !native then [controlGroupLog role] else [] :=
        (logs_bind_of_ok hread).trans ((logs_bind_of_ok hsystemd).trans
          ((logs_bind fun _ => rfl).trans (log_logs _)))
      have hneeds : NeedsControlGroups catalog settings cluster (some native) ↔
          (systemd && !native) = true := by
        simp [NeedsControlGroups, hsettings, hsystemd]
      rw [hneeds]
      exact ⟨fun h => hlogs.trans (if_pos h), fun h => hlogs.trans (if_neg h)⟩

theorem complete_logs (answers : Answers) :
    (complete catalog settings cluster role answers).logs =
      (Directory.resolve (Directory.defaults answers.setup) answers.appDirs role.id).logs ++
        (mounting catalog settings cluster role answers.native
          (Directory.resolve (Directory.defaults answers.setup) answers.appDirs role.id).dirs
          Mounting.claimName).logs := by
  unfold complete
  rw [logs_bind_of_ok (log_result _), log_logs, logs_bind]
  intro m
  exact logs_bind fun _ => logs_bind fun _ => rfl

theorem inquire_eq_ok {native : Option Bool} {answers : Answers}
    (h : (inquire catalog settings cluster role native).result = .ok answers) :
    (readNative native settings).result = .ok answers.native ∧
      catalog (.persistDirs role.id) cluster = .ok answers.appDirs ∧
      catalog (.setupPackage role.id) cluster = .ok answers.setup := by
  unfold inquire at h
  simp only [Traced.result_bind_eq_ok, ask_result, Traced.result_pure, Except.ok.injEq] at h
  obtain ⟨native, hnative, -, -, appDirs, hdirs, setup, hsetup, -, -, -, -, -, -, rfl⟩ := h
  exact ⟨hnative, hdirs, hsetup⟩

/-- What is logged while a stateful set is built: first what is left out when the directories are
merged, if it comes to that, a line for each entry, and then that control groups are needed, if they
are. -/
structure Logged (catalog : Catalog) (settings : Checked Settings) (cluster : Cluster) (role : Role)
    (native : Option Bool) (opened : Prop) (skipped groups : List Log) : Prop where
  merged : opened → ∃ setup appDirs, catalog (.setupPackage role.id) cluster = .ok setup ∧
    catalog (.persistDirs role.id) cluster = .ok appDirs ∧
    skipped = (Directory.resolve (Directory.defaults setup) appDirs role.id).skipped.map fun s =>
      ⟨.info, s!"[PERSIST] Skipping {s.path} from {s.source} persistDirs; dir {s.coveredBy} covers it"⟩
  unmerged : ¬opened → skipped = []
  needed : opened → NeedsControlGroups catalog settings cluster native →
    groups = [⟨.debug, s!"[K8S] Adding cgroup mounts for role {role.id} (no native systemd support)"⟩]
  unneeded : ¬(opened ∧ NeedsControlGroups catalog settings cluster native) → groups = []

theorem build_logs (catalog : Catalog) (settings : Checked Settings) (cluster : Cluster)
    (role : Role) (status : Option RoleStatus) (replicas : Int) (native : Option Bool) :
    ∃ skipped groups,
      (build catalog settings cluster role status replicas native).logs = skipped ++ groups ∧
      Logged catalog settings cluster role native
        (∀ s ∈ opening role native, Stage.failure? catalog settings cluster role s = none)
        skipped groups := by
  have hbuild : (build catalog settings cluster role status replicas native).logs =
      (inquire catalog settings cluster role native >>=
        complete catalog settings cluster role).logs := by
    rw [← gather_eq]
    exact logs_bind fun _ => rfl
  have hfault := (follows_inquire catalog settings cluster role native).fault
  rw [hbuild, ← List.findSome?_eq_none_iff, ← hfault]
  cases hr : (inquire catalog settings cluster role native).result with
  | error f =>
    refine ⟨[], [], ?_, nofun, fun _ => rfl, nofun, fun _ => rfl⟩
    rw [logs_bind_of_error hr, inquire_logs]
    rfl
  | ok answers =>
    obtain ⟨hnative, hdirs, hsetup⟩ := inquire_eq_ok hr
    -- with settings that can be read, it is known whether the platform runs systemd
    have hneeds : NeedsControlGroups catalog settings cluster (some answers.native) ↔
        NeedsControlGroups catalog settings cluster native := by
      refine exists_congr fun read => and_congr_right fun hread => ?_
      rw [readNative_eq_ok hread, Except.ok.injEq] at hnative
      rw [hnative]
      rfl
    let resolution :=
      Directory.resolve (Directory.defaults answers.setup) answers.appDirs role.id
    refine ⟨resolution.logs, (mounting catalog settings cluster role answers.native
      resolution.dirs Mounting.claimName).logs, ?_,
      fun _ => ⟨_, _, hsetup, hdirs, Directory.resolve_logs _ _ _⟩, fun h => absurd rfl h, ?_, ?_⟩
    · rw [logs_bind_of_ok hr, inquire_logs, complete_logs]
      rfl
    · intro _ h
      exact (mounting_logs _ _ _).1 (hneeds.mpr h)
    · intro h
      exact (mounting_logs _ _ _).2 fun hneeded => h ⟨rfl, hneeds.mp hneeded⟩

/-- **The first stage that fails decides.** Building ends with the fault of the first stage that
fails, and has asked what is asked up to that one; if none fails it ends with a stateful set and has
asked all seven questions. Besides, it only writes to the log. -/
theorem build_stages (catalog : Catalog) (settings : Checked Settings) (cluster : Cluster)
    (role : Role) (status : Option RoleStatus) (replicas : Int) (native : Option Bool) :
    let run := build catalog settings cluster role status replicas native
    let failure? := Stage.failure? catalog settings cluster role
    (match (stages role native).findSome? failure? with
      | some f => run.result = .error f ∧
        run.lookups = (reached failure? (stages role native)).filterMap Stage.question?
      | none => (∃ s, run.result = .ok s) ∧ run.lookups = questions role) ∧
    run.calls = [] ∧ run.loads = [] ∧
    ∃ skipped groups, run.logs = skipped ++ groups ∧
      Logged catalog settings cluster role native
        (∀ s ∈ opening role native, failure? s = none) skipped groups := by
  intro run failure?
  have hrun := follows_build catalog settings cluster role status replicas native
  have hfault : fault? run.result = (stages role native).findSome? failure? := hrun.fault
  refine ⟨?_, hrun.calls, hrun.loads,
    build_logs catalog settings cluster role status replicas native⟩
  cases hr : run.result with
  | ok s =>
    rw [hr] at hfault
    have hnone : (stages role native).findSome? failure? = none := hfault.symm
    rw [hnone]
    refine ⟨⟨s, rfl⟩, hrun.lookups.trans ?_⟩
    rw [reached_of_ok hnone, questions_eq]
  | error f =>
    rw [hr] at hfault
    have hsome : (stages role native).findSome? failure? = some f := hfault.symm
    rw [hsome]
    exact ⟨rfl, hrun.lookups⟩

end StatefulRoles.Synthesis
