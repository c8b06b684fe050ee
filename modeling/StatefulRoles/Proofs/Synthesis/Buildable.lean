import StatefulRoles.Catalog.Registry
import StatefulRoles.Proofs.Synthesis.Stages
/-!
# Which roles can be built

A role is validated when it is read: its sizes are quantities and it has no negative number of
devices. Building then reads one more quantity, the amount of GPUs that the role asks for, which
nothing has validated.

Results:
* `requestsGpu_eq_error`: what is wrong with an amount of GPUs that cannot be read.
* `build_buildable`: with valid settings and a catalog that answers, a role can be built exactly
  when its amount of GPUs can be read; apart from that amount only the catalog makes building fail.
* `build_wordyGpu`: a valid role that cannot be built.
-/
namespace StatefulRoles

namespace Environment

/-- The role asks for an amount of GPUs that is no quantity, or a number that signals. -/
def Unreadable (role : Role) (e : Quantity.Error) : Prop :=
  ∃ amount, role.resources.requests.lookup gpuResource = some amount ∧
    (Quantity.parse amount = .error e ∨
      Quantity.parse amount = .ok (.nan true) ∧ e = .trap .invalidOperation)

/-- Only a number that signals cannot be compared with zero. -/
theorem differsFromZero_eq_error {x : Decimal} {t : Decimal.Trap} :
    x.differsFromZero = .error t ↔ x = .nan true ∧ t = .invalidOperation := by
  unfold Decimal.differsFromZero
  split <;> simp [eq_comm]

theorem requestsGpu_eq_error {role : Role} {e : Quantity.Error} :
    requestsGpu role = .error e ↔ Unreadable role e := by
  unfold requestsGpu Unreadable
  cases hamount : role.resources.requests.lookup gpuResource with
  | none => simp
  | some amount =>
    cases hparse : Quantity.parse amount with
    | error e' => simp [hparse]
    | ok value =>
      cases hzero : value.differsFromZero with
      | ok b =>
        have hquiet : value ≠ .nan true := by
          intro hnan
          subst hnan
          cases hzero
        simp [hparse, hzero, Except.mapError, hquiet]
      | error t =>
        obtain ⟨hnan, ht⟩ := differsFromZero_eq_error.mp hzero
        subst hnan ht
        simp [hparse, hzero, Except.mapError, eq_comm]

end Environment

namespace Synthesis

variable {catalog : Catalog} {settings : Checked Settings} {read : Settings} {cluster : Cluster}
  {role : Role} {native : Option Bool}

/-! ## Stages that fail -/

theorem fault?_eq_none {α : Type} {x : Except Fault α} : fault? x = none ↔ ∃ a, x = .ok a := by
  cases x <;> simp [fault?]

theorem fault?_eq_some {α : Type} {x : Except Fault α} {f : Fault} :
    fault? x = some f ↔ x = .error f := by
  cases x <;> simp [fault?]

theorem mem_questions {question : Lookup} (h : .lookup question ∈ stages role native) :
    question ∈ questions role := by
  rw [← questions_eq role native, List.mem_filterMap]
  exact ⟨_, h, rfl⟩

theorem failure?_gpu {f : Fault} :
    Stage.gpu.failure? catalog settings cluster role = some f ↔
      ∃ e, Environment.Unreadable role e ∧ f = .quantity e := by
  unfold Stage.failure?
  simp only [fault?_eq_some, ← Environment.requestsGpu_eq_error]
  cases Environment.requestsGpu role <;> simp [Except.mapError, eq_comm]

/-- A stage that fails is a question that the catalog does not answer, or the amount of GPUs. -/
theorem failure?_eq_some {s : Stage} {f : Fault} (hs : s ∈ stages role native)
    (h : s.failure? catalog (.ok read) cluster role = some f) :
    (∃ question ∈ questions role, catalog question cluster = .error f) ∨
      ∃ e, Environment.Unreadable role e ∧ f = .quantity e := by
  cases s with
  | settings => cases h
  | lookup question => exact .inl ⟨question, mem_questions hs, fault?_eq_some.mp h⟩
  | gpu => exact .inr (failure?_gpu.mp h)

/-- **Building fails for the catalog and for the amount of GPUs.** With valid settings, every fault
of building is one that the catalog answered with, or says that the amount of GPUs cannot be read;
with a catalog that answers all seven questions, a role can be built exactly when it can. -/
theorem build_buildable (catalog : Catalog) (read : Settings) (cluster : Cluster) (role : Role)
    (status : Option RoleStatus) (replicas : Int) (native : Option Bool) :
    let result := (build catalog (.ok read) cluster role status replicas native).result
    ((∀ question ∈ questions role, ∃ a, catalog question cluster = .ok a) →
      ((∃ s, result = .ok s) ↔ ∀ e, ¬Environment.Unreadable role e)) ∧
    ∀ f, result = .error f →
      (∃ question ∈ questions role, catalog question cluster = .error f) ∨
        ∃ e, Environment.Unreadable role e ∧ f = .quantity e := by
  intro result
  have hfault : fault? result =
      (stages role native).findSome? (Stage.failure? catalog (.ok read) cluster role) :=
    (follows_build catalog (.ok read) cluster role status replicas native).fault
  have hcause : ∀ f, result = .error f →
      (∃ question ∈ questions role, catalog question cluster = .error f) ∨
        ∃ e, Environment.Unreadable role e ∧ f = .quantity e := by
    intro f hf
    rw [fault?_eq_some.mpr hf] at hfault
    obtain ⟨s, hs, hfails⟩ := List.exists_of_findSome?_eq_some hfault.symm
    exact failure?_eq_some hs hfails
  refine ⟨fun hanswers => ⟨?_, ?_⟩, hcause⟩
  · intro hok e he
    rw [fault?_eq_none.mpr hok] at hfault
    have hnone := List.findSome?_eq_none_iff.mp hfault.symm .gpu (by simp [stages])
    have hsome : Stage.gpu.failure? catalog (.ok read) cluster role = some (.quantity e) :=
      failure?_gpu.mpr ⟨e, he, rfl⟩
    simp [hnone] at hsome
  · intro hreadable
    cases hresult : result with
    | ok s => exact ⟨s, rfl⟩
    | error f =>
      rcases hcause f hresult with hcatalog | hgpu
      · obtain ⟨question, hquestion, hf⟩ := hcatalog
        obtain ⟨a, ha⟩ := hanswers question hquestion
        simp [ha] at hf
      · obtain ⟨e, he, -⟩ := hgpu
        exact absurd he (hreadable e)

/-- A cluster, and the app that it runs: one role with an image and nothing else. -/
def plainCluster : Cluster := { name := "c", ns := "n", uid := "u", spec := { app := "db" } }

def plainApp : App := { name := "db", defaultImage := some "db:1", roles := [{ id := "r" }] }

theorem plainApp_answers (h : role.id = "r") :
    ∀ question ∈ questions role,
      ∃ a, (Registry.ofApps [plainApp]).catalog question plainCluster = .ok a := by
  unfold questions
  rw [h]
  simp only [List.forall_mem_cons, List.not_mem_nil, false_implies, implies_true, and_true]
  exact ⟨⟨_, rfl⟩, ⟨_, rfl⟩, ⟨_, rfl⟩, ⟨_, rfl⟩, ⟨_, rfl⟩, ⟨_, rfl⟩, ⟨_, rfl⟩⟩

theorem build_buildable_halfGpu :
    let role : Role := { id := "r", resources := { requests := [("nvidia.com/gpu", "500m")] } }
    let run := build (Registry.ofApps [plainApp]).catalog (.ok {}) plainCluster role none 3 none
    let unknown := build (Registry.ofApps []).catalog (.ok {}) plainCluster role none 3 none
    (∃ s, run.result = .ok s) ∧
      ∃ f, unknown.result = .error f ∧
        ∃ question ∈ questions role,
          (Registry.ofApps []).catalog question plainCluster = .error f := by
  intro role run unknown
  have hreadable : ∀ e, ¬Environment.Unreadable role e := by
    intro e he
    have hgpu : Environment.requestsGpu role = .ok true := by decide +kernel
    simp [Environment.requestsGpu_eq_error.mpr he] at hgpu
  have hbuilt := (build_buildable (Registry.ofApps [plainApp]).catalog {} plainCluster role none 3
    none).1 (plainApp_answers rfl)
  have hunknown : unknown.result = .error (.catalog (.unknownApp "db" "n/c")) := by rfl
  have hcause := (build_buildable (Registry.ofApps []).catalog {} plainCluster role none 3
    none).2 _ hunknown
  refine ⟨hbuilt.mpr hreadable, _, hunknown, ?_⟩
  rcases hcause with hcatalog | hgpu
  · exact hcatalog
  · obtain ⟨e, he, -⟩ := hgpu
    exact absurd he (hreadable e)

/-- An empty file gives no settings. -/
theorem parse_empty (environment : Entries String) : EnvFile.parse environment "" = [] := by
  have hbindings : EnvFile.bindings [] = [] := by
    unfold EnvFile.bindings
    rfl
  show (EnvFile.bindings []).foldl _ [] = []
  rw [hbindings]
  rfl

/-- A role that is valid as it is written. What it asks for is counted in a word. -/
def wordy : Json :=
  .obj [("id", .str "r"),
    ("resources", .obj [("requests", .obj [("nvidia.com/gpu", .str "one")])])]

/-- A valid role that cannot be built, with the default settings and a catalog that answers. -/
theorem build_wordyGpu :
    let written : Json := .obj [("name", .str "c"), ("namespace", .str "n"), ("uid", .str "u"),
      ("spec", .obj [("app", .str "db")])]
    let catalog := (Registry.ofApps [plainApp]).catalog
    ∃ role, Settings.read [] "" = .ok {} ∧ Cluster.schema.read written = .ok plainCluster ∧
      Role.schema.read wordy = .ok role ∧
      (∀ question ∈ questions role, ∃ a, catalog question plainCluster = .ok a) ∧
      (build catalog (.ok {}) plainCluster role none 0 none).result =
        .error (.quantity (.invalidNumber "one")) := by
  intro written catalog
  have hsettings : Settings.read [] "" = .ok {} := by
    unfold Settings.read
    rw [parse_empty]
    rfl
  exact ⟨_, hsettings, rfl, rfl, plainApp_answers rfl, rfl⟩

end Synthesis
end StatefulRoles
