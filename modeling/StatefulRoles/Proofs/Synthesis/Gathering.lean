import StatefulRoles.Proofs.Directory.Resolution
import StatefulRoles.Proofs.Trace
import StatefulRoles.Synthesis
/-!
# What a stateful set is composed of

`build` asks many questions in turn, any of which may fail. Here a run that ends with a stateful
set is read backwards: what it was composed of, and where each part came from.

Results:
* `build_eq_ok`: a run ends with a stateful set exactly when the facts could be gathered, and then
  the stateful set is composed of them.
* `gather_eq_ok`: the facts could be gathered exactly when the settings can be read, the catalog
  answers every question and the role's request for GPUs can be read; the facts are these answers.
* `Gathered.countP_etc`: whatever the catalog says, exactly one directory kept is `/etc` or lies
  above it.
-/
namespace StatefulRoles.Synthesis

variable {catalog : Catalog} {settings : Checked Settings} {cluster : Cluster} {role : Role}

/-- Where the parts of the facts come from, given the settings that were read. -/
structure Gathered (catalog : Catalog) (read : Settings) (cluster : Cluster) (role : Role)
    (native : Option Bool) (facts : Facts) : Prop where
  ports : catalog (.ports role.id) cluster = .ok facts.ports
  setup : catalog (.setupPackage role.id) cluster = .ok facts.setup
  image : catalog (.image role.id) cluster = .ok facts.image
  capabilities : catalog .capabilities cluster = .ok facts.capabilities
  terminal : ∃ spec, catalog (.containerSpec role.id) cluster = .ok spec ∧
    facts.terminal = spec.getD {}
  dirs : ∃ appDirs, catalog (.persistDirs role.id) cluster = .ok appDirs ∧
    facts.dirs = (Directory.resolve (Directory.defaults facts.setup) appDirs role.id).dirs
  mounting : ∃ systemd, catalog .systemdRequired cluster = .ok systemd ∧
    facts.mounting = Mounting.ofRole role facts.dirs Mounting.claimName read.scratchSize
      (systemd && !native.getD read.nativeSystemd)
  gpu : Environment.requestsGpu role = .ok facts.gpu
  nameBeginning : facts.nameBeginning = read.nameBeginning
  blockSize : facts.blockSize = read.blockDeviceSize

@[simp] theorem ask_result (question : Lookup) :
    (ask catalog cluster question).result = catalog question cluster := rfl

theorem toExcept_eq_ok {α : Type} {c : Checked α} {a : α} : c.toExcept = .ok a ↔ c = .ok a := by
  cases c <;> simp [Checked.toExcept]

theorem readSettings_eq_ok {read : Settings} :
    (readSettings settings).result = .ok read ↔ settings = .ok read := toExcept_eq_ok

theorem readNative_eq_ok {read : Settings} (h : settings = .ok read) (native : Option Bool) :
    (readNative native settings).result = .ok (native.getD read.nativeSystemd) := by
  subst h
  cases native <;> rfl

@[simp] theorem log_result {ε : Type} (lines : List Log) :
    (Traced.log lines : Traced Effect ε Unit).result = .ok () := rfl

theorem mounting_eq_ok {read : Settings} (h : settings = .ok read) {native : Bool}
    {dirs : List String} {claim : String} {m : Mounting} :
    (mounting catalog settings cluster role native dirs claim).result = .ok m ↔
      ∃ systemd, catalog .systemdRequired cluster = .ok systemd ∧
        m = Mounting.ofRole role dirs claim read.scratchSize (systemd && !native) := by
  unfold mounting
  simp only [Traced.result_bind_eq_ok, readSettings_eq_ok, ask_result, log_result,
    Traced.result_pure, Except.ok.injEq, h, Checked.ok.injEq, exists_eq_left',
    exists_const, true_and, @eq_comm _ _ m]

/-- The facts are what was answered; gathering them takes an answer to every question. -/
theorem gather_eq_ok {native : Option Bool} {facts : Facts} :
    (gather catalog settings cluster role native).result = .ok facts ↔
      ∃ read, settings = .ok read ∧ Gathered catalog read cluster role native facts := by
  unfold gather
  simp only [Traced.result_bind_eq_ok, ask_result, log_result, Traced.result_pure,
    Traced.result_ofExcept, readSettings_eq_ok, mapError_eq_ok, Except.ok.injEq]
  constructor
  · rintro ⟨n, hn, ports, hports, appDirs, hdirs, setup, hsetup, image, himage, capabilities,
      hcapabilities, terminal, hterminal, -, -, m, hm, read, hread, gpu, hgpu, rfl⟩
    rw [readNative_eq_ok hread, Except.ok.injEq] at hn
    rw [mounting_eq_ok hread, ← hn] at hm
    exact ⟨read, hread, hports, hsetup, himage, hcapabilities, ⟨terminal, hterminal, rfl⟩,
      ⟨appDirs, hdirs, rfl⟩, hm, hgpu, rfl, rfl⟩
  · rintro ⟨read, hread, h⟩
    obtain ⟨terminal, hterminal, hterminal'⟩ := h.terminal
    obtain ⟨appDirs, hdirs, hdirs'⟩ := h.dirs
    have hm := h.mounting
    refine ⟨_, readNative_eq_ok hread native, _, h.ports, _, hdirs, _, h.setup, _, h.image, _,
      h.capabilities, _, hterminal, (), trivial, facts.mounting, ?_, read, hread, _, h.gpu, ?_⟩
    · rw [← hdirs']
      exact (mounting_eq_ok hread).mpr hm
    · rw [← hdirs', ← hterminal', ← h.nameBeginning, ← h.blockSize]

/-- A run ends with a stateful set exactly when the facts could be gathered. -/
theorem build_eq_ok {status : Option RoleStatus} {replicas : Int} {native : Option Bool}
    {s : StatefulSet} :
    (build catalog settings cluster role status replicas native).result = .ok s ↔
      ∃ facts, (gather catalog settings cluster role native).result = .ok facts ∧
        s = compose cluster role status replicas facts := by
  unfold build
  simp only [Traced.result_bind_eq_ok, Traced.result_pure, Except.ok.injEq, @eq_comm _ _ s]

/-! ## The directories kept -/

/-- The platform keeps `/etc` for every role. -/
theorem etc_mem_defaults (setup : Option SetupPackage) : "/etc" ∈ Directory.defaults setup := by
  cases setup with
  | none => exact List.mem_cons_self
  | some setup =>
    simp only [Directory.defaults]
    split
    · exact List.mem_cons_self
    · exact List.mem_cons_self

theorem Gathered.countP_etc {read : Settings} {native : Option Bool} {facts : Facts}
    (h : Gathered catalog read cluster role native facts) :
    facts.dirs.countP (Directory.Covers · "/etc") = 1 := by
  obtain ⟨appDirs, -, hdirs⟩ := h.dirs
  have hmem : "/etc" ∈ Directory.requested (Directory.defaults facts.setup) appDirs :=
    List.mem_append_left _ (etc_mem_defaults facts.setup)
  have habs : Directory.absolute "/etc" = "/etc" := by decide +kernel
  have hcount := Directory.countP_covers role.id hmem
  rwa [← hdirs, habs] at hcount

theorem Gathered.dirs_ne_nil {read : Settings} {native : Option Bool} {facts : Facts}
    (h : Gathered catalog read cluster role native facts) : facts.dirs ≠ [] := by
  intro hnil
  have hcount := h.countP_etc
  rw [hnil] at hcount
  cases hcount

/-- A catalog whose apps need systemd, say which directories to keep, and ask for nothing else. -/
def plainCatalog (dirs : Option (List String)) : Catalog
  | .ports _, _ => .ok []
  | .persistDirs _, _ => .ok dirs
  | .setupPackage _, _ => .ok none
  | .image _, _ => .ok "app:1"
  | .capabilities, _ => .ok []
  | .systemdRequired, _ => .ok true
  | .containerSpec _, _ => .ok none

end StatefulRoles.Synthesis
