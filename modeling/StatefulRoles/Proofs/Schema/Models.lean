import StatefulRoles.App
import StatefulRoles.Cluster
import StatefulRoles.Proofs.Schema.Faithful
/-!
# Clusters and apps are read back

Each class of values that clusters and apps are made up of has a schema, and all of these are
faithful.

Results:
* `Role.faithful`, `Cluster.faithful`, `App.faithful` and those of the classes that these hold:
  member by member, what was read is read again; so are the values taken for missing members.
* `Storage.read_size`, `BlockStorage.read_size`: a size has the text that was read.
* `Class.read_write`: what is written of a value of any class has all its members and is read as
  that value.
-/
namespace StatefulRoles

open Schema Checked

/-! ## Roles -/

theorem Resources.faithful : Resources.schema.Faithful := by
  refine Faithful.object rfl (fun _ => rfl) fun o m h => ?_
  rw [seq_eq_ok, exists_map_eq_ok] at h
  obtain ⟨requests, hrequests, limits, hlimits, rfl⟩ := h
  have hrequests := faithful_text.map.defaulted ⟨rfl, fun _ => rfl⟩ hrequests
  have hlimits := faithful_text.map.defaulted ⟨rfl, fun _ => rfl⟩ hlimits
  refine ⟨?_, fun ho => ?_⟩
  · rw [seq_eq_ok, exists_map_eq_ok]
    exact ⟨requests, hrequests.defaulted rfl, limits, hlimits.defaulted rfl, rfl⟩
  · simp only [Members.Finite, List.forall_mem_cons]
    exact ⟨hrequests.finite ho, hlimits.finite ho, nofun⟩

theorem Storage.faithful : Storage.schema.Faithful := by
  refine Faithful.object rfl (fun _ => rfl) fun o m h => ?_
  rw [seq_eq_ok, exists_map_eq_ok] at h
  obtain ⟨size, hsize, storageClass, hstorageClass, rfl⟩ := h
  have hsize := faithful_quantity.required hsize
  have hstorageClass := (faithful_text.option nofun).defaulted ⟨rfl, fun _ => rfl⟩ hstorageClass
  refine ⟨?_, fun ho => ?_⟩
  · rw [seq_eq_ok, exists_map_eq_ok]
    exact ⟨size, hsize.required rfl, storageClass, hstorageClass.defaulted rfl, rfl⟩
  · simp only [Members.Finite, List.forall_mem_cons]
    exact ⟨hsize.finite ho, hstorageClass.finite ho, nofun⟩

/-- How many devices there are is not negative when it is written, so it is accepted again. -/
theorem BlockStorage.faithful_deviceCount : BlockStorage.deviceCount.Faithful := by
  intro x n _
  refine ⟨?_, fun _ => rfl⟩
  show (if (n : Int) < 0 then issue .negativeDevices else ok (n : Int).toNat) = .ok n
  rw [if_neg (Int.not_lt.mpr (Int.natCast_nonneg n)), Int.toNat_natCast]

theorem BlockStorage.faithful : BlockStorage.schema.Faithful := by
  refine Faithful.object rfl (fun _ => rfl) fun o m h => ?_
  rw [seq_eq_ok] at h
  simp only [exists_seq_eq_ok, exists_map_eq_ok] at h
  obtain ⟨count, hcount, size, hsize, storageClass, hstorageClass, path, hpath, rfl⟩ := h
  have hcount := faithful_deviceCount.defaulted ⟨rfl, fun _ => rfl⟩ hcount
  have hsize := (faithful_quantity.option nofun).defaulted ⟨rfl, fun _ => rfl⟩ hsize
  have hstorageClass := (faithful_text.option nofun).defaulted ⟨rfl, fun _ => rfl⟩ hstorageClass
  have hpath := faithful_text.defaulted ⟨rfl, fun _ => rfl⟩ hpath
  refine ⟨?_, fun ho => ?_⟩
  · rw [seq_eq_ok]
    simp only [exists_seq_eq_ok, exists_map_eq_ok]
    exact ⟨count, hcount.defaulted rfl, size, hsize.defaulted rfl, storageClass,
      hstorageClass.defaulted rfl, path, hpath.defaulted rfl, rfl⟩
  · simp only [Members.Finite, List.forall_mem_cons]
    exact ⟨hcount.finite ho, hsize.finite ho, hstorageClass.finite ho, hpath.finite ho, nofun⟩

theorem Secret.faithful : Secret.schema.Faithful := by
  refine Faithful.object rfl (fun _ => rfl) fun o m h => ?_
  rw [seq_eq_ok] at h
  simp only [exists_seq_eq_ok, exists_map_eq_ok] at h
  obtain ⟨name, hname, mountPath, hmountPath, readOnly, hreadOnly, mode, hmode, rfl⟩ := h
  have hname := faithful_text.required hname
  have hmountPath := faithful_text.required hmountPath
  have hreadOnly := faithful_boolean.defaulted ⟨rfl, fun _ => rfl⟩ hreadOnly
  have hmode := (faithful_integer.option nofun).defaulted ⟨rfl, fun _ => rfl⟩ hmode
  refine ⟨?_, fun ho => ?_⟩
  · rw [seq_eq_ok]
    simp only [exists_seq_eq_ok, exists_map_eq_ok]
    exact ⟨name, hname.required rfl, mountPath, hmountPath.required rfl, readOnly,
      hreadOnly.defaulted rfl, mode, hmode.defaulted rfl, rfl⟩
  · simp only [Members.Finite, List.forall_mem_cons]
    exact ⟨hname.finite ho, hmountPath.finite ho, hreadOnly.finite ho, hmode.finite ho, nofun⟩

theorem Projection.faithful : Projection.schema.Faithful := by
  refine Faithful.object rfl (fun _ => rfl) fun o m h => ?_
  rw [seq_eq_ok] at h
  simp only [exists_seq_eq_ok, exists_map_eq_ok] at h
  obtain ⟨claim, hclaim, mountPath, hmountPath, readOnly, hreadOnly, rfl⟩ := h
  have hclaim := faithful_text.required hclaim
  have hmountPath := faithful_text.required hmountPath
  have hreadOnly := faithful_boolean.defaulted ⟨rfl, fun _ => rfl⟩ hreadOnly
  refine ⟨?_, fun ho => ?_⟩
  · rw [seq_eq_ok]
    simp only [exists_seq_eq_ok, exists_map_eq_ok]
    exact ⟨claim, hclaim.required rfl, mountPath, hmountPath.required rfl, readOnly,
      hreadOnly.defaulted rfl, rfl⟩
  · simp only [Members.Finite, List.forall_mem_cons]
    exact ⟨hclaim.finite ho, hmountPath.finite ho, hreadOnly.finite ho, nofun⟩

theorem EnvVar.faithful : EnvVar.schema.Faithful := by
  refine Faithful.object rfl (fun _ => rfl) fun o m h => ?_
  rw [seq_eq_ok, exists_map_eq_ok] at h
  obtain ⟨name, hname, value, hvalue, rfl⟩ := h
  have hname := faithful_text.required hname
  have hvalue := faithful_text.defaulted ⟨rfl, fun _ => rfl⟩ hvalue
  refine ⟨?_, fun ho => ?_⟩
  · rw [seq_eq_ok, exists_map_eq_ok]
    exact ⟨name, hname.required rfl, value, hvalue.defaulted rfl, rfl⟩
  · simp only [Members.Finite, List.forall_mem_cons]
    exact ⟨hname.finite ho, hvalue.finite ho, nofun⟩

theorem Role.faithful : Role.schema.Faithful := by
  refine Faithful.object rfl (fun _ => rfl) fun o m h => ?_
  rw [seq_eq_ok] at h
  simp only [exists_seq_eq_ok, exists_map_eq_ok] at h
  obtain ⟨id, hid, members, hmembers, resources, hresources, storage, hstorage, block, hblock,
    account, haccount, secret, hsecret, projections, hprojections, affinity, haffinity, envVars,
    henvVars, rfl⟩ := h
  have hid := faithful_text.required hid
  have hmembers := faithful_integer.defaulted ⟨rfl, fun _ => rfl⟩ hmembers
  have hresources := Resources.faithful.defaulted ⟨rfl, fun _ => rfl⟩ hresources
  have hstorage := (Storage.faithful.option nofun).defaulted ⟨rfl, fun _ => rfl⟩ hstorage
  have hblock := (BlockStorage.faithful.option nofun).defaulted ⟨rfl, fun _ => rfl⟩ hblock
  have haccount := faithful_text.defaulted ⟨rfl, fun _ => rfl⟩ haccount
  have hsecret := (Secret.faithful.option nofun).defaulted ⟨rfl, fun _ => rfl⟩ hsecret
  have hprojections := Projection.faithful.list.defaulted ⟨rfl, fun _ => rfl⟩ hprojections
  have haffinity := (faithful_anything.map.option nofun).defaulted ⟨rfl, fun _ => rfl⟩ haffinity
  have henvVars := EnvVar.faithful.list.defaulted ⟨rfl, fun _ => rfl⟩ henvVars
  refine ⟨?_, fun ho => ?_⟩
  · rw [seq_eq_ok]
    simp only [exists_seq_eq_ok, exists_map_eq_ok]
    exact ⟨id, hid.required rfl, members, hmembers.defaulted rfl, resources,
      hresources.defaulted rfl, storage, hstorage.defaulted rfl, block, hblock.defaulted rfl,
      account, haccount.defaulted rfl, secret, hsecret.defaulted rfl, projections,
      hprojections.defaulted rfl, affinity, haffinity.defaulted rfl, envVars,
      henvVars.defaulted rfl, rfl⟩
  · simp only [Members.Finite, List.forall_mem_cons]
    exact ⟨hid.finite ho, hmembers.finite ho, hresources.finite ho, hstorage.finite ho,
      hblock.finite ho, haccount.finite ho, hsecret.finite ho, hprojections.finite ho,
      haffinity.finite ho, henvVars.finite ho, nofun⟩

/-- A size has the text that was read. -/
theorem Storage.read_size {x : Json} {m : Storage} (hread : Storage.schema.read x = .ok m) :
    x.get? "size" = some (.str m.size) := by
  obtain ⟨o, rfl, h⟩ := object_eq_ok.mp hread
  rw [seq_eq_ok, exists_map_eq_ok] at h
  obtain ⟨size, hsize, _, _, rfl⟩ := h
  obtain ⟨value, hvalue, hsize⟩ := required_eq_ok.mp hsize
  obtain ⟨rfl, -⟩ := quantity_read_eq_ok.mp hsize
  exact hvalue

theorem BlockStorage.read_size {x : Json} {m : BlockStorage} {size : String}
    (hread : BlockStorage.schema.read x = .ok m) (hsize : m.size = some size) :
    x.get? "size" = some (.str size) := by
  obtain ⟨o, rfl, h⟩ := object_eq_ok.mp hread
  rw [seq_eq_ok] at h
  simp only [exists_seq_eq_ok, exists_map_eq_ok] at h
  obtain ⟨_, _, sized, hsized, _, _, _, _, rfl⟩ := h
  obtain rfl : sized = some size := hsize
  rcases defaulted_eq_ok.mp hsized with ⟨value, hvalue, hsome⟩ | ⟨-, hnone⟩
  · obtain ⟨rfl, -⟩ := quantity_read_eq_ok.mp (option_read_eq_some.mp hsome).2
    exact hvalue
  · cases hnone

/-! ## Clusters -/

theorem NamingScheme.faithful : NamingScheme.schema.Faithful :=
  faithful_listed fun scheme => by cases scheme <;> rfl

theorem RoleStatus.faithful : RoleStatus.schema.Faithful := by
  refine Faithful.object rfl (fun _ => rfl) fun o m h => ?_
  rw [seq_eq_ok, exists_map_eq_ok] at h
  obtain ⟨id, hid, recorded, hrecorded, rfl⟩ := h
  -- a status that was read has a name, if an empty one
  obtain ⟨name, hname, rfl⟩ := map_eq_ok.mp hrecorded
  have hid := faithful_text.required hid
  have hname := faithful_text.defaulted ⟨rfl, fun _ => rfl⟩ hname
  refine ⟨?_, fun ho => ?_⟩
  · rw [seq_eq_ok, exists_map_eq_ok]
    exact ⟨id, hid.required rfl, some name, map_eq_ok.mpr ⟨name, hname.defaulted rfl, rfl⟩, rfl⟩
  · simp only [Members.Finite, List.forall_mem_cons]
    exact ⟨hid.finite ho, hname.finite ho, nofun⟩

theorem ClusterSpec.faithful : ClusterSpec.schema.Faithful := by
  refine Faithful.object rfl (fun _ => rfl) fun o m h => ?_
  rw [seq_eq_ok] at h
  simp only [exists_seq_eq_ok, exists_map_eq_ok] at h
  obtain ⟨app, happ, appCatalog, happCatalog, scheme, hscheme, roles, hroles, rfl⟩ := h
  have happ := faithful_text.required happ
  have happCatalog := faithful_text.defaulted ⟨rfl, fun _ => rfl⟩ happCatalog
  have hscheme := NamingScheme.faithful.defaulted ⟨rfl, fun _ => rfl⟩ hscheme
  have hroles := Role.faithful.list.defaulted ⟨rfl, fun _ => rfl⟩ hroles
  refine ⟨?_, fun ho => ?_⟩
  · rw [seq_eq_ok]
    simp only [exists_seq_eq_ok, exists_map_eq_ok]
    exact ⟨app, happ.required rfl, appCatalog, happCatalog.defaulted rfl, scheme,
      hscheme.defaulted rfl, roles, hroles.defaulted rfl, rfl⟩
  · simp only [Members.Finite, List.forall_mem_cons]
    exact ⟨happ.finite ho, happCatalog.finite ho, hscheme.finite ho, hroles.finite ho, nofun⟩

theorem ClusterStatus.faithful : ClusterStatus.schema.Faithful := by
  refine Faithful.object rfl (fun _ => rfl) fun o m h => ?_
  rw [seq_eq_ok, exists_map_eq_ok] at h
  obtain ⟨service, hservice, roles, hroles, rfl⟩ := h
  have hservice := faithful_text.defaulted ⟨rfl, fun _ => rfl⟩ hservice
  have hroles := RoleStatus.faithful.list.defaulted ⟨rfl, fun _ => rfl⟩ hroles
  refine ⟨?_, fun ho => ?_⟩
  · rw [seq_eq_ok, exists_map_eq_ok]
    exact ⟨service, hservice.defaulted rfl, roles, hroles.defaulted rfl, rfl⟩
  · simp only [Members.Finite, List.forall_mem_cons]
    exact ⟨hservice.finite ho, hroles.finite ho, nofun⟩

theorem Cluster.faithful : Cluster.schema.Faithful := by
  refine Faithful.object rfl (fun _ => rfl) fun o m h => ?_
  rw [seq_eq_ok] at h
  simp only [exists_seq_eq_ok, exists_map_eq_ok] at h
  obtain ⟨apiVersion, hapiVersion, kind, hkind, name, hname, ns, hns, uid, huid, spec, hspec,
    status, hstatus, rfl⟩ := h
  have hapiVersion := faithful_text.defaulted ⟨rfl, fun _ => rfl⟩ hapiVersion
  have hkind := faithful_text.defaulted ⟨rfl, fun _ => rfl⟩ hkind
  have hname := faithful_text.required hname
  have hns := faithful_text.required hns
  have huid := faithful_text.required huid
  have hspec := ClusterSpec.faithful.required hspec
  have hstatus := ClusterStatus.faithful.defaulted ⟨rfl, fun _ => rfl⟩ hstatus
  refine ⟨?_, fun ho => ?_⟩
  · rw [seq_eq_ok]
    simp only [exists_seq_eq_ok, exists_map_eq_ok]
    exact ⟨apiVersion, hapiVersion.defaulted rfl, kind, hkind.defaulted rfl, name,
      hname.required rfl, ns, hns.required rfl, uid, huid.required rfl, spec, hspec.required rfl,
      status, hstatus.defaulted rfl, rfl⟩
  · simp only [Members.Finite, List.forall_mem_cons]
    exact ⟨hapiVersion.finite ho, hkind.finite ho, hname.finite ho, hns.finite ho, huid.finite ho,
      hspec.finite ho, hstatus.finite ho, nofun⟩

/-! ## Apps -/

theorem PortInfo.faithful : PortInfo.schema.Faithful := by
  refine Faithful.object rfl (fun _ => rfl) fun o m h => ?_
  rw [seq_eq_ok, exists_map_eq_ok] at h
  obtain ⟨id, hid, port, hport, rfl⟩ := h
  have hid := faithful_text.required hid
  have hport := faithful_integer.required hport
  refine ⟨?_, fun ho => ?_⟩
  · rw [seq_eq_ok, exists_map_eq_ok]
    exact ⟨id, hid.required rfl, port, hport.required rfl, rfl⟩
  · simp only [Members.Finite, List.forall_mem_cons]
    exact ⟨hid.finite ho, hport.finite ho, nofun⟩

theorem AppService.faithful : AppService.schema.Faithful := by
  refine Faithful.object rfl (fun _ => rfl) fun o m h => ?_
  rw [seq_eq_ok, exists_map_eq_ok] at h
  obtain ⟨id, hid, port, hport, rfl⟩ := h
  have hid := faithful_text.required hid
  have hport := (faithful_integer.option nofun).defaulted ⟨rfl, fun _ => rfl⟩ hport
  refine ⟨?_, fun ho => ?_⟩
  · rw [seq_eq_ok, exists_map_eq_ok]
    exact ⟨id, hid.required rfl, port, hport.defaulted rfl, rfl⟩
  · simp only [Members.Finite, List.forall_mem_cons]
    exact ⟨hid.finite ho, hport.finite ho, nofun⟩

theorem SetupPackage.faithful : SetupPackage.schema.Faithful := by
  refine Faithful.object rfl (fun _ => rfl) fun o m h => ?_
  rw [seq_eq_ok, exists_map_eq_ok] at h
  obtain ⟨url, hurl, newLayout, hnewLayout, rfl⟩ := h
  have hurl := faithful_text.defaulted ⟨rfl, fun _ => rfl⟩ hurl
  have hnewLayout := faithful_boolean.defaulted ⟨rfl, fun _ => rfl⟩ hnewLayout
  refine ⟨?_, fun ho => ?_⟩
  · rw [seq_eq_ok, exists_map_eq_ok]
    exact ⟨url, hurl.defaulted rfl, newLayout, hnewLayout.defaulted rfl, rfl⟩
  · simp only [Members.Finite, List.forall_mem_cons]
    exact ⟨hurl.finite ho, hnewLayout.finite ho, nofun⟩

theorem ContainerSpec.faithful : ContainerSpec.schema.Faithful := by
  refine Faithful.object rfl (fun _ => rfl) fun o m h => ?_
  rw [seq_eq_ok, exists_map_eq_ok] at h
  obtain ⟨tty, htty, stdin, hstdin, rfl⟩ := h
  have htty := faithful_boolean.defaulted ⟨rfl, fun _ => rfl⟩ htty
  have hstdin := faithful_boolean.defaulted ⟨rfl, fun _ => rfl⟩ hstdin
  refine ⟨?_, fun ho => ?_⟩
  · rw [seq_eq_ok, exists_map_eq_ok]
    exact ⟨tty, htty.defaulted rfl, stdin, hstdin.defaulted rfl, rfl⟩
  · simp only [Members.Finite, List.forall_mem_cons]
    exact ⟨htty.finite ho, hstdin.finite ho, nofun⟩

theorem AppRole.faithful : AppRole.schema.Faithful := by
  refine Faithful.object rfl (fun _ => rfl) fun o m h => ?_
  rw [seq_eq_ok] at h
  simp only [exists_seq_eq_ok, exists_map_eq_ok] at h
  obtain ⟨id, hid, image, himage, services, hservices, dirs, hdirs, setup, hsetup, terminal,
    hterminal, rfl⟩ := h
  have hid := faithful_text.required hid
  have himage := (faithful_text.option nofun).defaulted ⟨rfl, fun _ => rfl⟩ himage
  have hservices := faithful_text.list.defaulted ⟨rfl, fun _ => rfl⟩ hservices
  have hdirs := (faithful_text.list.option nofun).defaulted ⟨rfl, fun _ => rfl⟩ hdirs
  have hsetup := (SetupPackage.faithful.option nofun).defaulted ⟨rfl, fun _ => rfl⟩ hsetup
  have hterminal := (ContainerSpec.faithful.option nofun).defaulted ⟨rfl, fun _ => rfl⟩ hterminal
  refine ⟨?_, fun ho => ?_⟩
  · rw [seq_eq_ok]
    simp only [exists_seq_eq_ok, exists_map_eq_ok]
    exact ⟨id, hid.required rfl, image, himage.defaulted rfl, services, hservices.defaulted rfl,
      dirs, hdirs.defaulted rfl, setup, hsetup.defaulted rfl, terminal, hterminal.defaulted rfl,
      rfl⟩
  · simp only [Members.Finite, List.forall_mem_cons]
    exact ⟨hid.finite ho, himage.finite ho, hservices.finite ho, hdirs.finite ho, hsetup.finite ho,
      hterminal.finite ho, nofun⟩

theorem App.faithful : App.schema.Faithful := by
  refine Faithful.object rfl (fun _ => rfl) fun o m h => ?_
  rw [seq_eq_ok] at h
  simp only [exists_seq_eq_ok, exists_map_eq_ok] at h
  obtain ⟨name, hname, image, himage, services, hservices, roles, hroles, capabilities,
    hcapabilities, systemd, hsystemd, rfl⟩ := h
  have hname := faithful_text.required hname
  have himage := (faithful_text.option nofun).defaulted ⟨rfl, fun _ => rfl⟩ himage
  have hservices := AppService.faithful.list.defaulted ⟨rfl, fun _ => rfl⟩ hservices
  have hroles := AppRole.faithful.list.defaulted ⟨rfl, fun _ => rfl⟩ hroles
  have hcapabilities := faithful_text.list.defaulted ⟨rfl, fun _ => rfl⟩ hcapabilities
  have hsystemd := faithful_boolean.defaulted ⟨rfl, fun _ => rfl⟩ hsystemd
  refine ⟨?_, fun ho => ?_⟩
  · rw [seq_eq_ok]
    simp only [exists_seq_eq_ok, exists_map_eq_ok]
    exact ⟨name, hname.required rfl, image, himage.defaulted rfl, services, hservices.defaulted rfl,
      roles, hroles.defaulted rfl, capabilities, hcapabilities.defaulted rfl, systemd,
      hsystemd.defaulted rfl, rfl⟩
  · simp only [Members.Finite, List.forall_mem_cons]
    exact ⟨hname.finite ho, himage.finite ho, hservices.finite ho, hroles.finite ho,
      hcapabilities.finite ho, hsystemd.finite ho, nofun⟩

/-! ## Every class -/

/-- The classes of values that clusters and apps are made up of: the schema of each, the names of
its members, and the sizes that a value of it has itself. -/
inductive Class : {α : Type} → Schema α → List String → (α → List String) → Prop where
  | resources : Class Resources.schema ["requests", "limits"] fun _ => []
  | storage : Class Storage.schema ["size", "storage_class"] fun m => [m.size]
  | blockStorage :
    Class BlockStorage.schema ["num_devices", "size", "storage_class", "path"] fun m => m.size.toList
  | secret : Class Secret.schema ["name", "mount_path", "read_only", "default_mode"] fun _ => []
  | projection : Class Projection.schema ["pvc_name", "mount_path", "read_only"] fun _ => []
  | envVar : Class EnvVar.schema ["name", "value"] fun _ => []
  | role : Class Role.schema ["id", "members", "resources", "storage", "block_storage",
      "service_account_name", "secret", "volume_projections", "affinity", "env_vars"] fun _ => []
  | roleStatus : Class RoleStatus.schema ["id", "stateful_set"] fun _ => []
  | clusterSpec :
    Class ClusterSpec.schema ["app", "app_catalog", "naming_scheme", "roles"] fun _ => []
  | clusterStatus : Class ClusterStatus.schema ["cluster_service", "roles"] fun _ => []
  | cluster : Class Cluster.schema
      ["api_version", "kind", "name", "namespace", "uid", "spec", "status"] fun _ => []
  | portInfo : Class PortInfo.schema ["id", "port"] fun _ => []
  | appService : Class AppService.schema ["id", "port"] fun _ => []
  | setupPackage : Class SetupPackage.schema ["package_url", "use_new_setup_layout"] fun _ => []
  | containerSpec : Class ContainerSpec.schema ["tty", "stdin"] fun _ => []
  | appRole : Class AppRole.schema ["id", "image_repo_tag", "services", "persist_dirs",
      "setup_package", "container_spec"] fun _ => []
  | app : Class App.schema ["name", "default_image_repo_tag", "services", "roles", "capabilities",
      "systemd_required"] fun _ => []

namespace Class

variable {α : Type} {s : Schema α} {names : List String} {sizes : α → List String} {x : Json} {m : α}

theorem faithful (h : Class s names sizes) : s.Faithful := by
  cases h with
  | resources => exact Resources.faithful
  | storage => exact Storage.faithful
  | blockStorage => exact BlockStorage.faithful
  | secret => exact Secret.faithful
  | projection => exact Projection.faithful
  | envVar => exact EnvVar.faithful
  | role => exact Role.faithful
  | roleStatus => exact RoleStatus.faithful
  | clusterSpec => exact ClusterSpec.faithful
  | clusterStatus => exact ClusterStatus.faithful
  | cluster => exact Cluster.faithful
  | portInfo => exact PortInfo.faithful
  | appService => exact AppService.faithful
  | setupPackage => exact SetupPackage.faithful
  | containerSpec => exact ContainerSpec.faithful
  | appRole => exact AppRole.faithful
  | app => exact App.faithful

theorem write_members (h : Class s names sizes) (m : α) :
    ∃ members, s.write m = .obj members ∧ members.map Prod.fst = names := by
  cases h <;> exact ⟨_, rfl, rfl⟩

/-- A size has the text that was read. -/
theorem read_sizes (h : Class s names sizes) (hread : s.read x = .ok m) :
    ∀ size ∈ sizes m, x.get? "size" = some (.str size) := by
  cases h with
  | storage => exact List.forall_mem_singleton.mpr (Storage.read_size hread)
  | blockStorage =>
    intro size hsize
    exact BlockStorage.read_size hread (Option.mem_toList.mp hsize)
  | _ => exact nofun

/-- **What is written is read back.** Whatever JSON value was read, what is written of the value that
it gave has all the members of its class, null where it has none, and is read as the very same
value; and so is what is sent of it, unless a number was infinite to begin with or a free part goes
too deep to be sent. A size that was accepted keeps its text. -/
theorem read_write (h : Class s names sizes) (hread : s.read x = .ok m) :
    (∃ members, s.write m = .obj members ∧ members.map Prod.fst = names) ∧
    s.read (s.write m) = .ok m ∧
    (x.withFiniteNumbers = x → ∀ j, s.send? m = some j → s.read j = .ok m) ∧
    ∀ size ∈ sizes m, x.get? "size" = some (.str size) := by
  have hagain := h.faithful x m hread
  refine ⟨h.write_members m, hagain.read, fun hx j hj => ?_, h.read_sizes hread⟩
  unfold send? at hj
  split at hj
  · cases hj
    rw [hagain.finite hx]
    exact hagain.read
  · cases hj

/-- A role whose members are written in more ways than one. -/
def leniently : Json :=
  .obj [("id", .str "db"), ("members", .str " +0__3.0 "),
    ("block_storage", .obj [("num_devices", .bool true), ("size", .str " 1_0Gi"), ("path", .str "")]),
    ("affinity", .obj [("weights", .arr [.null, .real (.finite true 5 (-1))])]),
    ("more", .null)]

theorem read_write_leniently : ∃ m : Role, Role.schema.read leniently = .ok m ∧ m.members = 3 ∧
    Role.schema.read (Role.schema.write m) = .ok m ∧
    ∃ j, Role.schema.send? m = some j ∧ Role.schema.read j = .ok m := by
  have hread : Role.schema.read leniently = .ok
      { id := "db", members := 3
        blockStorage := some { numDevices := 1, size := some " 1_0Gi", path := "" }
        affinity := some [("weights", .arr [.null, .real (.finite true 5 (-1))])] } := by
    rfl
  obtain ⟨-, hagain, hsent, -⟩ := read_write .role hread
  exact ⟨_, hread, rfl, hagain, _, rfl, hsent rfl _ rfl⟩

end Class
end StatefulRoles
