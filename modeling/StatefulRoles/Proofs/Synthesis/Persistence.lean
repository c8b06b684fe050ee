import StatefulRoles.Proofs.Script
import StatefulRoles.Proofs.Synthesis.Volumes
/-!
# What is kept on a role's volume

The app container mounts each directory kept from its own part of the role's volume, and the init
container copies the image's content there beforehand. They are made from one list of directories
by different means: one cuts the first slash off a path, the other quotes it in a script.

Results:
* `slash_subPath`, `names_subPath`: the part of the volume that holds a directory has the path of
  the directory, below the volume; `subPaths_pairwise`: so no part holds another one.
* `build_persisted`: in every stateful set that is built for a role with storage, what the app
  mounts of the volume is what the init container copies onto it, directory by directory; for a
  role without storage there is neither.
-/
namespace StatefulRoles

namespace Directory

theorem toList_absolute (path : String) : ∃ rest, (absolute path).toList = '/' :: rest :=
  ⟨_, String.toList_ofList⟩

end Directory

namespace Mounting

/-- Below the root, the part of the volume that holds a directory is the directory. -/
theorem slash_subPath {dir : String} {rest : List Char} (h : dir.toList = '/' :: rest) :
    "/" ++ subPath dir = dir := by
  have hslash : "/".toList = ['/'] := by decide +kernel
  rw [← String.toList_inj, String.toList_append, hslash, subPath, String.toList_ofList, h]
  rfl

theorem names_subPath {dir : String} {rest : List Char} (h : dir.toList = '/' :: rest) :
    Directory.names (subPath dir) = Directory.names dir := by
  have hsegments : Directory.segments dir.toList = [] :: Directory.segments rest := by
    rw [h, Directory.segments_slash]
  rw [Directory.names, Directory.names, hsegments, subPath, String.toList_ofList, h]
  simp

/-- Directories of which none covers another one have parts of which none holds another one. -/
theorem subPaths_pairwise {dirs : List String}
    (hslash : ∀ dir ∈ dirs, ∃ rest, dir.toList = '/' :: rest)
    (hpairs : dirs.Pairwise fun a b => ¬Directory.Covers a b ∧ ¬Directory.Covers b a) :
    (dirs.map subPath).Pairwise fun a b =>
      a ≠ b ∧ ¬Directory.Covers a b ∧ ¬Directory.Covers b a := by
  rw [List.pairwise_map]
  refine (List.Pairwise.and_mem.mp hpairs).imp ?_
  rintro a b ⟨ha, hb, hab, hba⟩
  obtain ⟨_, ha⟩ := hslash a ha
  obtain ⟨_, hb⟩ := hslash b hb
  unfold Directory.Covers at hab hba ⊢
  rw [names_subPath ha, names_subPath hb]
  refine ⟨fun heq => hab ?_, hab, hba⟩
  have hsame : a = b := by rw [← slash_subPath ha, heq, slash_subPath hb]
  exact hsame ▸ List.prefix_refl _

end Mounting

namespace Synthesis

open Mounting

/-- What the app mounts of the role's volume, in order. -/
def claimed (pod : PodTemplate) : List VolumeMount := pod.app.mounts.filter (·.name = "p")

/-- The directories that the app mounts from the role's volume and those that the init container
copies there are the given ones. -/
structure Persisted (dirs : List String) (pod : PodTemplate) : Prop where
  paths : (claimed pod).map (·.mountPath) = dirs
  /-- each directory has its own part of the volume -/
  subPath : ∀ m ∈ claimed pod, ∃ sub, m.subPath = some sub ∧ m.mountPath = "/" ++ sub
  /-- and no part holds another one -/
  subPaths : ((claimed pod).filterMap (·.subPath)).Pairwise fun a b =>
    a ≠ b ∧ ¬Directory.Covers a b ∧ ¬Directory.Covers b a
  init : ∃ init, pod.init = some init ∧
    Shell.copies "cp" init.script = some [⟨dirs.map some, some "/mnt"⟩] ∧
    Shell.copies "rsync" init.script = some [⟨dirs.map some, some "/mnt"⟩] ∧
    init.mounts.map (fun m => (m.name, m.mountPath, m.subPath)) = [("p", "/mnt", none)]
  /-- the marker's directory is kept, once -/
  marker : Directory.names "/etc" = (Directory.names Script.markerFile).dropLast ∧
    dirs.countP (Directory.Covers · "/etc") = 1

/-- What the app mounts of the volume is what it mounts of the directories. -/
theorem claimed_podTemplate {cluster : Cluster} {role : Role} {facts : Facts} {size : String}
    {needed : Bool} (h : facts.mounting = ofRole role facts.dirs claimName size needed) :
    claimed (podTemplate cluster role facts) = (persistent role facts.dirs claimName).mounts := by
  have hall : (persistent role facts.dirs claimName).mounts.filter (·.name = claimName) =
      (persistent role facts.dirs claimName).mounts := by
    rw [List.filter_eq_self]
    intro m hm
    exact decide_eq_true (mem_persistent hm).1
  have hnone : (unclaimed role size needed).mounts.filter (·.name = claimName) = [] := by
    rw [List.filter_eq_nil_iff]
    intro m hm
    simpa using unclaimed_name_ne hm
  show (podTemplate cluster role facts).app.mounts.filter (·.name = claimName) = _
  rw [podTemplate_mounts h, List.filter_append, hall, hnone, List.append_nil]

theorem Gathered.toList_dir {catalog : Catalog} {read : Settings} {cluster : Cluster} {role : Role}
    {native : Option Bool} {facts : Facts} (h : Gathered catalog read cluster role native facts) :
    ∀ dir ∈ facts.dirs, ∃ rest, dir.toList = '/' :: rest := by
  intro dir hdir
  obtain ⟨appDirs, -, hdirs⟩ := h.dirs
  rw [hdirs] at hdir
  obtain ⟨⟨e, -, rfl⟩, -⟩ := Directory.mem_resolve_dirs.mp hdir
  exact Directory.toList_absolute e

theorem compose_persisted {catalog : Catalog} {read : Settings} {cluster : Cluster} {role : Role}
    {native : Option Bool} {facts : Facts} (h : Gathered catalog read cluster role native facts)
    (hs : role.storage.isSome = true) : Persisted facts.dirs (podTemplate cluster role facts) := by
  obtain ⟨systemd, -, hmounting⟩ := h.mounting
  obtain ⟨appDirs, -, hdirs⟩ := h.dirs
  have hslash := h.toList_dir
  have hclaimed : claimed (podTemplate cluster role facts) = claimMounts facts.dirs claimName := by
    rw [claimed_podTemplate hmounting, persistent, if_pos hs]
  refine ⟨?_, ?_, ?_, ?_, ?_⟩
  · rw [hclaimed, claimMounts, List.map_map]
    exact List.map_id _
  · intro m hm
    rw [hclaimed] at hm
    obtain ⟨dir, hdir, rfl⟩ := List.mem_map.mp hm
    obtain ⟨rest, hrest⟩ := hslash dir hdir
    exact ⟨subPath dir, rfl, (slash_subPath hrest).symm⟩
  · have hsubs : (claimMounts facts.dirs claimName).filterMap (·.subPath) =
        facts.dirs.map subPath := by
      simp [claimMounts, List.filterMap_map]
    have hpairs := Directory.resolve_dirs_pairwise (Directory.defaults facts.setup) appDirs role.id
    rw [hclaimed, hsubs]
    exact subPaths_pairwise hslash (hdirs ▸ hpairs)
  · have hcopies : ∀ dir ∈ facts.dirs, dir.toList.head? ≠ some '-' := by
      intro dir hdir
      obtain ⟨rest, hrest⟩ := hslash dir hdir
      simp [hrest]
    exact ⟨_, if_pos hs, (Script.copies_populate hcopies).1, (Script.copies_populate hcopies).2, rfl⟩
  · exact ⟨by decide +kernel, h.countP_etc⟩

/-- **One list of directories.** In every stateful set that is built for a role with storage, the
app mounts exactly the directories kept, each from its own part of the role's volume, and the init
container copies exactly these onto the volume; for a role without storage there is neither. -/
theorem build_persisted {catalog : Catalog} {settings : Checked Settings} {cluster : Cluster}
    {role : Role} {status : Option RoleStatus} {replicas : Int} {native : Option Bool}
    {s : StatefulSet}
    (h : (build catalog settings cluster role status replicas native).result = .ok s) :
    ∃ pod, s.spec.template = some pod ∧
      (role.storage.isSome = true → ∃ setup appDirs,
        catalog (.setupPackage role.id) cluster = .ok setup ∧
        catalog (.persistDirs role.id) cluster = .ok appDirs ∧
        Persisted (Directory.resolve (Directory.defaults setup) appDirs role.id).dirs pod) ∧
      (role.storage = none →
        claimed pod = [] ∧ pod.init = none ∧ ∀ c ∈ s.spec.claimTemplates, c.name ≠ "p") := by
  obtain ⟨facts, hfacts, rfl⟩ := build_eq_ok.mp h
  obtain ⟨read, -, hgathered⟩ := gather_eq_ok.mp hfacts
  refine ⟨_, rfl, ?_, ?_⟩
  · intro hs
    obtain ⟨appDirs, happDirs, hdirs⟩ := hgathered.dirs
    exact ⟨facts.setup, appDirs, hgathered.setup, happDirs, hdirs ▸ compose_persisted hgathered hs⟩
  · intro hs
    have hnone : ¬role.storage.isSome = true := by simp [hs]
    obtain ⟨systemd, -, hmounting⟩ := hgathered.mounting
    refine ⟨?_, if_neg hnone, ?_⟩
    · rw [claimed_podTemplate hmounting, persistent, if_neg hnone]
    · intro c hc hname
      exact hnone (claimName_mem_claims.mp ⟨c, hc, hname⟩)

theorem build_persisted_storingRole :
    let run := build (plainCatalog (some ["/data", "my files/'x'"])) (.ok {})
      { name := "c", ns := "n", uid := "u", spec := { app := "db" } } storingRole none 3 none
    ∃ s pod, run.result = .ok s ∧ s.spec.template = some pod ∧
      Persisted (Directory.resolve ["/etc"] (some ["/data", "my files/'x'"]) "db").dirs pod := by
  intro run
  obtain ⟨s, hs⟩ : ∃ s, run.result = .ok s := ⟨_, rfl⟩
  obtain ⟨pod, hpod, hstorage, -⟩ := build_persisted hs
  obtain ⟨setup, appDirs, hsetup, happDirs, hpersisted⟩ := hstorage rfl
  cases hsetup
  cases happDirs
  exact ⟨s, pod, hs, hpod, hpersisted⟩

end Synthesis
end StatefulRoles
