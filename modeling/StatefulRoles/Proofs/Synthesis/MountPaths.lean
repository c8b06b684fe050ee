import StatefulRoles.Catalog.Registry
import StatefulRoles.Proofs.Synthesis.Persistence
import StatefulRoles.Proofs.Synthesis.Stages
/-!
# Where things are mounted

The app container mounts each directory kept at its own path, and the platform mounts scratch space
and, if they are needed, the host's control groups at fixed ones. The directories kept are chosen
without a look at these paths, and an app may ask for one of them.

Results:
* `defaults_apart`: the platform's own directories are no matter: none of them is at or above one of
  the fixed paths.
* `kept_platformPaths_iff`: which of the app's directories are kept at a fixed path.
* `build_paths_nodup_iff`: for a role with storage that brings no mounts of its own, all mounts have
  different paths exactly when there is no such directory.
* `build_tmpTwice`: an app with such a directory.
-/
namespace StatefulRoles

open Directory (absolute Above Covers)

namespace Mounting

/-- Where the platform mounts scratch space and, if they are needed, control groups. -/
def platformPaths (needsControlGroups : Bool) : List String :=
  ["/tmp", "/run", "/run/lock"] ++
    if needsControlGroups then ["/sys/fs/cgroup", "/sys/fs/cgroup/systemd"] else []

/-- An app asks for a directory that the platform mounts something on, and for nothing above it. -/
def Clashes (declared : List String) (needsControlGroups : Bool) : Prop :=
  ∃ d ∈ declared, absolute d ∈ platformPaths needsControlGroups ∧
    ∀ other ∈ declared, ¬Above (absolute other) (absolute d)

instance (declared : List String) (needed : Bool) : Decidable (Clashes declared needed) :=
  inferInstanceAs (Decidable (∃ d ∈ declared, _ ∧ _))

theorem platformPaths_nodup (needed : Bool) : (platformPaths needed).Nodup := by
  cases needed <;> decide +kernel

theorem platformPaths_subset (needed : Bool) : platformPaths needed ⊆ platformPaths true := by
  cases needed <;> decide +kernel

/-- None of the platform's directories is at or above one of the fixed paths. -/
theorem defaults_apart {setup : Option SetupPackage} {d path : String} {needed : Bool}
    (hd : d ∈ Directory.defaults setup) (hpath : path ∈ platformPaths needed) :
    ¬Covers (absolute d) path := by
  have hpath := platformPaths_subset needed hpath
  have hplain : ∀ d ∈ Directory.plainDefaults, ∀ path ∈ platformPaths true,
      ¬Covers (absolute d) path := by decide +kernel
  have hnew : ∀ d ∈ Directory.newLayoutDefaults, ∀ path ∈ platformPaths true,
      ¬Covers (absolute d) path := by decide +kernel
  have hold : ∀ d ∈ Directory.oldLayoutDefaults, ∀ path ∈ platformPaths true,
      ¬Covers (absolute d) path := by decide +kernel
  unfold Directory.defaults at hd
  split at hd
  · exact hplain d hd path hpath
  · split at hd
    · exact hnew d hd path hpath
    · exact hold d hd path hpath

/-- A directory is kept at a fixed path exactly when the app asks for it and for nothing above
it. -/
theorem kept_platformPaths_iff {setup : Option SetupPackage} {appDirs : Option (List String)}
    {source : String} {needed : Bool} :
    (∃ path ∈ platformPaths needed,
        path ∈ (Directory.resolve (Directory.defaults setup) appDirs source).dirs) ↔
      Clashes (appDirs.getD []) needed := by
  constructor
  · intro hkept
    obtain ⟨path, hpath, hdir⟩ := hkept
    obtain ⟨⟨e, he, heq⟩, hnone⟩ := Directory.mem_resolve_dirs.mp hdir
    subst heq
    rcases List.mem_append.mp he with hdefault | happ
    · exact absurd (Directory.Covers.refl _) (defaults_apart hdefault hpath)
    · exact ⟨e, happ, hpath, fun other hother => hnone other (List.mem_append_right _ hother)⟩
  · intro hclash
    obtain ⟨e, happ, hpath, hnone⟩ := hclash
    refine ⟨absolute e, hpath, Directory.mem_resolve_dirs.mpr ⟨?_, ?_⟩⟩
    · exact ⟨e, List.mem_append_right _ happ, rfl⟩
    · intro other hother habove
      rcases List.mem_append.mp hother with hdefault | hother
      · exact defaults_apart hdefault hpath habove.covers
      · exact hnone other hother habove

theorem claimMounts_paths (dirs : List String) (claim : String) :
    (claimMounts dirs claim).map (·.mountPath) = dirs := by
  simp [claimMounts, Function.comp_def]

/-- A role that brings no secret and no claims mounts what the platform does besides its volume. -/
theorem unclaimed_paths {role : Role} (hsecret : role.secret = none)
    (hprojections : role.projections = []) (size : String) (needed : Bool) :
    (unclaimed role size needed).mounts.map (·.mountPath) = platformPaths needed := by
  unfold unclaimed
  rw [hsecret, hprojections]
  cases needed <;> rfl

end Mounting

namespace Synthesis

open Mounting

/-- **Two mounts on one path.** In every stateful set that is built for a role with storage and
without a secret and claims of others, all mounts of the app have different paths exactly when the
app does not ask to keep a directory that the platform mounts something on. -/
theorem build_paths_nodup_iff {catalog : Catalog} {settings : Checked Settings} {cluster : Cluster}
    {role : Role} {status : Option RoleStatus} {replicas : Int} {native : Option Bool}
    {s : StatefulSet}
    (h : (build catalog settings cluster role status replicas native).result = .ok s)
    (hstorage : role.storage.isSome = true) (hsecret : role.secret = none)
    (hprojections : role.projections = []) :
    ∃ pod appDirs needed, s.spec.template = some pod ∧
      catalog (.persistDirs role.id) cluster = .ok appDirs ∧
      (needed = true ↔ NeedsControlGroups catalog settings cluster native) ∧
      ((pod.app.mounts.map (·.mountPath)).Nodup ↔ ¬Clashes (appDirs.getD []) needed) := by
  obtain ⟨facts, hfacts, hs⟩ := build_eq_ok.mp h
  subst hs
  obtain ⟨read, hread, hgathered⟩ := gather_eq_ok.mp hfacts
  obtain ⟨systemd, hsystemd, hmounting⟩ := hgathered.mounting
  obtain ⟨appDirs, happDirs, hdirs⟩ := hgathered.dirs
  refine ⟨_, appDirs, systemd && !native.getD read.nativeSystemd, rfl, happDirs, ?_, ?_⟩
  · simp [NeedsControlGroups, hread, hsystemd]
  · have hpaths : (podTemplate cluster role facts).app.mounts.map (·.mountPath) =
        facts.dirs ++ platformPaths (systemd && !native.getD read.nativeSystemd) := by
      rw [podTemplate_mounts hmounting, List.map_append, persistent, if_pos hstorage,
        claimMounts_paths, unclaimed_paths hsecret hprojections]
    have hnodup := Directory.resolve_dirs_nodup (Directory.defaults facts.setup) appDirs role.id
    rw [hpaths, List.nodup_append', ← kept_platformPaths_iff, hdirs]
    constructor
    · intro hall hkept
      obtain ⟨path, hpath, hdir⟩ := hkept
      exact hall.2.2 hdir hpath
    · intro hnone
      refine ⟨hnodup, platformPaths_nodup _, ?_⟩
      intro path hdir hpath
      exact hnone ⟨path, hpath, hdir⟩

/-- A role with storage and nothing else. -/
def keepingRole : Role := { id := "db", storage := some ⟨"10Gi", none⟩ }

theorem build_paths_nodup_iff_keepingRole :
    let cluster : Cluster := { name := "c", ns := "n", uid := "u", spec := { app := "db" } }
    let run := build (plainCatalog (some ["/tmp/cache", "/run/lock", "run"])) (.ok {}) cluster
      keepingRole none 3 (some true)
    let safe := build (plainCatalog (some ["/tmp/cache", "/sys/fs/cgroup", "/run/lock", "//"]))
      (.ok {}) cluster keepingRole none 3 none
    (∃ s pod, run.result = .ok s ∧ s.spec.template = some pod ∧
      ¬(pod.app.mounts.map (·.mountPath)).Nodup) ∧
    ∃ s pod, safe.result = .ok s ∧ s.spec.template = some pod ∧
      (pod.app.mounts.map (·.mountPath)).Nodup := by
  intro cluster run safe
  constructor
  · obtain ⟨s, hs⟩ : ∃ s, run.result = .ok s := ⟨_, rfl⟩
    obtain ⟨pod, appDirs, needed, hpod, happDirs, -, hiff⟩ :=
      build_paths_nodup_iff hs rfl rfl rfl
    cases happDirs
    have hclash : ∀ needed, Clashes ["/tmp/cache", "/run/lock", "run"] needed := by decide +kernel
    exact ⟨s, pod, hs, hpod, fun hnodup => hiff.mp hnodup (hclash needed)⟩
  · obtain ⟨s, hs⟩ : ∃ s, safe.result = .ok s := ⟨_, rfl⟩
    obtain ⟨pod, appDirs, needed, hpod, happDirs, -, hiff⟩ :=
      build_paths_nodup_iff hs rfl rfl rfl
    cases happDirs
    have hclash : ∀ needed,
        ¬Clashes ["/tmp/cache", "/sys/fs/cgroup", "/run/lock", "//"] needed := by decide +kernel
    exact ⟨s, pod, hs, hpod, hiff.mpr (hclash needed)⟩

/-- An app that keeps what the platform has in memory: both are mounted on one path. -/
theorem build_tmpTwice :
    let app : App :=
      { name := "db", defaultImage := some "db:1",
        roles := [{ id := "db", persistDirs := some ["tmp/"] }] }
    let run := build (Registry.ofApps [app]).catalog (.ok {})
      { name := "c", ns := "n", uid := "u", spec := { app := "db" } } keepingRole none 0 none
    ∃ s pod, run.result = .ok s ∧ s.spec.template = some pod ∧
      pod.app.mounts.map (·.mountPath) = ["/etc", "/tmp", "/tmp", "/run", "/run/lock"] ∧
      ¬(pod.app.mounts.map (·.mountPath)).Nodup := by
  intro app run
  obtain ⟨s, hs⟩ : ∃ s, run.result = .ok s := ⟨_, rfl⟩
  obtain ⟨pod, hpod⟩ : ∃ pod, s.spec.template = some pod := by
    cases hs
    exact ⟨_, rfl⟩
  have hpaths :
      pod.app.mounts.map (·.mountPath) = ["/etc", "/tmp", "/tmp", "/run", "/run/lock"] := by
    cases hs
    cases hpod
    rfl
  refine ⟨s, pod, hs, hpod, hpaths, ?_⟩
  rw [hpaths]
  decide

end Synthesis
end StatefulRoles
