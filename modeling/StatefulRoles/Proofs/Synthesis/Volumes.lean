import Mathlib.Data.List.Nodup
import Std.Data.String.ToInt
import StatefulRoles.Proofs.Synthesis.Gathering
/-!
# Volumes, claims and what mounts them

Three parts of a stateful set name volumes without seeing each other: the pod's volumes, the claims
made for every member, and the mounts and devices of the containers. A name is made from what the
volume is for (`Purpose`), and different purposes have different names, so that these lists agree
as soon as their purposes do.

Results:
* `Purpose.name_injective`: the name of a volume says what it is for, whatever a role's secret is
  called and however many devices and existing claims it has.
* `purposes_nodup`: no two volumes of a pod, and no two claims made for it, are for the same.
* `build_wired`: in every stateful set that is built, each mount has its volume or claim, each
  volume its mount, and each device its claim.
-/
namespace StatefulRoles

/-! ## Purposes -/

/-- What a volume of a member is for. -/
inductive Purpose where
  | persistent
  | device (index : Nat)
  | scratch (place : String)
  | secret (name : String)
  | projection (index : Nat)
  | controlGroups
  | systemd

namespace Purpose

/-- The name of a volume, by what it is for. -/
def name : Purpose → String
  | persistent => Mounting.claimName
  | device index => Mounting.deviceName index
  | scratch place => "tmpfs-" ++ place
  | secret name => "secret-vol-" ++ name
  | projection index => "projected-vol-" ++ Int.repr index
  | controlGroups => "cgroupfs"
  | systemd => "systemd"

/-- How the names of one kind of purpose begin, and of no other kind. -/
def mark : Purpose → List Char
  | persistent => ['p']
  | device _ => ['b', 'l']
  | scratch _ => ['t', 'm']
  | secret _ => ['s', 'e']
  | projection _ => ['p', 'r']
  | controlGroups => ['c', 'g']
  | systemd => ['s', 'y']

theorem take_append {b : String} {x y : Char} (e : String) (h : b.toList.take 2 = [x, y]) :
    (b ++ e).toList.take 2 = [x, y] := by
  have hlen : 2 ≤ b.toList.length := by
    have := congrArg List.length h
    simp only [List.length_take, List.length_cons, List.length_nil] at this
    omega
  rw [String.toList_append, List.take_append_of_le_length hlen, h]

theorem name_take (p : Purpose) : p.name.toList.take 2 = p.mark := by
  cases p with
  | persistent => decide +kernel
  | device index => exact take_append (Nat.repr index) (by decide +kernel)
  | scratch place => exact take_append place (by decide +kernel)
  | secret name => exact take_append name (by decide +kernel)
  | projection index => exact take_append (Int.repr index) (by decide +kernel)
  | controlGroups => decide +kernel
  | systemd => decide +kernel

/-- Different purposes have different names. -/
theorem name_injective : Function.Injective name := by
  intro a b h
  have hm : a.mark = b.mark := by rw [← name_take, ← name_take, h]
  -- only purposes of one kind have one mark
  cases a <;> cases b <;> try (cases hm; done)
  case persistent.persistent => rfl
  case device.device i j =>
    have hi : Nat.repr i = Nat.repr j := String.append_right_inj "block-pvc-" |>.mp h
    rw [Nat.repr_inj.mp hi]
  case scratch.scratch place place' => exact congrArg scratch (String.append_right_inj _ |>.mp h)
  case secret.secret s s' => exact congrArg secret (String.append_right_inj _ |>.mp h)
  case projection.projection i j =>
    have hi : (i : Int) = j := Int.repr_inj.mp (String.append_right_inj _ |>.mp h)
    rw [Int.ofNat.inj hi]
  case controlGroups.controlGroups => rfl
  case systemd.systemd => rfl

end Purpose

/-! ## The lists of names -/

namespace Mounting

/-- What the volumes of a pod are for, in order. -/
def podPurposes (role : Role) (needsControlGroups : Bool) : List Purpose :=
  [.scratch "tmp", .scratch "run", .scratch "run-lock"] ++
    (role.secret.toList.map fun s => .secret s.name) ++
    (List.range role.projections.length).map .projection ++
    if needsControlGroups then [.controlGroups, .systemd] else []

/-- How many devices a member has. -/
def deviceCount (role : Role) : Nat := role.blockStorage.elim 0 (·.numDevices)

/-- What the claims for a member are for, in order. -/
def claimPurposes (role : Role) : List Purpose :=
  (role.storage.toList.map fun _ => .persistent) ++ (List.range (deviceCount role)).map .device

@[simp] theorem append_mounts (a b : Mounting) : (a ++ b).mounts = a.mounts ++ b.mounts := rfl

@[simp] theorem append_volumes (a b : Mounting) : (a ++ b).volumes = a.volumes ++ b.volumes := rfl

/-- The volumes of a part, and its mounts as well, are named for the given purposes in turn. -/
structure Serves (m : Mounting) (ps : List Purpose) : Prop where
  mounts : m.mounts.map (·.name) = ps.map Purpose.name
  volumes : m.volumes.map (·.name) = ps.map Purpose.name

theorem serves_scratch (sizeLimit : String) :
    Serves (scratch sizeLimit) [.scratch "tmp", .scratch "run", .scratch "run-lock"] := by
  have h : scratchPlaces.map (·.1) = ["tmpfs-" ++ "tmp", "tmpfs-" ++ "run", "tmpfs-" ++ "run-lock"] := by
    decide +kernel
  exact ⟨h, h⟩

theorem serves_secret (s : Option Secret) :
    Serves (secret s) (s.toList.map fun s => .secret s.name) := by
  cases s with
  | none => exact ⟨rfl, rfl⟩
  | some s => exact ⟨rfl, rfl⟩

theorem Serves.append {a b : Mounting} {ps qs : List Purpose} (ha : Serves a ps)
    (hb : Serves b qs) : Serves (a ++ b) (ps ++ qs) := by
  constructor
  · rw [append_mounts, List.map_append, List.map_append, ha.mounts, hb.mounts]
  · rw [append_volumes, List.map_append, List.map_append, ha.volumes, hb.volumes]

theorem serves_concat_map {α : Type} {f : α → Mounting} {purpose : α → Purpose}
    (h : ∀ a, Serves (f a) [purpose a]) (l : List α) :
    Serves (concat (l.map f)) (l.map purpose) := by
  induction l with
  | nil => exact ⟨rfl, rfl⟩
  | cons a l ih => exact (h a).append ih

theorem serves_projections (ps : List Projection) :
    Serves (projections ps) ((List.range ps.length).map .projection) := by
  have h : (List.range ps.length).map .projection =
      ps.zipIdx.map fun x => Purpose.projection x.2 := by
    rw [List.range_eq_range', ← List.zipIdx_map_snd 0 ps, List.map_map]
    rfl
  rw [h]
  exact serves_concat_map (fun _ => ⟨rfl, rfl⟩) _

theorem serves_controlGroups (needed : Bool) :
    Serves (if needed then controlGroups else {})
      (if needed then [.controlGroups, .systemd] else []) := by
  cases needed with
  | false => exact ⟨rfl, rfl⟩
  | true => exact ⟨rfl, rfl⟩

/-- What a member mounts that is not claimed for it, with the volumes for it. -/
def unclaimed (role : Role) (scratchSize : String) (needed : Bool) : Mounting :=
  scratch scratchSize ++ secret role.secret ++ projections role.projections ++
    if needed then controlGroups else {}

theorem serves_unclaimed (role : Role) (scratchSize : String) (needed : Bool) :
    Serves (unclaimed role scratchSize needed) (podPurposes role needed) :=
  (((serves_scratch scratchSize).append (serves_secret role.secret)).append
    (serves_projections role.projections)).append (serves_controlGroups needed)

theorem persistent_volumes (role : Role) (dirs : List String) (claim : String) :
    (persistent role dirs claim).volumes = [] := by
  unfold persistent
  split <;> rfl

/-- The mounts of the claim come first. -/
theorem ofRole_mounts (role : Role) (dirs : List String) (claim scratchSize : String)
    (needed : Bool) : (ofRole role dirs claim scratchSize needed).mounts =
      (persistent role dirs claim).mounts ++ (unclaimed role scratchSize needed).mounts := by
  simp [ofRole, concat, unclaimed]

/-- Every volume of the pod is for something that is not claimed. -/
theorem ofRole_volumes (role : Role) (dirs : List String) (claim scratchSize : String)
    (needed : Bool) : (ofRole role dirs claim scratchSize needed).volumes =
      (unclaimed role scratchSize needed).volumes := by
  simp [ofRole, concat, unclaimed, persistent_volumes]

theorem claims_names (role : Role) (size : String) :
    (claims role claimName size).map (·.name) = (claimPurposes role).map Purpose.name := by
  unfold claims claimPurposes deviceCount
  cases role.storage <;> cases role.blockStorage <;> simp [Purpose.name, Function.comp_def]

theorem claims_block_names (role : Role) (size : String) :
    ((claims role claimName size).filter (·.mode = .block)).map (·.name) =
      (List.range (deviceCount role)).map deviceName := by
  unfold claims deviceCount
  cases role.storage <;> cases role.blockStorage <;> simp [Function.comp_def, List.filter_map]

theorem devices_names (role : Role) :
    (devices role).map (·.name) = (List.range (deviceCount role)).map deviceName := by
  unfold devices deviceCount
  cases role.blockStorage <;> simp [Function.comp_def]

theorem devices_length (role : Role) : (devices role).length = deviceCount role := by
  have h := congrArg List.length (devices_names role)
  rwa [List.length_map, List.length_map, List.length_range] at h

/-- No two devices are at one path. -/
theorem devices_paths_nodup (role : Role) : ((devices role).map (·.devicePath)).Nodup := by
  unfold devices
  cases role.blockStorage with
  | none => exact List.nodup_nil
  | some block =>
    dsimp only
    rw [List.map_map]
    refine List.nodup_range.map fun i j h => ?_
    have hi : Nat.repr i = Nat.repr j := String.append_right_inj block.path |>.mp h
    exact Nat.repr_inj.mp hi

/-- No two volumes of a pod, and no two claims made for it, are for the same. -/
theorem purposes_nodup (role : Role) (needed : Bool) :
    (podPurposes role needed ++ claimPurposes role).Nodup := by
  have hdevices : (List.range (deviceCount role)).map Purpose.device |>.Nodup :=
    List.nodup_range.map fun _ _ h => Purpose.device.inj h
  have hprojections : (List.range role.projections.length).map Purpose.projection |>.Nodup :=
    List.nodup_range.map fun _ _ h => Purpose.projection.inj h
  unfold podPurposes claimPurposes
  cases role.secret <;> cases role.storage <;> cases needed <;>
    simp [List.nodup_append, hdevices, hprojections]

end Mounting

namespace Synthesis

open Mounting

/-- No volume of a pod is called like the claim. -/
theorem claimName_not_mem (role : Role) (needed : Bool) :
    claimName ∉ (podPurposes role needed).map Purpose.name := by
  have hpurpose : Purpose.persistent ∉ podPurposes role needed := by
    unfold podPurposes
    cases needed <;> simp
  exact fun h => hpurpose ((List.mem_map_of_injective Purpose.name_injective).mp h)

theorem unclaimed_name_ne {role : Role} {size : String} {needed : Bool} {m : VolumeMount}
    (h : m ∈ (unclaimed role size needed).mounts) : m.name ≠ claimName := by
  intro hname
  have hmem : m.name ∈ (podPurposes role needed).map Purpose.name :=
    (serves_unclaimed role size needed).mounts ▸ List.mem_map_of_mem h
  exact claimName_not_mem role needed (hname ▸ hmem)

/-! ## What is built -/

/-- What the containers of a pod mount, the init container first. -/
def mounted (pod : PodTemplate) : List VolumeMount :=
  pod.init.toList.flatMap (·.mounts) ++ pod.app.mounts

/-- How the volumes of a role's members, the claims made for them, and what the containers mount
and open as devices agree. -/
structure Wired (role : Role) (pod : PodTemplate) (claims : List ClaimTemplate) : Prop where
  volumes_nodup : (pod.volumes.map (·.name)).Nodup
  claims_nodup : (claims.map (·.name)).Nodup
  disjoint : (pod.volumes.map (·.name)).Disjoint (claims.map (·.name))
  /-- a mount has one volume of the pod and no claim, or only the claim with a file system -/
  mount : ∀ m ∈ mounted pod,
    (pod.volumes.map (·.name)).count m.name = 1 ∧ m.name ∉ claims.map (·.name) ∨
      m.name = "p" ∧ m.name ∉ pod.volumes.map (·.name) ∧
        ∃ c, claims.filter (·.name = m.name) = [c] ∧ c.mode = .filesystem
  devices : pod.app.devices.map (·.name) = (claims.filter (·.mode = .block)).map (·.name)
  devices_length : pod.app.devices.length = role.blockStorage.elim 0 (·.numDevices)
  devices_paths : (pod.app.devices.map (·.devicePath)).Nodup
  volume : ∀ v ∈ pod.volumes, (pod.app.mounts.map (·.name)).count v.name = 1
  claim : (∃ c ∈ claims, c.name = "p") ↔ role.storage.isSome = true
  init : pod.init.isSome = role.storage.isSome
  /-- a claim with a file system is mounted by the app -/
  used : role.storage.isSome = true → ∃ m ∈ pod.app.mounts, m.name = "p"

theorem claimMounts_name {dirs : List String} {m : VolumeMount} (h : m ∈ claimMounts dirs claimName) :
    m.name = claimName := by
  obtain ⟨dir, -, rfl⟩ := List.mem_map.mp h
  rfl

theorem mem_persistent {role : Role} {dirs : List String} {m : VolumeMount}
    (h : m ∈ (persistent role dirs claimName).mounts) :
    m.name = claimName ∧ role.storage.isSome = true := by
  unfold persistent at h
  split at h
  · exact ⟨claimMounts_name h, ‹_›⟩
  · simp at h

theorem claims_filter {role : Role} {size : String} (h : role.storage.isSome = true) :
    ∃ c, (claims role claimName size).filter (·.name = claimName) = [c] ∧
      c.mode = .filesystem := by
  obtain ⟨storage, hs⟩ := Option.isSome_iff_exists.mp h
  refine ⟨⟨claimName, storage.size, storage.storageClass, .filesystem⟩, ?_, rfl⟩
  have hdevice : ∀ i, deviceName i ≠ claimName := by
    intro i he
    have : Purpose.device i = .persistent := Purpose.name_injective he
    cases this
  unfold claims
  cases role.blockStorage <;> simp [hs, hdevice]

theorem persistent_mem_claimPurposes {role : Role} :
    Purpose.persistent ∈ claimPurposes role ↔ role.storage.isSome = true := by
  unfold claimPurposes
  cases role.storage <;> simp

theorem claimName_mem_claims {role : Role} {size : String} :
    (∃ c ∈ claims role claimName size, c.name = claimName) ↔ role.storage.isSome = true := by
  rw [← persistent_mem_claimPurposes, ← List.mem_map_of_injective Purpose.name_injective,
    ← claims_names role size, List.mem_map]
  rfl

theorem initContainer_isSome (role : Role) (image : String) (dirs : List String) (claim : String) :
    (initContainer role image dirs claim).isSome = role.storage.isSome := by
  unfold initContainer
  split <;> simp_all

section

variable {cluster : Cluster} {role : Role} {facts : Facts} {size : String} {needed : Bool}

theorem podTemplate_mounts (h : facts.mounting = ofRole role facts.dirs claimName size needed) :
    (podTemplate cluster role facts).app.mounts =
      (persistent role facts.dirs claimName).mounts ++ (unclaimed role size needed).mounts := by
  rw [← ofRole_mounts, ← h]
  rfl

theorem podTemplate_volumes (h : facts.mounting = ofRole role facts.dirs claimName size needed) :
    (podTemplate cluster role facts).volumes.map (·.name) =
      (podPurposes role needed).map Purpose.name := by
  rw [← (serves_unclaimed role size needed).volumes, ← ofRole_volumes role facts.dirs claimName, ← h]
  rfl

/-- A mount is of the claim, which is there, or of a volume of the pod. -/
theorem mounted_cases (h : facts.mounting = ofRole role facts.dirs claimName size needed)
    {m : VolumeMount} (hm : m ∈ mounted (podTemplate cluster role facts)) :
    (m.name = claimName ∧ role.storage.isSome = true) ∨ m ∈ (unclaimed role size needed).mounts := by
  rcases List.mem_append.mp hm with hm | hm
  · obtain ⟨init, hinit, hm⟩ := List.mem_flatMap.mp hm
    obtain ⟨hs, hinit⟩ := Option.ite_none_right_eq_some.mp (Option.mem_toList.mp hinit)
    cases hinit
    cases List.mem_singleton.mp hm
    exact .inl ⟨rfl, hs⟩
  · rw [podTemplate_mounts h] at hm
    rcases List.mem_append.mp hm with hm | hm
    · exact .inl (mem_persistent hm)
    · exact .inr hm

/-- The app mounts every volume of the pod once: not with the claim, and once besides. -/
theorem count_mounts (h : facts.mounting = ofRole role facts.dirs claimName size needed)
    {name : String} (hn : name ∈ (podPurposes role needed).map Purpose.name) :
    ((podTemplate cluster role facts).app.mounts.map (·.name)).count name = 1 := by
  have hnodup := (List.nodup_append'.mp (purposes_nodup role needed)).1.map Purpose.name_injective
  have hnone : ((persistent role facts.dirs claimName).mounts.map (·.name)).count name = 0 := by
    rw [List.count_eq_zero]
    intro hc
    obtain ⟨m, hm, hname⟩ := List.mem_map.mp hc
    exact claimName_not_mem role needed ((mem_persistent hm).1 ▸ hname ▸ hn)
  rw [podTemplate_mounts h, List.map_append, List.count_append, hnone,
    (serves_unclaimed role size needed).mounts, List.count_eq_one_of_mem hnodup hn]

theorem compose_wired (status : Option RoleStatus) (replicas : Int) (hdirs : facts.dirs ≠ [])
    (h : facts.mounting = ofRole role facts.dirs claimName size needed) :
    Wired role (podTemplate cluster role facts)
      (compose cluster role status replicas facts).spec.claimTemplates := by
  have hpod : (podTemplate cluster role facts).volumes.map (·.name) =
      (podPurposes role needed).map Purpose.name := podTemplate_volumes h
  have hclaims : (compose cluster role status replicas facts).spec.claimTemplates.map (·.name) =
      (claimPurposes role).map Purpose.name := claims_names role facts.blockSize
  have hnodup := (purposes_nodup role needed).map Purpose.name_injective
  rw [List.map_append, List.nodup_append'] at hnodup
  obtain ⟨hvolumes, hclaims', hdisjoint⟩ := hnodup
  refine ⟨hpod ▸ hvolumes, hclaims ▸ hclaims', ?_, ?_, ?_, ?_, devices_paths_nodup role, ?_,
    claimName_mem_claims, initContainer_isSome _ _ _ _, ?_⟩
  · rw [hpod, hclaims]
    exact hdisjoint
  · intro m hm
    rw [hpod, hclaims]
    rcases mounted_cases h hm with ⟨hname, hs⟩ | hm
    · refine .inr ⟨hname, hname ▸ claimName_not_mem role needed, ?_⟩
      rw [hname]
      exact claims_filter hs
    · have hmem : m.name ∈ (podPurposes role needed).map Purpose.name :=
        (serves_unclaimed role size needed).mounts ▸ List.mem_map_of_mem hm
      exact .inl ⟨List.count_eq_one_of_mem hvolumes hmem, fun hc => hdisjoint hmem hc⟩
  · exact (devices_names role).trans (claims_block_names role facts.blockSize).symm
  · exact devices_length role
  · intro v hv
    exact count_mounts h (hpod ▸ List.mem_map_of_mem hv)
  · intro hs
    obtain ⟨dir, hdir⟩ := List.exists_mem_of_ne_nil _ hdirs
    refine ⟨⟨claimName, dir, some false, some (subPath dir)⟩, ?_, rfl⟩
    rw [podTemplate_mounts h, persistent, if_pos hs]
    exact List.mem_append_left _ (List.mem_map_of_mem hdir)

end

/-- **Volumes, claims and mounts agree.** In every stateful set that is built for a role, each
mount has one volume of the pod or else the role's claim, each volume is mounted once, and the
devices are the raw claims in turn. -/
theorem build_wired {catalog : Catalog} {settings : Checked Settings} {cluster : Cluster}
    {role : Role} {status : Option RoleStatus} {replicas : Int} {native : Option Bool}
    {s : StatefulSet}
    (h : (build catalog settings cluster role status replicas native).result = .ok s) :
    ∃ pod, s.spec.template = some pod ∧ Wired role pod s.spec.claimTemplates := by
  obtain ⟨facts, hfacts, rfl⟩ := build_eq_ok.mp h
  obtain ⟨read, -, hgathered⟩ := gather_eq_ok.mp hfacts
  obtain ⟨systemd, -, hmounting⟩ := hgathered.mounting
  exact ⟨_, rfl, compose_wired status replicas hgathered.dirs_ne_nil hmounting⟩

/-- A role with a volume, two devices, a secret that is called like the claim, and a claim of
another. -/
def storingRole : Role :=
  { id := "db", storage := some ⟨"10Gi", none⟩, blockStorage := some { numDevices := 2 },
    secret := some ⟨"p", "/secret", true, none⟩, projections := [⟨"shared", "/shared", false⟩] }

theorem build_wired_storingRole :
    let run := build (plainCatalog (some ["/data"])) (.ok {})
      { name := "c", ns := "n", uid := "u", spec := { app := "db" } } storingRole none 3 none
    ∃ s pod, run.result = .ok s ∧ s.spec.template = some pod ∧
      Wired storingRole pod s.spec.claimTemplates := by
  intro run
  obtain ⟨s, hs⟩ : ∃ s, run.result = .ok s := ⟨_, rfl⟩
  obtain ⟨pod, hpod, hwired⟩ := build_wired hs
  exact ⟨s, pod, hs, hpod, hwired⟩

end Synthesis
end StatefulRoles
