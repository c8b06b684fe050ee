import StatefulRoles.Manifest
import StatefulRoles.Settings
import StatefulRoles.Script
/-!
# Volumes of a role's members

What a member mounts and where it comes from. The persistent volume is claimed anew for every
member and mounted once for each directory kept on it; scratch space is memory of limited size;
secrets and existing claims are mounted where the role asks; and an app that runs systemd sees the
host's control groups.
-/
namespace StatefulRoles

/-- Mounts of the app container, and volumes of the pod. -/
structure Mounting where
  mounts : List VolumeMount := []
  volumes : List Volume := []
deriving DecidableEq, Repr

namespace Mounting

/-- The mounts and the volumes of both, in order. -/
def append (a b : Mounting) : Mounting := ⟨a.mounts ++ b.mounts, a.volumes ++ b.volumes⟩

instance : Append Mounting := ⟨append⟩

/-- All mounts and all volumes of a list, in order. -/
def concat (ms : List Mounting) : Mounting := ⟨ms.flatMap mounts, ms.flatMap volumes⟩

/-! ## The persistent volume -/

/-- The claim template of the persistent volume. Mirrors `PVC_NAME`. -/
def claimName : String := "p"

/-- The part of the volume that holds a directory: its path without the first character. -/
def subPath (dir : String) : String := String.ofList (dir.toList.drop 1)

/-- One mount for each directory kept, all of one claim. Mirrors `generate_claim_mounts`. -/
def claimMounts (dirs : List String) (claim : String) : List VolumeMount :=
  dirs.map fun dir => ⟨claim, dir, some false, some (subPath dir)⟩

/-- The whole volume, where the init container populates it. Mirrors
`generate_init_volume_mounts`. -/
def initMounts (claim : String) : List VolumeMount := [⟨claim, Script.mountPath, some false, none⟩]

/-! ## Raw devices -/

/-- The claim template of a device. Mirrors `block_device_name`. -/
def deviceName (index : Nat) : String := s!"block-pvc-{index}"

/-- The devices of a role's members, each at the role's path with its number behind it. Mirrors
`generate_volume_devices`. -/
def devices (role : Role) : List VolumeDevice :=
  match role.blockStorage with
  | none => []
  | some block =>
    (List.range block.numDevices).map fun i => ⟨deviceName i, s!"{block.path}{i}"⟩

/-! ## Claims -/

/-- The first text that is there and not empty, or else the last one. -/
def firstText (texts : List (Option String)) (last : String) : String :=
  ((texts.filterMap id).find? (· ≠ "")).getD last

/-- The claims made for every member. `blockSize` is the size of a device when the role says none.
Part of `get_volume_claim_templates`. -/
def claims (role : Role) (claim blockSize : String) : List ClaimTemplate :=
  (role.storage.toList.map fun s => ⟨claim, s.size, s.storageClass, .filesystem⟩) ++
    role.blockStorage.toList.flatMap fun b =>
      (List.range b.numDevices).map fun i =>
        ⟨deviceName i, firstText [b.size] blockSize, b.storageClass, .block⟩

/-- Does the size of a role's devices come from elsewhere? -/
def lacksBlockSize (role : Role) : Bool :=
  role.blockStorage.any fun b => firstText [b.size] "" = ""

/-- The claims with a size for devices that may be given; the settings are read only when neither
the role nor the caller says one. Mirrors `get_volume_claim_templates`. -/
def claimsWith (role : Role) (claim : String) (given : Option String)
    (settings : Checked Settings) : Checked (List ClaimTemplate) :=
  let size := firstText [given] ""
  if lacksBlockSize role && size = "" then settings.map fun s => claims role claim s.blockDeviceSize
  else .ok (claims role claim size)

/-! ## Scratch space, secrets, other claims, control groups -/

/-- The scratch volumes and where they are mounted. -/
def scratchPlaces : List (String × String) :=
  [("tmpfs-tmp", "/tmp"), ("tmpfs-run", "/run"), ("tmpfs-run-lock", "/run/lock")]

/-- Scratch space in memory, each volume of limited size. Part of `generate_tmpfs_support`. -/
def scratch (sizeLimit : String) : Mounting where
  mounts := scratchPlaces.map fun (name, path) => ⟨name, path, none, none⟩
  volumes := scratchPlaces.map fun (name, _) => ⟨name, .memory sizeLimit⟩

/-- Scratch space with a limit that may be given; otherwise the settings are read for it. Mirrors
`generate_tmpfs_support`. -/
def scratchWith (given : Option String) (settings : Checked Settings) : Checked Mounting :=
  let size := firstText [given] ""
  if size = "" then settings.map fun s => scratch s.scratchSize else .ok (scratch size)

/-- A role's secret, if it has one. Mirrors `generate_secret_volume`. -/
def secret : Option Secret → Mounting
  | none => {}
  | some s =>
    let volume := s!"secret-vol-{s.name}"
    ⟨[⟨volume, s.mountPath, some s.readOnly, none⟩], [⟨volume, .secret s.name s.defaultMode⟩]⟩

/-- An existing claim; its volume is named by its position. Part of
`generate_volume_projection_mounts`. -/
def projection (index : Int) (p : Projection) : Mounting :=
  let volume := s!"projected-vol-{index}"
  ⟨[⟨volume, p.mountPath, some p.readOnly, none⟩], [⟨volume, .claim p.claim p.readOnly⟩]⟩

/-- All existing claims of a role. Mirrors `generate_volume_projection_mounts`. -/
def projections (ps : List Projection) : Mounting :=
  concat (ps.zipIdx.map fun (p, index) => projection index p)

/-- The host's control groups, and the part of them that is systemd's. Mirrors
`generate_systemd_support`. -/
def controlGroups : Mounting where
  mounts := [⟨"cgroupfs", "/sys/fs/cgroup", some true, none⟩,
    ⟨"systemd", "/sys/fs/cgroup/systemd", none, none⟩]
  volumes := [⟨"cgroupfs", .hostPath "/sys/fs/cgroup"⟩,
    ⟨"systemd", .hostPath "/sys/fs/cgroup/systemd"⟩]

/-! ## Together -/

/-- The mounts of the directories kept, which a role without storage does not have. The volume
itself comes from the claim. -/
def persistent (role : Role) (dirs : List String) (claim : String) : Mounting :=
  if role.storage.isSome then ⟨claimMounts dirs claim, []⟩ else {}

/-- All mounts and volumes of a role's members. Mirrors `generate_volume_mounts`. -/
def ofRole (role : Role) (dirs : List String) (claim scratchSize : String)
    (needsControlGroups : Bool) : Mounting :=
  concat [persistent role dirs claim, scratch scratchSize, secret role.secret,
    projections role.projections, if needsControlGroups then controlGroups else {}]

end Mounting
end StatefulRoles
