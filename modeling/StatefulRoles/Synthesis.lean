import StatefulRoles.Directory.Defaults
import StatefulRoles.Directory.Resolution
import StatefulRoles.Effect
import StatefulRoles.Environment
import StatefulRoles.Metadata
import StatefulRoles.Mounting
/-!
# From a role to its stateful set

`build` first gathers what it needs, which can fail: settings, the catalog's answers, the role's
request for GPUs. `compose` then puts the stateful set together from it and cannot fail.
-/
namespace StatefulRoles.Synthesis

/-- What a stateful set is composed of, besides the cluster and the role. -/
structure Facts where
  ports : List PortInfo
  dirs : List String
  setup : Option SetupPackage
  image : String
  capabilities : List String
  terminal : ContainerSpec
  mounting : Mounting
  gpu : Bool
  nameBeginning : String
  blockSize : String

/-! ## Composition -/

/-- The init container, which a role without storage does not have. Mirrors
`get_init_containers`. -/
def initContainer (role : Role) (image : String) (dirs : List String) (claim : String) :
    Option InitContainer :=
  if role.storage.isSome then
    some ⟨image, role.resources, Script.populate dirs, Mounting.initMounts claim⟩
  else none

/-- The app container. Part of `build_statefulset`. -/
def appContainer (cluster : Cluster) (role : Role) (facts : Facts) : AppContainer where
  image := facts.image
  resources := role.resources
  startup := Script.startup cluster.status.clusterService
  ports := facts.ports
  mounts := facts.mounting.mounts
  devices := Mounting.devices role
  capabilities := facts.capabilities
  environment := Environment.ofRole role facts.setup facts.gpu
  terminal := facts.terminal

/-- The pods of the stateful set. Part of `build_statefulset`. -/
def podTemplate (cluster : Cluster) (role : Role) (facts : Facts) : PodTemplate where
  labels := Metadata.podLabels cluster role
  annotations := Metadata.annotations cluster
  serviceAccountName := role.serviceAccountName
  affinity := role.affinity
  init := initContainer role facts.image facts.dirs Mounting.claimName
  app := appContainer cluster role facts
  volumes := facts.mounting.volumes

/-- The metadata of the stateful set. Part of `build_statefulset`. -/
def metadata (cluster : Cluster) (role : Role) (status : Option RoleStatus)
    (nameBeginning : String) : ObjectMeta :=
  Metadata.withNaming
    { ns := some cluster.ns
      labels := some (Metadata.labels cluster role)
      annotations := some (Metadata.annotations cluster)
      ownerReferences := some (Metadata.owners cluster) }
    (Metadata.naming cluster role status nameBeginning)

/-- The stateful set. Part of `build_statefulset`. -/
def compose (cluster : Cluster) (role : Role) (status : Option RoleStatus) (replicas : Int)
    (facts : Facts) : StatefulSet where
  apiVersion := some "apps/v1"
  kind := some "StatefulSet"
  metadata := metadata cluster role status facts.nameBeginning
  spec :=
    { podManagementPolicy := some "Parallel"
      replicas := some replicas
      serviceName := some cluster.status.clusterService
      selector := Metadata.podLabels cluster role
      template := some (podTemplate cluster role facts)
      claimTemplates := Mounting.claims role Mounting.claimName facts.blockSize }

/-! ## Gathering -/

/-- Asks the catalog. -/
def ask (catalog : Catalog) (cluster : Cluster) (question : Lookup) :
    Traced Effect Fault question.Answer :=
  ⟨[.lookup question], catalog question cluster⟩

/-- Reads the settings. -/
def readSettings (settings : Checked Settings) : Traced Effect Fault Settings :=
  .ofExcept settings.toExcept

/-- Does the platform run systemd by itself? The settings tell when the caller does not. -/
def readNative (native : Option Bool) (settings : Checked Settings) : Traced Effect Fault Bool :=
  match native with
  | some native => .pure native
  | none => do return (← readSettings settings).nativeSystemd

/-- What is logged when the members see the host's control groups. -/
def controlGroupLog (role : Role) : Log :=
  .debug s!"[K8S] Adding cgroup mounts for role {role.id} (no native systemd support)"

/-- The mounts and volumes of a role's members. Mirrors `generate_volume_mounts`. -/
def mounting (catalog : Catalog) (settings : Checked Settings) (cluster : Cluster) (role : Role)
    (native : Bool) (dirs : List String) (claim : String) : Traced Effect Fault Mounting := do
  let settings ← readSettings settings
  let systemd ← ask catalog cluster .systemdRequired
  let needsControlGroups := systemd && !native
  Traced.log (if needsControlGroups then [controlGroupLog role] else [])
  return Mounting.ofRole role dirs claim settings.scratchSize needsControlGroups

/-- Gathers what the stateful set is composed of. Part of `build_statefulset`. -/
def gather (catalog : Catalog) (settings : Checked Settings) (cluster : Cluster) (role : Role)
    (native : Option Bool) : Traced Effect Fault Facts := do
  let native ← readNative native settings
  let ports ← ask catalog cluster (.ports role.id)
  let appDirs ← ask catalog cluster (.persistDirs role.id)
  let setup ← ask catalog cluster (.setupPackage role.id)
  let image ← ask catalog cluster (.image role.id)
  let capabilities ← ask catalog cluster .capabilities
  let terminal ← ask catalog cluster (.containerSpec role.id)
  let resolution := Directory.resolve (Directory.defaults setup) appDirs role.id
  Traced.log resolution.logs
  let mounting ←
    mounting catalog settings cluster role native resolution.dirs Mounting.claimName
  let settings ← readSettings settings
  let gpu ← .ofExcept ((Environment.requestsGpu role).mapError .quantity)
  return {
    ports, setup, image, capabilities, mounting, gpu
    dirs := resolution.dirs
    terminal := terminal.getD {}
    nameBeginning := settings.nameBeginning
    blockSize := settings.blockDeviceSize }

/-- Builds the stateful set that implements a role at a number of replicas. Mirrors
`build_statefulset`. -/
def build (catalog : Catalog) (settings : Checked Settings) (cluster : Cluster) (role : Role)
    (status : Option RoleStatus) (replicas : Int) (native : Option Bool) :
    Traced Effect Fault StatefulSet := do
  let facts ← gather catalog settings cluster role native
  return compose cluster role status replicas facts

end StatefulRoles.Synthesis
