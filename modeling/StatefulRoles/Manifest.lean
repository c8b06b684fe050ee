import StatefulRoles.App
import StatefulRoles.Cluster.Role
/-!
# Manifests

The objects that the API server keeps, as far as a role needs them: the stateful set with its pod
template and claim templates, owner references, patches and events. The types hold what can differ
from one role to the next; what is the same in every manifest stands in its written form.
-/
namespace StatefulRoles

/-! ## Metadata -/

/-- The object that owns another one. Mirrors `V1OwnerReference`. -/
structure OwnerReference where
  apiVersion : String
  kind : String
  name : String
  uid : String
  controller : Option Bool := none
  blockOwnerDeletion : Option Bool := none
deriving DecidableEq, Repr

/-- The metadata of an object. An object that is to be created has a name, or else the beginning of
a name that the server completes. Mirrors `V1ObjectMeta`. -/
structure ObjectMeta where
  name : Option String := none
  generateName : Option String := none
  ns : Option String := none
  resourceVersion : Option String := none
  labels : Option (Entries String) := none
  annotations : Option (Entries String) := none
  ownerReferences : Option (List OwnerReference) := none
deriving DecidableEq, Repr

/-- What an object is addressed by. -/
structure Identity where
  ns : Option String
  name : Option String
deriving DecidableEq, Repr

/-- A text that may be missing, as a message shows it. -/
def shown (text : Option String) : String := text.getD "None"

/-- How a message names an object. -/
def Identity.title (id : Identity) : String := s!"{shown id.ns}/{shown id.name}"

/-! ## Volumes -/

/-- A place in a container's file system where a volume, or a part of it, appears. Mirrors
`V1VolumeMount`. -/
structure VolumeMount where
  name : String
  mountPath : String
  readOnly : Option Bool := none
  subPath : Option String := none
deriving DecidableEq, Repr

/-- A raw device of a container, backed by a claim. Mirrors `V1VolumeDevice`. -/
structure VolumeDevice where
  name : String
  devicePath : String
deriving DecidableEq, Repr

/-- Where the content of a volume is. -/
inductive VolumeSource where
  | memory (sizeLimit : String)
  | secret (name : String) (defaultMode : Option Int)
  | claim (name : String) (readOnly : Bool)
  | hostPath (path : String)
deriving DecidableEq, Repr

/-- A volume of a pod. Mirrors `V1Volume`. -/
structure Volume where
  name : String
  source : VolumeSource
deriving DecidableEq, Repr

/-- How a claimed volume is used: with a file system on it, or as a raw device. -/
inductive VolumeMode where
  | filesystem
  | block
deriving DecidableEq, Repr

/-- A claim made anew for every member. Mirrors `V1PersistentVolumeClaim`. -/
structure ClaimTemplate where
  name : String
  size : String
  storageClass : Option String
  mode : VolumeMode
deriving DecidableEq, Repr

/-! ## Pods -/

/-- The container that populates the volume before the app container starts. Mirrors
`V1Container`. -/
structure InitContainer where
  image : String
  resources : Resources
  script : String
  mounts : List VolumeMount

/-- The container that runs the app. Mirrors `V1Container`. -/
structure AppContainer where
  image : String
  resources : Resources
  startup : String
  ports : List PortInfo
  mounts : List VolumeMount
  devices : List VolumeDevice
  capabilities : List String
  environment : List EnvVar
  terminal : ContainerSpec

/-- What the pods of a stateful set are like. Mirrors `V1PodTemplateSpec`. -/
structure PodTemplate where
  labels : Entries String
  annotations : Entries String
  serviceAccountName : String
  affinity : Option (Entries Json)
  init : Option InitContainer
  app : AppContainer
  volumes : List Volume

/-! ## Stateful sets -/

/-- What a stateful set should be. Mirrors `V1StatefulSetSpec`. -/
structure StatefulSetSpec where
  podManagementPolicy : Option String := none
  replicas : Option Int := none
  serviceName : Option String := none
  selector : Entries String := []
  template : Option PodTemplate := none
  claimTemplates : List ClaimTemplate := []

/-- A stateful set. Mirrors `V1StatefulSet`. -/
structure StatefulSet where
  apiVersion : Option String := none
  kind : Option String := none
  metadata : ObjectMeta := {}
  spec : StatefulSetSpec := {}

namespace StatefulSet

/-- What the stateful set is addressed by. -/
def identity (s : StatefulSet) : Identity := ⟨s.metadata.ns, s.metadata.name⟩

/-- The stateful set with another number of replicas. -/
def withReplicas (s : StatefulSet) (replicas : Int) : StatefulSet :=
  { s with spec := { s.spec with replicas := some replicas } }

end StatefulSet

/-! ## Patches and events -/

/-- One step of a patch: a value is put at a path, in the place of what is there. -/
inductive PatchStep where
  | add (path : String) (value : List OwnerReference)
deriving DecidableEq, Repr

/-- The object that an event is about. Mirrors `V1ObjectReference`. -/
structure ObjectReference where
  apiVersion : String
  kind : String
  name : String
  ns : String
  uid : String
deriving DecidableEq, Repr

/-- A note about an object, with the time at which it was first and last true. Mirrors
`CoreV1Event`. -/
structure Event where
  generateName : String
  ns : String
  involved : ObjectReference
  type : String
  reason : String
  message : String
  component : String
  time : String
deriving DecidableEq, Repr

end StatefulRoles
