import StatefulRoles.Schema
/-!
# Roles of a cluster

A role is a group of like members of a cluster. Its specification says what one member needs.
-/
namespace StatefulRoles

open Schema

/-- Amounts of named resources that a member asks for and is held to. Mirrors `ResourceSpec`. -/
structure Resources where
  requests : Entries String := []
  limits : Entries String := []

/-- A file system of a member's own. Mirrors `StorageSpec`. -/
structure Storage where
  size : String
  storageClass : Option String := none

/-- Raw devices of a member's own; device `n` appears at the path with `n` behind it. Mirrors
`BlockStorageSpec`. -/
structure BlockStorage where
  numDevices : Nat := 1
  size : Option String := none
  storageClass : Option String := none
  path : String := "/dev/xvdb"

/-- A secret mounted into a member. Mirrors `SecretSpec`. -/
structure Secret where
  name : String
  mountPath : String
  readOnly : Bool := false
  defaultMode : Option Int := none

/-- An existing claim mounted into a member. Mirrors `VolumeProjection`. -/
structure Projection where
  claim : String
  mountPath : String
  readOnly : Bool := false

/-- A variable of a member's environment. Mirrors `EnvVar`. -/
structure EnvVar where
  name : String
  value : String := ""
deriving DecidableEq, Repr

/-- What the members of a role are like. The affinity is passed on as it is. Mirrors `Role`. -/
structure Role where
  id : String
  members : Int := 1
  resources : Resources := {}
  storage : Option Storage := none
  blockStorage : Option BlockStorage := none
  serviceAccountName : String := ""
  secret : Option Secret := none
  projections : List Projection := []
  affinity : Option (Entries Json) := none
  envVars : List EnvVar := []

def Resources.schema : Schema Resources where
  read := object fun o => Resources.mk
    <$> o.defaulted "requests" (map text) []
    <*> o.defaulted "limits" (map text) []
  write r := .obj [("requests", (map text).write r.requests), ("limits", (map text).write r.limits)]

def Storage.schema : Schema Storage where
  read := object fun o => Storage.mk
    <$> o.required "size" quantity
    <*> o.defaulted "storage_class" (option text) none
  write s := .obj [("size", quantity.write s.size),
    ("storage_class", (option text).write s.storageClass)]

/-- How many devices: a whole number that is not negative. Mirrors `validate_num_devices`. -/
def BlockStorage.deviceCount : Schema Nat where
  read j := (integer.read j).bind fun n =>
    if n < 0 then .issue .negativeDevices else .ok n.toNat
  write n := integer.write n

def BlockStorage.schema : Schema BlockStorage where
  read := object fun o => BlockStorage.mk
    <$> o.defaulted "num_devices" deviceCount 1
    <*> o.defaulted "size" (option quantity) none
    <*> o.defaulted "storage_class" (option text) none
    <*> o.defaulted "path" text "/dev/xvdb"
  write b := .obj [("num_devices", deviceCount.write b.numDevices),
    ("size", (option quantity).write b.size),
    ("storage_class", (option text).write b.storageClass), ("path", text.write b.path)]

def Secret.schema : Schema Secret where
  read := object fun o => Secret.mk
    <$> o.required "name" text
    <*> o.required "mount_path" text
    <*> o.defaulted "read_only" boolean false
    <*> o.defaulted "default_mode" (option integer) none
  write s := .obj [("name", text.write s.name), ("mount_path", text.write s.mountPath),
    ("read_only", boolean.write s.readOnly), ("default_mode", (option integer).write s.defaultMode)]

def Projection.schema : Schema Projection where
  read := object fun o => Projection.mk
    <$> o.required "pvc_name" text
    <*> o.required "mount_path" text
    <*> o.defaulted "read_only" boolean false
  write p := .obj [("pvc_name", text.write p.claim), ("mount_path", text.write p.mountPath),
    ("read_only", boolean.write p.readOnly)]

def EnvVar.schema : Schema EnvVar where
  read := object fun o => EnvVar.mk
    <$> o.required "name" text
    <*> o.defaulted "value" text ""
  write e := .obj [("name", text.write e.name), ("value", text.write e.value)]

def Role.schema : Schema Role where
  read := object fun o => Role.mk
    <$> o.required "id" text
    <*> o.defaulted "members" integer 1
    <*> o.defaulted "resources" Resources.schema {}
    <*> o.defaulted "storage" (option Storage.schema) none
    <*> o.defaulted "block_storage" (option BlockStorage.schema) none
    <*> o.defaulted "service_account_name" text ""
    <*> o.defaulted "secret" (option Secret.schema) none
    <*> o.defaulted "volume_projections" (list Projection.schema) []
    <*> o.defaulted "affinity" (option (map anything)) none
    <*> o.defaulted "env_vars" (list EnvVar.schema) []
  write r := .obj [("id", text.write r.id), ("members", integer.write r.members),
    ("resources", Resources.schema.write r.resources),
    ("storage", (option Storage.schema).write r.storage),
    ("block_storage", (option BlockStorage.schema).write r.blockStorage),
    ("service_account_name", text.write r.serviceAccountName),
    ("secret", (option Secret.schema).write r.secret),
    ("volume_projections", (list Projection.schema).write r.projections),
    ("affinity", (option (map anything)).write r.affinity),
    ("env_vars", (list EnvVar.schema).write r.envVars)]
  free r := (option (map anything)).free r.affinity

end StatefulRoles
