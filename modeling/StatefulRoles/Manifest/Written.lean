import StatefulRoles.Manifest
/-!
# Manifests as JSON

A manifest is written with what it has: a part that is absent is left out, while an empty text, a
zero or a false is written. Of the lists and maps of a container, those that it may do without are
left out when they are empty.
-/
namespace StatefulRoles.Manifest

/-- An object of the members that are there. -/
def record (members : List (String × Option Json)) : Json :=
  .obj (members.filterMap fun (name, value) => value.map fun v => (name, v))

/-- A list that is left out when it is empty. -/
def nonEmptyList {α : Type} (write : α → Json) (xs : List α) : Option Json :=
  if xs.isEmpty then none else some (.arr (xs.map write))

def texts (xs : List String) : Json := .arr (xs.map .str)

def textMap (entries : Entries String) : Json :=
  .obj (entries.map fun (name, value) => (name, .str value))

/-! ## Metadata -/

def writeOwner (r : OwnerReference) : Json :=
  record [("apiVersion", some (.str r.apiVersion)), ("kind", some (.str r.kind)),
    ("name", some (.str r.name)), ("uid", some (.str r.uid)),
    ("controller", r.controller.map .bool), ("blockOwnerDeletion", r.blockOwnerDeletion.map .bool)]

def writeOwners (rs : List OwnerReference) : Json := .arr (rs.map writeOwner)

def writeMeta (m : ObjectMeta) : Json :=
  record [("name", m.name.map .str), ("generateName", m.generateName.map .str),
    ("namespace", m.ns.map .str), ("resourceVersion", m.resourceVersion.map .str),
    ("labels", m.labels.map textMap), ("annotations", m.annotations.map textMap),
    ("ownerReferences", m.ownerReferences.map writeOwners)]

/-! ## Volumes -/

def writeMount (m : VolumeMount) : Json :=
  record [("name", some (.str m.name)), ("mountPath", some (.str m.mountPath)),
    ("readOnly", m.readOnly.map .bool), ("subPath", m.subPath.map .str)]

def writeDevice (d : VolumeDevice) : Json :=
  .obj [("name", .str d.name), ("devicePath", .str d.devicePath)]

/-- The name that a kind of source has in a volume, and the source. -/
def writeSource : VolumeSource → String × Json
  | .memory sizeLimit =>
    ("emptyDir", .obj [("medium", .str "Memory"), ("sizeLimit", .str sizeLimit)])
  | .secret name defaultMode =>
    ("secret", record [("secretName", some (.str name)), ("defaultMode", defaultMode.map .int)])
  | .claim name readOnly =>
    ("persistentVolumeClaim", .obj [("claimName", .str name), ("readOnly", .bool readOnly)])
  | .hostPath path => ("hostPath", .obj [("path", .str path)])

def writeVolume (v : Volume) : Json := .obj [("name", .str v.name), writeSource v.source]

/-- The mode of a claim; a file system is what a claim without one gets. -/
def writeMode : VolumeMode → Option Json
  | .filesystem => none
  | .block => some (.str "Block")

def writeClaim (c : ClaimTemplate) : Json :=
  .obj [("metadata", .obj [("name", .str c.name)]),
    ("spec", record [("accessModes", some (texts ["ReadWriteOnce"])),
      ("resources", some (.obj [("requests", .obj [("storage", .str c.size)])])),
      ("storageClassName", c.storageClass.map .str), ("volumeMode", writeMode c.mode)])]

/-! ## Pods -/

/-- Amounts of resources that are left out when there are none. -/
def writeAmounts (amounts : Entries String) : Option Json :=
  if amounts.isEmpty then none else some (textMap amounts)

def writeResources (r : Resources) : Json :=
  record [("requests", writeAmounts r.requests), ("limits", writeAmounts r.limits)]

def writePort (p : PortInfo) : Json := .obj [("containerPort", .int p.port), ("name", .str p.id)]

def writeVariable (e : EnvVar) : Json := .obj [("name", .str e.name), ("value", .str e.value)]

/-- The shell that runs every script. -/
def shell : String := "/bin/bash"

/-- The hook that runs a script once the container has started. Mirrors
`create_startup_lifecycle`. -/
def writeLifecycle (script : String) : Json :=
  .obj [("postStart", .obj [("exec", .obj [("command", texts [shell, "-c", script])])])]

/-- The security context of an app container; one without further capabilities has none. Mirrors
`generate_security_context`. -/
def writeCapabilities (capabilities : List String) : Option Json :=
  if capabilities.isEmpty then none
  else some (.obj [("capabilities", .obj [("add", texts capabilities)])])

/-- The user that the init container runs as; it has to be able to keep the owners of files. -/
def rootUser : Int := 0

def writeInit (c : InitContainer) : Json :=
  .obj [("name", .str "init"), ("image", .str c.image), ("command", texts [shell]),
    ("args", texts ["-c", c.script]), ("resources", writeResources c.resources),
    ("securityContext", .obj [("runAsUser", .int rootUser)]),
    ("volumeMounts", .arr (c.mounts.map writeMount))]

def writeApp (c : AppContainer) : Json :=
  record [("name", some (.str "app")), ("image", some (.str c.image)),
    ("resources", some (writeResources c.resources)),
    ("lifecycle", some (writeLifecycle c.startup)), ("ports", nonEmptyList writePort c.ports),
    ("volumeMounts", some (.arr (c.mounts.map writeMount))),
    ("volumeDevices", nonEmptyList writeDevice c.devices),
    ("securityContext", writeCapabilities c.capabilities),
    ("env", some (.arr (c.environment.map writeVariable))),
    ("tty", some (.bool c.terminal.tty)), ("stdin", some (.bool c.terminal.stdin))]

/-- The pods' own specification. A token is mounted exactly for a named service account. -/
def writePod (p : PodTemplate) : Json :=
  let account := p.serviceAccountName
  record [("automountServiceAccountToken", some (.bool (account ≠ ""))),
    ("serviceAccountName", if account = "" then none else some (.str account)),
    ("affinity", p.affinity.map .obj),
    ("initContainers", nonEmptyList writeInit p.init.toList),
    ("containers", some (.arr [writeApp p.app])),
    ("volumes", some (.arr (p.volumes.map writeVolume)))]

def writeTemplate (p : PodTemplate) : Json :=
  .obj [("metadata", .obj [("labels", textMap p.labels), ("annotations", textMap p.annotations)]),
    ("spec", writePod p)]

/-! ## Objects -/

def writeSpec (s : StatefulSetSpec) : Json :=
  record [("podManagementPolicy", s.podManagementPolicy.map .str),
    ("replicas", s.replicas.map .int), ("serviceName", s.serviceName.map .str),
    ("selector", some (.obj [("matchLabels", textMap s.selector)])),
    ("template", some ((s.template.map writeTemplate).getD (.obj []))),
    ("volumeClaimTemplates", nonEmptyList writeClaim s.claimTemplates)]

def writeStatefulSet (s : StatefulSet) : Json :=
  record [("apiVersion", s.apiVersion.map .str), ("kind", s.kind.map .str),
    ("metadata", some (writeMeta s.metadata)), ("spec", some (writeSpec s.spec))]

def writeStep : PatchStep → Json
  | .add path value =>
    .obj [("op", .str "add"), ("path", .str path), ("value", writeOwners value)]

def writePatch (steps : List PatchStep) : Json := .arr (steps.map writeStep)

/-- What an event says, without its time. -/
def eventMembers (e : Event) : Entries Json :=
  [("metadata", .obj [("generateName", .str e.generateName), ("namespace", .str e.ns)]),
    ("involvedObject", .obj [("apiVersion", .str e.involved.apiVersion),
      ("kind", .str e.involved.kind), ("name", .str e.involved.name),
      ("namespace", .str e.involved.ns), ("uid", .str e.involved.uid)]),
    ("type", .str e.type), ("reason", .str e.reason), ("message", .str e.message),
    ("source", .obj [("component", .str e.component)]), ("count", .int 1)]

def writeEvent (e : Event) : Json :=
  .obj (eventMembers e ++ [("firstTimestamp", .str e.time), ("lastTimestamp", .str e.time)])

end StatefulRoles.Manifest
