import StatefulRoles.Cluster
import StatefulRoles.Manifest
import StatefulRoles.ObjectName
import StatefulRoles.Settings
/-!
# Names, labels and ownership

What ties a stateful set to its cluster and role: labels and annotations, the reference to the
owner, and its name.
-/
namespace StatefulRoles.Metadata

/-! ## Labels and annotations -/

/-- The labels of the pods, which the stateful set selects them by. Mirrors `get_pod_labels`. -/
def podLabels (cluster : Cluster) (role : Role) : Entries String :=
  [("vcluster.io/cluster", cluster.name), ("vcluster.io/role", role.id)]

/-- The labels of the stateful set. Mirrors `get_statefulset_labels`. -/
def labels (cluster : Cluster) (role : Role) : Entries String :=
  ("app.kubernetes.io/managed-by", "vcluster-executor") :: podLabels cluster role

/-- The annotations of the stateful set and of its pods. Mirrors `get_statefulset_annotations` and
`get_pod_annotations`. -/
def annotations (cluster : Cluster) : Entries String :=
  [("vcluster.io/app", cluster.spec.app), ("vcluster.io/app-catalog", cluster.spec.appCatalog)]

/-! ## Ownership -/

/-- The owners that an object of a cluster should have: the cluster alone, which controls it and is
not gone before it is. Mirrors `get_owner_references`. -/
def owners (cluster : Cluster) : List OwnerReference :=
  [⟨cluster.apiVersion, cluster.kind, cluster.name, cluster.uid, some true, some true⟩]

/-- Is the cluster among the owners? It is known by its uid. Mirrors `owner_references_present`. -/
def isOwned (cluster : Cluster) (refs : Option (List OwnerReference)) : Bool :=
  (refs.getD []).any (·.uid = cluster.uid)

/-! ## Names -/

/-- How a stateful set comes by its name: it has one, or the server makes one with a given
beginning. -/
inductive Naming where
  | named (name : String)
  | generated (beginning : String)
deriving DecidableEq, Repr

/-- The name on record for a role, if there is one. -/
def recordedName (status : Option RoleStatus) : Option String :=
  (status.bind (·.statefulSet)).filter (· ≠ "")

/-- The beginning of a name made of the cluster's and the role's. -/
def beginning (cluster : Cluster) (role : Role) : String :=
  ObjectName.generatedBase s!"{cluster.name}-{role.id}" ++ "-"

/-- The naming of a role's stateful set, given the fixed beginning. A name on record is always kept;
without one the cluster's scheme decides. Part of `apply_naming`. -/
def naming (cluster : Cluster) (role : Role) (status : Option RoleStatus) (fixed : String) :
    Naming :=
  match recordedName status, cluster.spec.namingScheme with
  | some name, _ => .named name
  | none, .clusterAndRole => .generated (beginning cluster role)
  | none, .fixedBeginning => .generated fixed

/-- Does the naming depend on the fixed beginning? -/
def needsFixed (cluster : Cluster) (status : Option RoleStatus) : Bool :=
  (recordedName status).isNone && cluster.spec.namingScheme = .fixedBeginning

/-- The naming of a role's stateful set; the settings are read only when it depends on them. Mirrors
`apply_naming`. -/
def namingWith (cluster : Cluster) (role : Role) (status : Option RoleStatus)
    (settings : Checked Settings) : Checked Naming :=
  if needsFixed cluster status then
    settings.map fun s => naming cluster role status s.nameBeginning
  else .ok (naming cluster role status "")

/-- The metadata with a naming. -/
def withNaming (m : ObjectMeta) : Naming → ObjectMeta
  | .named name => { m with name := some name }
  | .generated beginning => { m with generateName := some beginning }

end StatefulRoles.Metadata
