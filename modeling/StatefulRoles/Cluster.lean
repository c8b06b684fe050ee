import StatefulRoles.Cluster.Role
/-!
# Clusters

A cluster names the app that it runs and the roles of its members; its status records, role by
role, the stateful set that implements it.
-/
namespace StatefulRoles

open Schema

/-- How the stateful sets of a cluster are named: after the cluster and the role, or by a fixed
beginning; the server completes the name either way. Mirrors `NamingScheme`. -/
inductive NamingScheme where
  | clusterAndRole
  | fixedBeginning
deriving DecidableEq, Repr

/-- The stateful set recorded for a role: a name, an empty name before the first one is created, or
none when the server gave back an object without a name. Mirrors `RoleStatus`. -/
structure RoleStatus where
  id : String
  statefulSet : Option String := some ""
deriving DecidableEq, Repr

/-- What a cluster should be. Mirrors `ClusterSpec`. -/
structure ClusterSpec where
  app : String
  appCatalog : String := "local"
  namingScheme : NamingScheme := .fixedBeginning
  roles : List Role := []

/-- What is known about a cluster. Mirrors `ClusterStatus`. -/
structure ClusterStatus where
  clusterService : String := ""
  roles : List RoleStatus := []

/-- A cluster resource. Mirrors `Cluster`. -/
structure Cluster where
  apiVersion : String := "vcluster.io/v1beta1"
  kind : String := "VirtualCluster"
  name : String
  ns : String
  uid : String
  spec : ClusterSpec
  status : ClusterStatus := {}

/-- The names of the naming schemes. -/
def NamingScheme.table : List (String × NamingScheme) :=
  [("CrNameRole", .clusterAndRole), ("UID", .fixedBeginning)]

def NamingScheme.name : NamingScheme → String
  | .clusterAndRole => "CrNameRole"
  | .fixedBeginning => "UID"

def NamingScheme.schema : Schema NamingScheme := listed table name

def RoleStatus.schema : Schema RoleStatus where
  read := object fun o => RoleStatus.mk
    <$> o.required "id" text
    <*> (o.defaulted "stateful_set" text "").map some
  write s := .obj [("id", text.write s.id), ("stateful_set", (option text).write s.statefulSet)]

def ClusterSpec.schema : Schema ClusterSpec where
  read := object fun o => ClusterSpec.mk
    <$> o.required "app" text
    <*> o.defaulted "app_catalog" text "local"
    <*> o.defaulted "naming_scheme" NamingScheme.schema .fixedBeginning
    <*> o.defaulted "roles" (list Role.schema) []
  write s := .obj [("app", text.write s.app), ("app_catalog", text.write s.appCatalog),
    ("naming_scheme", NamingScheme.schema.write s.namingScheme),
    ("roles", (list Role.schema).write s.roles)]
  free s := (list Role.schema).free s.roles

def ClusterStatus.schema : Schema ClusterStatus where
  read := object fun o => ClusterStatus.mk
    <$> o.defaulted "cluster_service" text ""
    <*> o.defaulted "roles" (list RoleStatus.schema) []
  write s := .obj [("cluster_service", text.write s.clusterService),
    ("roles", (list RoleStatus.schema).write s.roles)]

def Cluster.schema : Schema Cluster where
  read := object fun o => Cluster.mk
    <$> o.defaulted "api_version" text "vcluster.io/v1beta1"
    <*> o.defaulted "kind" text "VirtualCluster"
    <*> o.required "name" text
    <*> o.required "namespace" text
    <*> o.required "uid" text
    <*> o.required "spec" ClusterSpec.schema
    <*> o.defaulted "status" ClusterStatus.schema {}
  write c := .obj [("api_version", text.write c.apiVersion), ("kind", text.write c.kind),
    ("name", text.write c.name), ("namespace", text.write c.ns), ("uid", text.write c.uid),
    ("spec", ClusterSpec.schema.write c.spec), ("status", ClusterStatus.schema.write c.status)]
  free c := ClusterSpec.schema.free c.spec

namespace Cluster

/-- The status of a role: the first with its id. Mirrors `Cluster.role_status`. -/
def roleStatus? (c : Cluster) (id : String) : Option RoleStatus :=
  c.status.roles.find? (·.id = id)

/-- Puts a status in the place of the first with its id. -/
def putStatus (status : RoleStatus) : List RoleStatus → List RoleStatus
  | [] => []
  | s :: rest => if s.id = status.id then status :: rest else s :: putStatus status rest

/-- The cluster with the status of one role replaced. -/
def withStatus (c : Cluster) (status : RoleStatus) : Cluster :=
  { c with status := { c.status with roles := putStatus status c.status.roles } }

/-- How the log names a cluster. -/
def title (c : Cluster) : String := s!"{c.ns}/{c.name}"

end Cluster
end StatefulRoles
