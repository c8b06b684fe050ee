import StatefulRoles.App
import StatefulRoles.Cluster
import StatefulRoles.Fault
/-!
# Catalogs

A catalog knows the apps. What a cluster's app says is asked of it one lookup at a time, and every
lookup may fail.
-/
namespace StatefulRoles

/-- A question about a cluster's app, most of them about one of its roles. One for each method of
`AppCatalog`. -/
inductive Lookup where
  | ports (role : String)
  | persistDirs (role : String)
  | setupPackage (role : String)
  | image (role : String)
  | capabilities
  | systemdRequired
  | containerSpec (role : String)
deriving DecidableEq, Repr

/-- What answers a question. -/
abbrev Lookup.Answer : Lookup → Type
  | .ports _ => List PortInfo
  | .persistDirs _ => Option (List String)
  | .setupPackage _ => Option SetupPackage
  | .image _ => String
  | .capabilities => List String
  | .systemdRequired => Bool
  | .containerSpec _ => Option ContainerSpec

/-- A catalog: its answer to every question about a cluster's app. Mirrors `AppCatalog`. -/
abbrev Catalog := (question : Lookup) → Cluster → Except Fault question.Answer

end StatefulRoles
