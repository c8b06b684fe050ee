import StatefulRoles.Catalog
import StatefulRoles.Log
/-!
# The registry of apps

A catalog of the app definitions that were registered. An app is known by its name; registering
another one of that name replaces it.
-/
namespace StatefulRoles

/-- The apps registered, by name. Mirrors `StaticAppCatalog`. -/
abbrev Registry := Entries App

namespace Registry

/-- Registers an app. Mirrors `StaticAppCatalog.register`. -/
def register (r : Registry) (app : App) : Registry := r.put app.name app

/-- What is logged when an app is registered. -/
def registered (app : App) : Log :=
  .debug s!"[CATALOG] Registered app {app.name} ({app.roles.length} roles)"

/-- The registry of some apps, registered one after the other. -/
def ofApps (apps : List App) : Registry := apps.foldl register []

/-- The names of the apps, in order of their code points. -/
def names (r : Registry) : List String := (r.map (·.1)).mergeSort fun a b => a ≤ b

/-- The app of a cluster. Mirrors `_get_app`. -/
def app (r : Registry) (cluster : Cluster) : Except CatalogError App :=
  match r.lookup cluster.spec.app with
  | some app => .ok app
  | none => .error (.unknownApp cluster.spec.app cluster.title)

end Registry

/-- The role of an app with an id: the first one. Mirrors `_get_role`. -/
def App.role (app : App) (id : String) : Except CatalogError AppRole :=
  match app.roles.find? (·.id = id) with
  | some role => .ok role
  | none => .error (.unknownRole id app.name)

/-- The ports of a role: those of the app's services that the role offers and that have one. Mirrors
`ports_for_role`. -/
def App.ports (app : App) (role : AppRole) : List PortInfo :=
  app.services.filterMap fun s =>
    if role.services.contains s.id then s.port.map fun port => ⟨s.id, port⟩ else none

/-- The image of a role: its own, or else the app's. An empty name is no image. Mirrors
`image_for_role`. -/
def App.image (app : App) (role : AppRole) : Except CatalogError String :=
  match [role.image, app.defaultImage].findSome? (·.filter (· ≠ "")) with
  | some image => .ok image
  | none => .error (.noImage role.id app.name)

namespace Registry

/-- An answer about a role of a cluster's app. -/
def aboutRole {α : Type} (r : Registry) (cluster : Cluster) (id : String)
    (answer : App → AppRole → Except CatalogError α) : Except CatalogError α := do
  let app ← r.app cluster
  let role ← app.role id
  answer app role

/-- The answers of the registry. Mirrors the methods of `StaticAppCatalog`. -/
def answer (r : Registry) : (question : Lookup) → Cluster → Except CatalogError question.Answer
  | .ports id, cluster => r.aboutRole cluster id fun app role => .ok (app.ports role)
  | .persistDirs id, cluster => r.aboutRole cluster id fun _ role => .ok role.persistDirs
  | .setupPackage id, cluster => r.aboutRole cluster id fun _ role => .ok role.setupPackage
  | .image id, cluster => r.aboutRole cluster id App.image
  | .capabilities, cluster => (r.app cluster).map (·.capabilities)
  | .systemdRequired, cluster => (r.app cluster).map (·.systemdRequired)
  | .containerSpec id, cluster => r.aboutRole cluster id fun _ role => .ok role.containerSpec

/-- The registry as a catalog. -/
def catalog (r : Registry) : Catalog := fun question cluster =>
  (r.answer question cluster).mapError .catalog

end Registry
end StatefulRoles
