import StatefulRoles.Schema
/-!
# Apps

An app is what a cluster runs: the services it offers, the roles it is made of, and what its
containers need of the platform.
-/
namespace StatefulRoles

open Schema

/-- A named port that a member exposes. Mirrors `PortInfo`. -/
structure PortInfo where
  id : String
  port : Int
deriving DecidableEq, Repr

/-- A service of an app; one without a port is not exposed. Mirrors `AppService`. -/
structure AppService where
  id : String
  port : Option Int := none
deriving DecidableEq, Repr

/-- How a role's image is set up when a member starts. Mirrors `SetupPackage`. -/
structure SetupPackage where
  packageUrl : String := ""
  useNewLayout : Bool := false
deriving DecidableEq, Repr

/-- Whether the app container has a terminal and an open standard input. Mirrors `ContainerSpec`. -/
structure ContainerSpec where
  tty : Bool := false
  stdin : Bool := false
deriving DecidableEq, Repr

/-- What an app says about one role. Mirrors `AppRole`. -/
structure AppRole where
  id : String
  image : Option String := none
  services : List String := []
  persistDirs : Option (List String) := none
  setupPackage : Option SetupPackage := none
  containerSpec : Option ContainerSpec := none
deriving DecidableEq, Repr

/-- An app definition. Mirrors `App`. -/
structure App where
  name : String
  defaultImage : Option String := none
  services : List AppService := []
  roles : List AppRole := []
  capabilities : List String := []
  systemdRequired : Bool := false
deriving DecidableEq, Repr

def PortInfo.schema : Schema PortInfo where
  read := object fun o => PortInfo.mk
    <$> o.required "id" text
    <*> o.required "port" integer
  write p := .obj [("id", text.write p.id), ("port", integer.write p.port)]

def AppService.schema : Schema AppService where
  read := object fun o => AppService.mk
    <$> o.required "id" text
    <*> o.defaulted "port" (option integer) none
  write s := .obj [("id", text.write s.id), ("port", (option integer).write s.port)]

def SetupPackage.schema : Schema SetupPackage where
  read := object fun o => SetupPackage.mk
    <$> o.defaulted "package_url" text ""
    <*> o.defaulted "use_new_setup_layout" boolean false
  write s := .obj [("package_url", text.write s.packageUrl),
    ("use_new_setup_layout", boolean.write s.useNewLayout)]

def ContainerSpec.schema : Schema ContainerSpec where
  read := object fun o => ContainerSpec.mk
    <$> o.defaulted "tty" boolean false
    <*> o.defaulted "stdin" boolean false
  write c := .obj [("tty", boolean.write c.tty), ("stdin", boolean.write c.stdin)]

def AppRole.schema : Schema AppRole where
  read := object fun o => AppRole.mk
    <$> o.required "id" text
    <*> o.defaulted "image_repo_tag" (option text) none
    <*> o.defaulted "services" (list text) []
    <*> o.defaulted "persist_dirs" (option (list text)) none
    <*> o.defaulted "setup_package" (option SetupPackage.schema) none
    <*> o.defaulted "container_spec" (option ContainerSpec.schema) none
  write r := .obj [("id", text.write r.id), ("image_repo_tag", (option text).write r.image),
    ("services", (list text).write r.services),
    ("persist_dirs", (option (list text)).write r.persistDirs),
    ("setup_package", (option SetupPackage.schema).write r.setupPackage),
    ("container_spec", (option ContainerSpec.schema).write r.containerSpec)]

def App.schema : Schema App where
  read := object fun o => App.mk
    <$> o.required "name" text
    <*> o.defaulted "default_image_repo_tag" (option text) none
    <*> o.defaulted "services" (list AppService.schema) []
    <*> o.defaulted "roles" (list AppRole.schema) []
    <*> o.defaulted "capabilities" (list text) []
    <*> o.defaulted "systemd_required" boolean false
  write a := .obj [("name", text.write a.name),
    ("default_image_repo_tag", (option text).write a.defaultImage),
    ("services", (list AppService.schema).write a.services),
    ("roles", (list AppRole.schema).write a.roles),
    ("capabilities", (list text).write a.capabilities),
    ("systemd_required", boolean.write a.systemdRequired)]

end StatefulRoles
