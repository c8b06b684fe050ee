import StatefulRoles.App
/-!
# The platform's directories

Which directories the platform keeps on a role's volume depends on how the role is set up.
-/
namespace StatefulRoles.Directory

/-- Kept for every role with a volume. Mirrors `DEFAULT_MOUNT_FOLDERS`. -/
def plainDefaults : List String := ["/etc"]

/-- Kept for a role whose setup package has the new layout. Mirrors
`APP_CONFIG_DEFAULT_MOUNT_FOLDERS`. -/
def newLayoutDefaults : List String :=
  ["/etc", "/opt/guestconfig", "/var/log/guestconfig", "/usr/local/bin", "/usr/local/lib"]

/-- Kept for a role whose setup package has the old layout. Mirrors
`APP_CONFIG_LEGACY_DEFAULT_MOUNT_FOLDERS`. -/
def oldLayoutDefaults : List String := ["/etc", "/opt", "/usr"]

/-- The platform's directories for a role, by its setup package. Mirrors `default_persist_dirs`. -/
def defaults : Option SetupPackage → List String
  | none => plainDefaults
  | some setup => if setup.useNewLayout then newLayoutDefaults else oldLayoutDefaults

end StatefulRoles.Directory
