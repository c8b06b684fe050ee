import StatefulRoles.Schema
import StatefulRoles.Settings.EnvFile
import StatefulRoles.Text.Case
/-!
# Settings

What an operator can set, read from the environment and from a settings file. Names count in any
case; the environment comes before the file, and of several spellings of one name the last one
counts.
-/
namespace StatefulRoles

open Schema

/-- The settings, with their defaults. Mirrors `Settings`. -/
structure Settings where
  logLevel : String := "INFO"
  eventsEnabled : Bool := true
  eventComponent : String := "vcluster-executor"
  scratchSize : String := "20Gi"
  blockDeviceSize : String := "1Gi"
  nativeSystemd : Bool := false
  nameBeginning : String := "kdss-"
deriving DecidableEq, Repr

namespace Settings

def schema : Schema Settings where
  read := object fun o => Settings.mk
    <$> o.defaulted "log_level" text "INFO"
    <*> o.defaulted "k8s_events_enabled" boolean true
    <*> o.defaulted "k8s_event_component" text "vcluster-executor"
    <*> o.defaulted "tmpfs_volume_size" text "20Gi"
    <*> o.defaulted "default_block_device_size" text "1Gi"
    <*> o.defaulted "native_systemd_support" boolean false
    <*> o.defaulted "statefulset_name_prefix" text "kdss-"
  write s := .obj [("log_level", text.write s.logLevel),
    ("k8s_events_enabled", boolean.write s.eventsEnabled),
    ("k8s_event_component", text.write s.eventComponent),
    ("tmpfs_volume_size", text.write s.scratchSize),
    ("default_block_device_size", text.write s.blockDeviceSize),
    ("native_systemd_support", boolean.write s.nativeSystemd),
    ("statefulset_name_prefix", text.write s.nameBeginning)]

/-- Entries under their names in lower case, where the last spelling of a name counts. -/
def lowered {α : Type} (entries : Entries α) : Entries α :=
  entries.foldl (fun known (name, value) =>
    known.put (String.ofList (Text.lower name.toList)) value) []

/-- What the environment and the file give, by lower-case name. -/
def given (environment : Entries String) (file : Entries (Option String)) : Members :=
  let fromFile := (lowered file).filterMap fun (name, value) => value.map fun v => (name, .str v)
  (lowered environment).foldl (fun known (name, value) => known.put name (.str value)) fromFile

/-- Reads the settings from an environment and the text of a settings file, which may be empty.
Mirrors `get_settings`. -/
def read (environment : Entries String) (file : String) : Checked Settings :=
  schema.read (.obj (given environment (EnvFile.parse environment file)))

/-! ## Logging -/

/-- What decides which lines are logged: the number of a level or, under a name that is not one of
a level, a text. -/
inductive Threshold where
  | level (number : Nat)
  | text (text : String)
deriving DecidableEq, Repr

/-- The names that logging knows, in upper case: the levels, each with its number, and the layout
that lines have when nothing else is said. -/
def thresholds : List (String × Threshold) :=
  [("NOTSET", .level 0), ("DEBUG", .level 10), ("INFO", .level 20), ("WARN", .level 30),
   ("WARNING", .level 30), ("ERROR", .level 40), ("CRITICAL", .level 50), ("FATAL", .level 50),
   ("BASIC_FORMAT", .text "%(levelname)s:%(name)s:%(message)s")]

/-- The threshold that the settings name, in any case; a name that logging does not know means
`INFO`. Mirrors `configure_logging`. -/
def logThreshold (s : Settings) : Threshold :=
  (thresholds.lookup (String.ofList (Text.upper s.logLevel.toList))).getD (.level 20)

/-- How a line of the log is laid out. -/
def logFormat : String := "%(asctime)s - %(name)s - %(levelname)s - %(message)s"

end Settings
end StatefulRoles
