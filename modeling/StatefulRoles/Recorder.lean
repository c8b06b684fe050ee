import StatefulRoles.Cluster
import StatefulRoles.Session
import StatefulRoles.Settings
/-!
# Reports about clusters

Every report is logged. One that gives a reason is also put on record as an event on the cluster
resource, where a user who looks at the cluster finds it. Recording is done as well as it can be: a
failure is logged and never changes how the operation that reports ends.
-/
namespace StatefulRoles

namespace Event

/-- The type of an event that reports what was done. -/
def normal : String := "Normal"

/-- The type of an event that reports what went wrong. -/
def warning : String := "Warning"

/-- An event on a cluster resource. Mirrors `create_event_manifest`. -/
def about (cluster : Cluster) (type reason message component time : String) : Event where
  generateName := s!"{cluster.name}."
  ns := cluster.ns
  involved := ⟨cluster.apiVersion, cluster.kind, cluster.name, cluster.ns, cluster.uid⟩
  type := type
  reason := reason
  message := message
  component := component
  time := time

end Event

namespace Recorder

open Session

variable {ω ε : Type}

/-- The reason of a report that is only logged. Mirrors `EVENT_REASON_NO_EVENT`. -/
def logOnly : String := ""

/-- What is logged when an event could not be recorded. Part of `EventRecorder._record`. -/
def unrecorded (cluster : Cluster) (f : Fault) : Log :=
  .warning s!"[EVENTS] Failed to record event for {cluster.title}: {f.message}"

/-- Records an event through a client. Part of `EventRecorder._record`. -/
def write (host : Host ω) (settings : Settings) (client : Client) (cluster : Cluster)
    (type reason message : String) : Run ω ε Unit := do
  let time := host.now (← Act.get).world
  let event := Event.about cluster type reason message settings.eventComponent time
  match ← (createEvent host client cluster.ns event).attempt with
  | .ok () => return ()
  | .error f => log (unrecorded cluster f)

/-- Records an event, if there is a reason and a client and events are enabled. Mirrors
`EventRecorder._record`. -/
def record (host : Host ω) (settings : Settings) (cluster : Cluster)
    (type reason message : String) : Run ω ε Unit := do
  match (← Act.get).manager.recorder with
  | none => return ()
  | some client =>
    if reason = logOnly || !settings.eventsEnabled then return ()
    else write host settings client cluster type reason message

/-- Reports what is done. Mirrors `EventRecorder.log_info`. -/
def info (host : Host ω) (settings : Settings) (cluster : Cluster) (reason message : String) :
    Run ω ε Unit := do
  log (.info s!"[{cluster.title}] {message}")
  record host settings cluster Event.normal reason message

/-- Reports what went wrong. Mirrors `EventRecorder.log_error`. -/
def error (host : Host ω) (settings : Settings) (cluster : Cluster) (f : Fault)
    (reason message : String) : Run ω ε Unit := do
  log (.error s!"[{cluster.title}] {message}: {f.message}")
  record host settings cluster Event.warning reason s!"{message}: {f.message}"

end Recorder
end StatefulRoles
