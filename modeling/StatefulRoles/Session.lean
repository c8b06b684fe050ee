import StatefulRoles.Effect
import StatefulRoles.Fault
/-!
# Sessions with the API server

Operations run against a host: the API server with its answers, the places where a configuration
may be found, and a clock. A session keeps the host's state and who has which client. A manager
without a client of its own takes the shared one, which is made on first use from the first
configuration that can be loaded.
-/
namespace StatefulRoles

/-- What is outside: how calls are answered, how configurations are loaded, the time, and how deep
a body may go to be read. A loader that finds no configuration says why; it may also break, with a
fault that is no matter of where the configuration is. -/
structure Host (ω : Type) where
  answer : Call → ω → Except Fault (Option StatefulSet) × ω
  load : Loader → ω → Except String Unit × ω
  now : ω → String
  depth : Nat
  breaks : Loader → ω → Option Fault := fun _ _ => none

/-- What comes of a loader: a configuration or the reason why there is none, unless it breaks. -/
def Host.tries {ω : Type} (host : Host ω) (loader : Loader) (world : ω) :
    Except Fault (Except String Unit) × ω :=
  let (loaded, world') := host.load loader world
  match host.breaks loader world with
  | some f => (.error f, world')
  | none => (.ok loaded, world')

/-- Whom the manager and its recorder speak to the server through; a recorder without a client
keeps events to itself. A recorder is given the manager's client unless it has one of its own. -/
structure Manager where
  client : Option Client := none
  recorder : Option Client := client

/-- The manager with a client; a recorder without one gets it as well. -/
def Manager.withClient (m : Manager) (client : Client) : Manager :=
  ⟨some client, m.recorder <|> some client⟩

/-- The host's state, the client that managers share, the number of clients made so far, and the
manager at work. -/
structure Session (ω : Type) where
  world : ω
  shared : Option Client := none
  made : Nat := 0
  manager : Manager := {}

/-- A run in a session. -/
abbrev Session.Run (ω ε α : Type) := Act (Session ω) Effect ε α

namespace Session

variable {ω ε : Type}

/-- Writes a line to the log. -/
def log (line : Log) : Run ω ε Unit := Act.emit [.log line]

/-! ## Clients -/

/-- Makes a client. -/
def newClient : Run ω ε Client := fun s => (.pure ⟨s.made⟩, { s with made := s.made + 1 })

/-- Tries to load a configuration. -/
def load (host : Host ω) (loader : Loader) : Run ω Fault (Except String Unit) := fun s =>
  let (outcome, world) := host.tries loader s.world
  (⟨[.load loader], outcome⟩, { s with world })

/-- Loads a configuration: the one that the cluster gives its members, or else the user's. Mirrors
`KubernetesClient`. -/
def loadConfiguration (host : Host ω) : Run ω Fault Unit := do
  match ← load host .cluster with
  | .ok () => log (.info "Loaded in-cluster Kubernetes configuration")
  | .error _ =>
    match ← load host .user with
    | .ok () => log (.info "Loaded kubeconfig for development")
    | .error reason =>
      log (.error s!"Failed to load Kubernetes config: {reason}")
      Act.fail .noConfiguration

/-- The shared client, made now if there is none yet. Mirrors `get_k8s_client`. -/
def sharedClient (host : Host ω) : Run ω Fault Client := do
  match (← Act.get).shared with
  | some client => return client
  | none =>
    loadConfiguration host
    let client ← newClient
    Act.modify fun s => { s with shared := some client }
    return client

/-- The manager's client; a manager without one takes the shared one and keeps it. Mirrors
`_get_k8s_client`. -/
def client (host : Host ω) : Run ω Fault Client := do
  match (← Act.get).manager.client with
  | some client => return client
  | none =>
    let client ← sharedClient host
    Act.modify fun s => { s with manager := s.manager.withClient client }
    return client

/-! ## Calls -/

/-- Sends a call and takes the answer. -/
def send (host : Host ω) (client : Client) (call : Call) :
    Run ω Fault (Option StatefulSet) := fun s =>
  let (answer, world) := host.answer call s.world
  (⟨[.call client call], answer⟩, { s with world })

/-- Creates a stateful set and gives it back as it was created, with its name filled in. One that
exists is not touched: the server refuses the call. Mirrors
`KubernetesClient.create_statefulset`. -/
def create (host : Host ω) (client : Client) (ns : String) (body : StatefulSet) :
    Run ω Fault StatefulSet := do
  match ← send host client (.create ns body) with
  | none => Act.fail (.noObject "metadata")
  | some created =>
    let name := shown created.metadata.name
    log (.info s!"[K8S] ✅ Created statefulset: {ns}/{name}")
    return created

/-- Reads a stateful set as it is. Mirrors `KubernetesClient.read_statefulset`. -/
def read (host : Host ω) (client : Client) (id : Identity) : Run ω Fault (Option StatefulSet) :=
  send host client (.read id)

/-- Replaces a stateful set. Its resource version goes along, so that the server refuses a body made
from a state that is no longer the current one. Mirrors `KubernetesClient.replace_statefulset`. -/
def replace (host : Host ω) (client : Client) (body : StatefulSet) :
    Run ω Fault (Option StatefulSet) := do
  let updated ← send host client (.replace body.identity body)
  log (.info s!"[K8S] ✅ Updated statefulset: {body.identity.title}")
  return updated

/-- Patches a stateful set. Mirrors `KubernetesClient.patch_statefulset`. -/
def patch (host : Host ω) (client : Client) (id : Identity) (steps : List PatchStep) :
    Run ω Fault Unit := do
  let _ ← send host client (.patch id steps)
  log (.info s!"[K8S] ✅ Patched statefulset: {id.title}")

/-- Deletes a stateful set. The server refuses to delete one that is not there. Mirrors
`KubernetesClient.delete_statefulset`. -/
def delete (host : Host ω) (client : Client) (id : Identity) : Run ω Fault Unit := do
  let _ ← send host client (.delete id)
  log (.info s!"[K8S] Deleted statefulset: {id.title}")

/-- Puts an event on record. Mirrors `KubernetesClient.create_event`. -/
def createEvent (host : Host ω) (client : Client) (ns : String) (event : Event) :
    Run ω Fault Unit := do
  let _ ← send host client (.createEvent ns event)

end Session
end StatefulRoles
