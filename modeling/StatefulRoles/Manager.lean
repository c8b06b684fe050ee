import StatefulRoles.Recorder
import StatefulRoles.Retry
import StatefulRoles.Synthesis
/-!
# The life of a stateful set

A stateful set is created without replicas, scaled, brought back to its owner and deleted. When
each of these happens is decided elsewhere, never two at a time for one stateful set. Only scaling
is ever tried again, once, after a conflict and on a fresh copy. An API error is reported with the
step that failed and the object it concerns. The caller gets a fault as it is, unless its body goes
too deep to tell whether it is a conflict.
-/
namespace StatefulRoles

/-- What a manager works with. -/
structure Platform (ω : Type) where
  host : Host ω
  catalog : Catalog
  settings : Settings

/-- The steps of an operation that can fail on the API server. -/
inductive Step where
  | create
  | retrieve
  | update
  | patch
deriving DecidableEq, Repr

def Step.verb : Step → String
  | .create => "create"
  | .retrieve => "retrieve"
  | .update => "update"
  | .patch => "patch"

/-- A fault and the step at which it came up. -/
structure StepFault where
  step : Step
  fault : Fault

def StepFault.account : Fault.Account StepFault := ⟨fault, fun e f => { e with fault := f }⟩

namespace Manager

open Session

variable {ω ε α : Type}

/-- Puts a manager to work. Its recorder gets its client, unless it has another one or none. Mirrors
`StatefulSetManager`. -/
def start (manager : Manager) : Run ω ε Unit := do
  Act.modify fun s => { s with manager }
  log (.info "[K8S:MANAGER] StatefulSet manager initialized")

/-- The fault of a run as the fault of a step. -/
def atStep (step : Step) (run : Run ω Fault α) : Run ω StepFault α := run.mapFault (⟨step, ·⟩)

/-- Runs with a report on an API error; other faults are not reported. -/
def reporting (account : Fault.Account ε) (report : ε → Run ω Fault Unit) (run : Run ω ε α) :
    Run ω Fault α := do
  match ← run.attempt with
  | .ok a => return a
  | .error e =>
    match account.fault e with
    | .api _ => report e
    | _ => pure ()
    Act.fail (account.fault e)

/-- Reports that a step failed. `object` says on what. -/
def failed (p : Platform ω) (cluster : Cluster) (object : String) (e : StepFault) :
    Run ω Fault Unit :=
  Recorder.error p.host p.settings cluster e.fault Recorder.logOnly
    s!"failed to {e.step.verb} statefulset {object}"

/-! ## Creating -/

/-- Builds the stateful set of a role, without replicas, and has the server create it. Part of
`create_statefulset`. -/
def createBuilt (p : Platform ω) (cluster : Cluster) (role : Role) (status : Option RoleStatus)
    (native : Option Bool) : Run ω Fault StatefulSet := do
  let body ← Act.lift (Synthesis.build p.catalog (.ok p.settings) cluster role status 0 native)
  let client ← Session.client p.host
  reporting StepFault.account (failed p cluster s!"for role {role.id}")
    (RetryPolicy.single.run StepFault.account fun _ =>
      atStep .create (Session.create p.host client cluster.ns body))

/-- Creates the stateful set of a role, with the caller's status of the role at hand. The name that
it was given is put in that status, so that it is found again. Mirrors `create_statefulset`. -/
def create (p : Platform ω) (cluster : Cluster) (role : Role) (native : Option Bool) :
    Act (Session ω × Option RoleStatus) Effect Fault StatefulSet := do
  let (_, status) ← Act.get
  let created ← (createBuilt p cluster role status native).beside
  let name := created.metadata.name
  Act.modify fun (session, status) =>
    (session, status.map fun s => { s with statefulSet := name })
  Act.beside (log (.info s!"[K8S:MANAGER] Role {role.id} -> statefulset {shown name}"))
  return created

/-! ## Scaling -/

/-- Replaces a stateful set by itself with another number of replicas. Part of
`update_statefulset_replicas`. -/
def rescale (p : Platform ω) (client : Client) (replicas : Int) (s : StatefulSet) :
    Run ω StepFault (Option StatefulSet) :=
  atStep .update (replace p.host client (s.withReplicas replicas))

/-- Scales the stateful set of an identity as it is now. Part of `update_statefulset_replicas`. -/
def rescaleCurrent (p : Platform ω) (client : Client) (replicas : Int) (id : Identity) :
    Run ω StepFault (Option StatefulSet) := do
  log (.info s!"[K8S:MANAGER] Conflict updating statefulset {id.title}, refetching")
  match ← atStep .retrieve (Session.read p.host client id) with
  | none => Act.fail ⟨.update, .noObject "spec"⟩
  | some current => rescale p client replicas current

/-- Scales a stateful set through a client: a copy read before at first, and after a conflict the
one that is there now. Part of `update_statefulset_replicas`. -/
def scaleThrough (p : Platform ω) (client : Client) (cluster : Cluster) (replicas : Int)
    (s : StatefulSet) : Run ω Fault (Option StatefulSet) := do
  let id := s.identity
  let updated ← reporting StepFault.account (failed p cluster id.title)
    ((RetryPolicy.conflict p.host.depth).run StepFault.account fun number =>
      if number = 1 then rescale p client replicas s else rescaleCurrent p client replicas id)
  log (.info s!"[K8S:MANAGER] Statefulset {id.title} scaled to {replicas}")
  return updated

/-- What scaling leaves: the caller's copy, and how it ended. -/
structure Scaled where
  copy : StatefulSet
  outcome : Except Fault (Option StatefulSet)

/-- Scales a stateful set that was read before. The caller's copy has the new number of replicas as
soon as there is a client, even if the server refuses it. Mirrors `update_statefulset_replicas`. -/
def scale (p : Platform ω) (cluster : Cluster) (replicas : Int) (s : StatefulSet) :
    Run ω ε Scaled := do
  match ← (Session.client p.host).attempt with
  | .error f => return ⟨s, .error f⟩
  | .ok client =>
    return ⟨s.withReplicas replicas, ← (scaleThrough p client cluster replicas s).attempt⟩

/-- Scales what is no stateful set: an answer of the server that was null. That it is missing comes
out as soon as there is a client. -/
def scaleMissing (p : Platform ω) : Run ω Fault α := do
  let _ ← Session.client p.host
  Act.fail (.noObject "metadata")

/-! ## Ownership -/

/-- Where the owners of an object are in its manifest. -/
def ownersPath : String := "/metadata/ownerReferences"

/-- Makes the cluster the one owner of a stateful set, whatever owners it has. Part of
`update_statefulset_non_replicas`. -/
def adopt (p : Platform ω) (client : Client) (cluster : Cluster) (id : Identity) :
    Run ω StepFault Unit := do
  match ← atStep .retrieve (Session.read p.host client id) with
  | none => Act.fail ⟨.patch, .noObject "metadata"⟩
  | some current =>
    atStep .patch
      (patch p.host client current.identity [.add ownersPath (Metadata.owners cluster)])

/-- Brings a stateful set back to its cluster, unless the cluster is among its owners. Nothing is
done for a role that is no longer there. Mirrors `update_statefulset_non_replicas`. -/
def repair (p : Platform ω) (cluster : Cluster) (role : Option Role) (s : StatefulSet) :
    Run ω Fault Unit := do
  if role.isNone || Metadata.isOwned cluster s.metadata.ownerReferences then return ()
  else
    let id := s.identity
    Recorder.info p.host p.settings cluster Recorder.logOnly
      s!"repairing owner ref on statefulset {shown id.name}"
    let client ← Session.client p.host
    reporting StepFault.account (failed p cluster id.title)
      (RetryPolicy.single.run StepFault.account fun _ => adopt p client cluster id)

/-- Repairs what is no stateful set, which fails unless the role is no longer there either. -/
def repairMissing (role : Option Role) : Run ω Fault Unit :=
  if role.isNone then pure () else Act.fail (.noObject "metadata")

/-! ## Deleting -/

/-- What is logged when a stateful set could not be deleted. Part of `delete_statefulset`. -/
def undeleted (id : Identity) (f : Fault) : Log :=
  if f.isNotFound then
    .warning s!"[K8S:MANAGER] Statefulset {id.title} not found for deletion"
  else .error s!"[K8S:MANAGER] Failed to delete statefulset {id.title}: {f.message}"

/-- Deletes a stateful set. Mirrors `delete_statefulset`. -/
def delete (p : Platform ω) (id : Identity) : Run ω Fault Unit := do
  let client ← Session.client p.host
  reporting Fault.plain (fun f => log (undeleted id f))
    (RetryPolicy.single.run Fault.plain fun _ => Session.delete p.host client id)

end Manager
end StatefulRoles
