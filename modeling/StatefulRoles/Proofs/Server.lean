import Mathlib.Data.List.Nodup
import StatefulRoles.Proofs.Retry
import StatefulRoles.Session
/-!
# A server with other writers

A server that keeps one stateful set and stores whatever is written under a version that it has
never used. A replacement goes through if it carries the version that is kept, and is refused as a
conflict otherwise. Between the calls that a host answers, others write as they like.

Results:
* `Store.eq_of_version_eq`: what was ever kept is known by its version.
* `Server.current_others`: what is kept has changed before the next call exactly if others wrote.
* `Server.answer_fresh`, `Server.answer_stale`, `Server.answer_read`: what becomes of a replacement
  made from something that was once kept, and what a read gives.
-/
namespace StatefulRoles

/-! ## Versions -/

namespace StatefulSet

/-- The version that a stateful set is kept under. -/
def version (s : StatefulSet) : Option String := s.metadata.resourceVersion

def withVersion (s : StatefulSet) (version : String) : StatefulSet :=
  { s with metadata := { s.metadata with resourceVersion := some version } }

/-- The stateful set as it is kept under an address and a version. -/
def keptAs (s : StatefulSet) (id : Identity) (version : String) : StatefulSet :=
  { s with metadata := { s.metadata with
      ns := id.ns, name := id.name, resourceVersion := some version } }

theorem keptAs_identity (s : StatefulSet) (version : String) :
    s.keptAs s.identity version = s.withVersion version := rfl

end StatefulSet

/-- The stateful set that is kept, and those that were kept before it, under one address and no two
under the same version. -/
structure Store where
  id : Identity
  current : StatefulSet
  past : List StatefulSet := []
  addressed : ∀ s ∈ current :: past, s.identity = id
  distinct : ((current :: past).map (·.version)).Nodup

namespace Store

variable {store : Store} {s s' : StatefulSet}

/-- All that was ever kept. -/
def held (store : Store) : List StatefulSet := store.current :: store.past

def versions (store : Store) : List (Option String) := store.held.map (·.version)

/-- What was ever kept is known by its version. -/
theorem eq_of_version_eq (h : s ∈ store.held) (h' : s' ∈ store.held)
    (heq : s.version = s'.version) : s = s' :=
  List.inj_on_of_nodup_map store.distinct h h' heq

theorem current_not_mem_past (store : Store) : store.current ∉ store.past := fun h =>
  (List.nodup_cons.mp store.distinct).1 (List.mem_map_of_mem h)

end Store

/-! ## Servers -/

/-- How a server picks versions, how it refuses a replacement, how deep the body of an answer may go
to be read, and whether the server can be found. -/
structure Server where
  next : List (Option String) → String
  next_fresh : ∀ used, some (next used) ∉ used
  depth : Nat
  refusal : StatefulSet → ApiError
  refusal_code : ∀ body, (refusal body).status.bind (·.code?) = some 409
  refusal_reason : ∀ body, (refusal body).reason? depth = .ok (some (.str "Conflict"))
  load : Loader → Except String Unit := fun _ => .ok ()

/-- What a server keeps, and what others will write to it: before the next call, before the one
after it, and so on. -/
structure World where
  store : Store
  foreign : List (List StatefulSet) := []

namespace Server

variable (server : Server)

/-- Keeps a stateful set from now on, under a version that was never used. -/
def write (s : StatefulSet) (store : Store) : Store where
  id := store.id
  current := s.keptAs store.id (server.next store.versions)
  past := store.held
  addressed := List.forall_mem_cons.mpr ⟨rfl, store.addressed⟩
  distinct := List.nodup_cons.mpr ⟨server.next_fresh _, store.distinct⟩

def writeAll (ss : List StatefulSet) (store : Store) : Store :=
  ss.foldl (fun store s => server.write s store) store

/-- What others write before the next call is written. -/
def others (w : World) : World := ⟨server.writeAll (w.foreign.headD []) w.store, w.foreign.tail⟩

/-- A call for what is not there. -/
def missing : Fault := .api { kind := .notFound, status := some (.code 404) }

/-- Answers a call, as the others have left things. -/
def answer (call : Call) (w : World) : Except Fault (Option StatefulSet) × World :=
  let w := server.others w
  match call with
  | .replace id body =>
    if id = w.store.id then
      if body.version = w.store.current.version then
        let store := server.write body w.store
        (.ok (some store.current), { w with store })
      else (.error (.api (server.refusal body)), w)
    else (.error missing, w)
  | .read id => if id = w.store.id then (.ok (some w.store.current), w) else (.error missing, w)
  | _ => (.error missing, w)

/-- The host with this server. -/
def host : Host World where
  answer := server.answer
  load loader w := (server.load loader, w)
  now _ := ""
  depth := server.depth

variable {server} {w : World} {s : StatefulSet} {store : Store} {ss : List StatefulSet}

theorem writeAll_id : (server.writeAll ss store).id = store.id := by
  unfold writeAll
  induction ss generalizing store with
  | nil => rfl
  | cons s ss ih => exact ih

theorem mem_past_writeAll (h : s ∈ store.past) : s ∈ (server.writeAll ss store).past := by
  unfold writeAll
  induction ss generalizing store with
  | nil => exact h
  | cons s' ss ih => exact ih (List.mem_cons_of_mem _ h)

/-- What was kept is a thing of the past once something is written. -/
theorem mem_past_writeAll_cons {s' : StatefulSet} (h : s ∈ store.held) :
    s ∈ (server.writeAll (s' :: ss) store).past := by
  show s ∈ (server.writeAll ss (server.write s' store)).past
  exact mem_past_writeAll h

theorem mem_held_writeAll (h : s ∈ store.held) : s ∈ (server.writeAll ss store).held := by
  cases ss with
  | nil => exact h
  | cons s' ss => exact List.mem_cons_of_mem _ (mem_past_writeAll_cons h)

theorem others_id : (server.others w).store.id = w.store.id := writeAll_id

theorem mem_held_others (h : s ∈ w.store.held) : s ∈ (server.others w).store.held :=
  mem_held_writeAll h

/-- What is kept has changed before the next call exactly if others wrote. -/
theorem current_others : (server.others w).store.current = w.store.current ↔
    w.foreign.headD [] = [] := by
  unfold others
  cases w.foreign.headD [] with
  | nil => exact iff_of_true rfl rfl
  | cons s ss =>
    refine iff_of_false (fun heq => ?_) (List.cons_ne_nil s ss)
    have hpast : w.store.current ∈ (server.writeAll (s :: ss) w.store).past :=
      mem_past_writeAll_cons List.mem_cons_self
    exact Store.current_not_mem_past _ (heq ▸ hpast)

/-! ## Answers -/

theorem refusal_isConflict (body : StatefulSet) :
    Fault.isConflict server.depth (.api (server.refusal body)) = .ok true := by
  have hcode : (server.refusal body).hasCode 409 :=
    ApiError.hasCode_iff.mpr (server.refusal_code body)
  have hreason : (server.refusal body).hasReason server.depth "AlreadyExists" = .ok false := by
    rw [ApiError.hasReason, server.refusal_reason]
    rfl
  have hconflict : (server.refusal body).isConflict server.depth = .ok true := by
    rw [ApiError.isConflict, if_pos hcode, hreason]
    rfl
  show ((server.refusal body).isConflict server.depth).mapError _ = _
  rw [hconflict]
  rfl

theorem held_identity (h : s ∈ w.store.held) : s.identity = (server.others w).store.id :=
  (w.store.addressed s h).trans others_id.symm

/-- A replacement made from what is kept goes through. -/
theorem answer_fresh {body : StatefulSet} (h : s ∈ w.store.held)
    (hbody : body.version = s.version) (hs : s = (server.others w).store.current) :
    server.answer (.replace s.identity body) w =
      (.ok (some (server.write body (server.others w).store).current),
        { server.others w with store := server.write body (server.others w).store }) := by
  have hversion : body.version = (server.others w).store.current.version := hs ▸ hbody
  show (if _ then _ else _) = _
  rw [if_pos (held_identity h), if_pos hversion]

/-- One made from what was kept before is refused. -/
theorem answer_stale {body : StatefulSet} (h : s ∈ w.store.held)
    (hbody : body.version = s.version) (hs : s ≠ (server.others w).store.current) :
    server.answer (.replace s.identity body) w =
      (.error (.api (server.refusal body)), server.others w) := by
  have hversion : body.version ≠ (server.others w).store.current.version := fun heq =>
    hs (Store.eq_of_version_eq (mem_held_others h) List.mem_cons_self (hbody.symm.trans heq))
  show (if _ then _ else _) = _
  rw [if_pos (held_identity h), if_neg hversion]

theorem answer_read (h : s ∈ w.store.held) :
    server.answer (.read s.identity) w =
      (.ok (some (server.others w).store.current), server.others w) := by
  show (if _ then _ else _) = _
  rw [if_pos (held_identity h)]

end Server
end StatefulRoles
