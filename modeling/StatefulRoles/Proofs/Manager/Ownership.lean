import StatefulRoles.Proofs.Json.Patch
import StatefulRoles.Proofs.Manager.SingleAttempt
/-!
# Bringing back to the owner converges

What a repair is for is that no other one is needed after it. Its test asks for the cluster's uid
among the owners; its patch makes the cluster the one owner, whoever the owners are by then.

Results:
* `writeOwners_injective`: owners are known by how they are written.
* `Reowned.of_patch`: the patch adds the canonical owners at their place, and does nothing else.
* `repair_converges`: a repair that is needed and goes through leaves the canonical owners, leaves
  everything else alone, and is the last one that is needed.
-/
namespace StatefulRoles

/-! ## Owners as they are written -/

theorem Manifest.writeOwner_injective {r r' : OwnerReference}
    (h : writeOwner r = writeOwner r') : r = r' := by
  obtain ⟨apiVersion, kind, name, uid, controller, blockOwnerDeletion⟩ := r
  obtain ⟨apiVersion', kind', name', uid', controller', blockOwnerDeletion'⟩ := r'
  cases controller <;> cases controller' <;> cases blockOwnerDeletion <;>
    cases blockOwnerDeletion' <;> simp_all [writeOwner, record]

theorem Manifest.writeOwners_injective {rs rs' : List OwnerReference}
    (h : writeOwners rs = writeOwners rs') : rs = rs' :=
  List.map_injective_iff.mpr (fun _ _ => writeOwner_injective) (Json.arr.inj h)

/-- The owners that an object of a cluster should have, as they are written. -/
def Metadata.writtenOwners (cluster : Cluster) : Json :=
  .arr [.obj [("apiVersion", .str cluster.apiVersion), ("kind", .str cluster.kind),
    ("name", .str cluster.name), ("uid", .str cluster.uid), ("controller", .bool true),
    ("blockOwnerDeletion", .bool true)]]

theorem Metadata.writeOwners_owners (cluster : Cluster) :
    Manifest.writeOwners (owners cluster) = writtenOwners cluster := rfl

theorem Metadata.isOwned_iff (cluster : Cluster) (refs : Option (List OwnerReference)) :
    isOwned cluster refs = true ↔ ∃ ref ∈ refs.getD [], ref.uid = cluster.uid := by
  simp [isOwned]

namespace Manager

open Act Session

/-- Where a document has its owners. -/
def ownersPlace : Place := [.name "metadata", .name "ownerReferences"]

/-- The stateful set has the owners that the document says. -/
def ShowsOwners (document : Json) (s : StatefulSet) : Prop :=
  document.part? ownersPlace = s.metadata.ownerReferences.map Manifest.writeOwners

/-- A patched document, and the one from which it was made. -/
structure Reowned (cluster : Cluster) (before after : Json) : Prop where
  owners : after.part? ownersPlace = some (Metadata.writtenOwners cluster)
  others : ∀ place : Place, place.Apart ownersPlace → after.part? place = before.part? place

/-- The patch adds the canonical owners at their place. -/
theorem patch?_owners (cluster : Cluster) (document : Json) :
    Json.patch? (Manifest.writePatch [.add ownersPath (Metadata.owners cluster)]) document =
      Json.add? ["metadata", "ownerReferences"] (Metadata.writtenOwners cluster) document := by
  have hpointer : Json.pointer? ownersPath = some ["metadata", "ownerReferences"] := by
    decide +kernel
  simp [Manifest.writePatch, Manifest.writeStep, Json.patch?, Json.patchStep?, Json.get?,
    Entries.lookup_cons, hpointer, Metadata.writeOwners_owners]

/-- It does nothing else. -/
theorem Reowned.of_patch {cluster : Cluster} {before after : Json}
    (h : Json.patch? (Manifest.writePatch [.add ownersPath (Metadata.owners cluster)]) before =
      some after) : Reowned cluster before after := by
  have hnames : ∀ token ∈ ["metadata", "ownerReferences"], Json.isItemToken token = false := by
    decide +kernel
  rw [patch?_owners] at h
  exact ⟨Json.part?_add? hnames h, fun place hplace => Json.part?_add?_apart hnames h hplace⟩

/-- A host whose server applies patches to the documents that it keeps. What a call finds may be
something else than what the last one left: others write as well. -/
structure Patches {ω : Type} (host : Host ω) where
  found : Identity → ω → Option Json
  kept : Identity → ω → Option Json
  applied : ∀ {id : Identity} {steps : List PatchStep} {world world' : ω}
    {answer : Option StatefulSet}, host.answer (.patch id steps) world = (.ok answer, world') →
    ∃ before after, found id world = some before ∧
      Json.patch? (Manifest.writePatch steps) before = some after ∧ kept id world' = some after

variable {ω : Type} {p : Platform ω} {client : Client} {cluster : Cluster} {role : Role}
  {s : StatefulSet} {σ ready : Session ω} {t : List Effect}

/-- What owns a stateful set that a document shows. -/
theorem Reowned.shown {before after : Json} (h : Reowned cluster before after)
    (hshows : ShowsOwners after s) :
    s.metadata.ownerReferences = some (Metadata.owners cluster) := by
  have hwritten := h.owners.symm.trans hshows
  obtain ⟨refs, hrefs, hsame⟩ := Option.map_eq_some_iff.mp hwritten.symm
  have howners := hsame.trans (Metadata.writeOwners_owners cluster).symm
  rw [hrefs, Manifest.writeOwners_injective howners]

/-- So no other repair is needed. -/
theorem Reowned.settled {before after : Json} (h : Reowned cluster before after)
    (hshows : ShowsOwners after s) (role : Option Role) (p : Platform ω) (σ : Session ω) :
    repair p cluster role s σ = (⟨[], .ok ()⟩, σ) := by
  have howned : Metadata.isOwned cluster s.metadata.ownerReferences = true := by
    simp [h.shown hshows, Metadata.isOwned, Metadata.owners]
  exact repair_idle (by rw [needsNothing, howned, Bool.or_true])

/-! ## Repairs -/

/-- Both calls of an adoption go through, and this is what they find and leave. -/
structure Adopts (host : Host ω) (cluster : Cluster) (id : Identity) (world : ω)
    (current : StatefulSet) (between after : ω) : Prop where
  read : host.answer (.read id) world = (.ok (some current), between)
  patched : ∃ answer, host.answer (adoptCall cluster current) between = (.ok answer, after)

theorem adopt_cases (p : Platform ω) (client : Client) (cluster : Cluster) (id : Identity)
    (σ : Session ω) : ∃ v r σ', adopt p client cluster id σ = (⟨v, r⟩, σ') ∧
      (client, .read id) ∈ v.filterMap Effect.call? ∧
      (r = .ok () ↔ ∃ current between after,
        Adopts p.host cluster id σ.world current between after) := by
  rcases hread : p.host.answer (.read id) σ.world with ⟨f | (_ | current), between⟩
  · refine ⟨_, _, _, adopt_unread hread, List.mem_cons_self, iff_of_false nofun ?_⟩
    rintro ⟨current, between, after, h⟩
    cases hread.symm.trans h.read
  · refine ⟨_, _, _, adopt_missing hread, List.mem_cons_self, iff_of_false nofun ?_⟩
    rintro ⟨current, between, after, h⟩
    cases hread.symm.trans h.read
  · rcases hpatch : p.host.answer (adoptCall cluster current) between with ⟨f | answer, after⟩
    · refine ⟨_, _, _, adopt_unpatched hread hpatch, List.mem_cons_self, iff_of_false nofun ?_⟩
      rintro ⟨current', between', after', h⟩
      cases hread.symm.trans h.read
      obtain ⟨answer, h⟩ := h.patched
      cases hpatch.symm.trans h
    · exact ⟨_, _, _, adopt_ok hread hpatch, List.mem_cons_self,
        iff_of_true rfl ⟨current, between, after, hread, answer, hpatch⟩⟩

/-- Where one is needed, a repair makes at least the first of its calls, and succeeds exactly if
both go through. -/
theorem repair_needed (hneeds : needsNothing cluster (some role) s = false)
    (hclient : Session.client p.host σ = (⟨t, .ok client⟩, ready)) :
    (repair p cluster (some role) s σ).1.calls ≠ [] ∧
      ((repair p cluster (some role) s σ).1.result = .ok () ↔ ∃ current between after,
        Adopts p.host cluster s.identity ready.world current between after) := by
  obtain ⟨v, r, σ', hadopt, hread, hr⟩ := adopt_cases p client cluster s.identity ready
  rw [repair_eq hneeds (bind_ok hclient (bringBack_eq hadopt)), ← hr]
  constructor
  · have hmem : (client, Call.read s.identity) ∈
        ([Effect.log (repairingLog cluster s.identity)] ++
          (t ++ (v ++ repairLogs cluster s.identity r))).filterMap Effect.call? := by
      simp only [List.filterMap_append, List.mem_append]
      exact .inr (.inr (.inl hread))
    exact List.ne_nil_of_mem hmem
  · cases r <;> simp [Except.mapError]

/-- It makes both calls then, and leaves what the second one does. -/
theorem Adopts.repair_eq {current : StatefulSet} {between after : ω}
    (hneeds : needsNothing cluster (some role) s = false)
    (hclient : Session.client p.host σ = (⟨t, .ok client⟩, ready))
    (h : Adopts p.host cluster s.identity ready.world current between after) :
    (repair p cluster (some role) s σ).1.calls =
        (adoption cluster s.identity current).map (client, ·) ∧
      (repair p cluster (some role) s σ).2.world = after := by
  obtain ⟨answer, hpatch⟩ := h.patched
  rw [Manager.repair_eq hneeds (bind_ok hclient (bringBack_eq (adopt_ok h.read hpatch)))]
  refine ⟨?_, rfl⟩
  simp only [Traced.calls, List.filterMap_append, client_calls hclient, repairLogs_calls]
  rfl

/-- **Convergence.** On a manager with a client, a repair for a role makes no call exactly if the
cluster is among the owners of what it is given. Otherwise it succeeds exactly if its two calls do:
it reads the object, and patches what it has read with the canonical owners. What the server then
keeps has these owners; all else is as the patch has found it, and no other repair is needed. -/
theorem repair_converges (server : Patches p.host) (cluster : Cluster) (role : Role)
    (s : StatefulSet) (hclient : Session.client p.host σ = (⟨t, .ok client⟩, ready)) :
    let run := repair p cluster (some role) s σ
    let id : Identity := ⟨s.metadata.ns, s.metadata.name⟩
    (run.1.calls = [] ↔ ∃ ref ∈ s.metadata.ownerReferences.getD [], ref.uid = cluster.uid) ∧
    ((∀ ref ∈ s.metadata.ownerReferences.getD [], ref.uid ≠ cluster.uid) →
      (run.1.result = .ok () ↔ ∃ current between after,
        Adopts p.host cluster id ready.world current between after) ∧
      ∀ current between after, Adopts p.host cluster id ready.world current between after →
        let current : Identity := ⟨current.metadata.ns, current.metadata.name⟩
        run.1.calls = [(client, .read id), (client, .patch current
          [.add "/metadata/ownerReferences" (Metadata.owners cluster)])] ∧
        run.2.world = after ∧
        ∃ document document', server.found current between = some document ∧
          server.kept current after = some document' ∧
          Reowned cluster document document' ∧
          ∀ s', ShowsOwners document' s' →
            s'.metadata.ownerReferences = some (Metadata.owners cluster) ∧
            ∀ (q : Platform ω) role' σ', repair q cluster role' s' σ' = (⟨[], .ok ()⟩, σ')) := by
  have hneeds : needsNothing cluster (some role) s =
      Metadata.isOwned cluster s.metadata.ownerReferences := rfl
  have howned := Metadata.isOwned_iff cluster s.metadata.ownerReferences
  refine ⟨?_, fun hnot => ?_⟩
  · cases h : Metadata.isOwned cluster s.metadata.ownerReferences with
    | true =>
      show (repair p cluster (some role) s σ).1.calls = [] ↔ _
      rw [repair_idle (hneeds.trans h)]
      exact iff_of_true rfl (howned.mp h)
    | false =>
      refine iff_of_false (repair_needed (hneeds.trans h) hclient).1 fun hmem => ?_
      exact Bool.false_ne_true (h.symm.trans (howned.mpr hmem))
  · have h : needsNothing cluster (some role) s = false := by
      rw [hneeds, Bool.eq_false_iff]
      rintro htrue
      obtain ⟨ref, href, huid⟩ := howned.mp htrue
      exact hnot ref href huid
    refine ⟨(repair_needed h hclient).2, fun current between after hadopts => ?_⟩
    obtain ⟨hcalls, hworld⟩ := hadopts.repair_eq h hclient
    obtain ⟨answer, hpatch⟩ := hadopts.patched
    obtain ⟨document, document', hfound, happlied, hkept⟩ := server.applied hpatch
    have hreowned := Reowned.of_patch happlied
    exact ⟨hcalls, hworld, document, document', hfound, hkept, hreowned, fun s' hshows =>
      ⟨hreowned.shown hshows, fun q role' σ' => hreowned.settled hshows role' q σ'⟩⟩

/-- A server that keeps one document. -/
def documentHost (read : StatefulSet) : Host Json where
  answer
    | .read _, document => (.ok (some read), document)
    | .patch _ steps, document =>
      match Json.patch? (Manifest.writePatch steps) document with
      | some document' => (.ok none, document')
      | none => (.error (.api { status := some (.code 422) }), document)
    | _, document => (.ok none, document)
  load _ document := (.ok (), document)
  now _ := ""
  depth := 0

def documentHost.patches (read : StatefulSet) : Patches (documentHost read) where
  found _ document := some document
  kept _ document := some document
  applied := by
    intro id steps world world' answer h
    cases hpatch : Json.patch? (Manifest.writePatch steps) world with
    | none => simp [documentHost, hpatch] at h
    | some document' =>
      obtain ⟨-, rfl⟩ : none = answer ∧ document' = world' := by
        simpa [documentHost, hpatch] using h
      exact ⟨world, document', rfl, hpatch, rfl⟩

/-- A stateful set that a restored backup has given to another owner. -/
theorem repair_converges_restored :
    let cluster : Cluster := { name := "c", ns := "n", uid := "u", spec := { app := "db" } }
    let other : OwnerReference := ⟨"v1", "ConfigMap", "backup", "v", some true, none⟩
    let s : StatefulSet := { metadata :=
      { name := some "db-x2x4z", ns := some "n", ownerReferences := some [other] } }
    let document : Json := .obj [("metadata", .obj [("finalizers", .arr [.str "keep"]),
      ("ownerReferences", .null)])]
    let run := repair ⟨documentHost s, Synthesis.plainCatalog none, {}⟩ cluster
      (some { id := "db" }) s { world := document, manager := { client := some ⟨0⟩ } }
    run.1.result = .ok () ∧ run.1.calls.length = 2 ∧
      run.2.world.part? ownersPlace = some (Metadata.writtenOwners cluster) ∧
      run.2.world.part? [.name "metadata", .name "finalizers"] = some (.arr [.str "keep"]) := by
  intro cluster other s document run
  let document' : Json := .obj [("metadata", .obj [("finalizers", .arr [.str "keep"]),
    ("ownerReferences", Metadata.writtenOwners cluster)])]
  have hpatch : (documentHost s).answer (adoptCall cluster s) document = (.ok none, document') := by
    have hadd : Json.add? ["metadata", "ownerReferences"] (Metadata.writtenOwners cluster)
        document = some document' := rfl
    have hpatch : (Manifest.writePatch [.add "/metadata/ownerReferences"
        (Metadata.owners cluster)]).patch? document = some document' :=
      (patch?_owners cluster document).trans hadd
    simp only [documentHost, adoptCall, hpatch]
  have hclient : Session.client (documentHost s)
      { world := document, manager := { client := some ⟨0⟩ } } = (⟨[], .ok ⟨0⟩⟩, _) :=
    client_own (documentHost s) rfl
  obtain ⟨-, hrepair⟩ := repair_converges (p := ⟨documentHost s, Synthesis.plainCatalog none, {}⟩)
    (documentHost.patches s) cluster { id := "db" } s hclient
  obtain ⟨hresult, hall⟩ := hrepair (by decide)
  have hadopts : Adopts (documentHost s) cluster s.identity document s document document' :=
    ⟨rfl, none, hpatch⟩
  obtain ⟨hcalls, hworld, before, after, hfound, hkept, hreowned, -⟩ := hall s _ _ hadopts
  obtain rfl : document = before := Option.some.inj hfound
  obtain rfl : document' = after := Option.some.inj hkept
  refine ⟨hresult.mpr ⟨_, _, _, hadopts⟩, congrArg List.length hcalls, ?_, ?_⟩
  · exact (congrArg _ hworld).trans hreowned.owners
  · exact (congrArg _ hworld).trans (hreowned.others _ (by decide))

end Manager
end StatefulRoles
