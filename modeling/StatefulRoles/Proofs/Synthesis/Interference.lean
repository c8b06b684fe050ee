import StatefulRoles.Proofs.Environment
import StatefulRoles.Proofs.Synthesis.Stages
/-!
# What the parts of a stateful set depend on

A stateful set is put together from many inputs, and each of them should show up only where it
belongs. Two builds that differ in one input are run side by side here: `Agree` relates two runs
that ask the catalog the same and end alike, and is closed under putting runs together, so that what
two builds have in common follows from what each of their parts has in common.

Results:
* `Agree.bind`: two runs of two parts agree if both parts do.
* `gather_agree`: for a role without storage, the directories that its app wants kept and its setup
  package show in nothing that is gathered but the directories and the setup package themselves.
* `build_isolated`: the number of replicas and the role's status each show up in their own place
  only; without storage the app's directories do not show up at all, and the setup package only in
  the environment.
-/
namespace StatefulRoles

/-- Two outcomes are the same fault, or values that are related. -/
inductive Matches {ε α β : Type} (R : α → β → Prop) : Except ε α → Except ε β → Prop where
  | fault (e : ε) : Matches R (.error e) (.error e)
  | value {a : α} {b : β} (h : R a b) : Matches R (.ok a) (.ok b)

namespace Matches

variable {ε α β : Type} {R S : α → β → Prop}

theorem refl (x : Except ε α) : Matches Eq x x := by
  cases x with
  | ok a => exact .value rfl
  | error e => exact .fault e

theorem of_eq {x y : Except ε α} (h : y = x) : Matches Eq x y := h ▸ refl x

theorem mono {x : Except ε α} {y : Except ε β} (h : Matches R x y) (hRS : ∀ a b, R a b → S a b) :
    Matches S x y := by
  cases h with
  | fault e => exact .fault e
  | value h => exact .value (hRS _ _ h)

/-- Outcomes that are the same fault or the same value are the same. -/
theorem eq {x y : Except ε α} (h : Matches Eq x y) : y = x := by
  cases h with
  | fault e => rfl
  | value h => rw [h]

end Matches

namespace StatefulSet

/-- The stateful set with another name, or another beginning of one. -/
def withNames (s : StatefulSet) (name generateName : Option String) : StatefulSet :=
  { s with metadata := { s.metadata with name, generateName } }

/-- The stateful set with another environment of the app container. -/
def withEnvironment (s : StatefulSet) (environment : List EnvVar) : StatefulSet :=
  { s with spec := { s.spec with template := s.spec.template.map fun pod =>
      { pod with app := { pod.app with environment } } } }

end StatefulSet

namespace Synthesis

/-- Two catalogs that differ at most in what they answer one of the questions about a role, if they
have an answer to it; neither of them has one where the other one fails. -/
structure SameBut (question : Lookup) (cluster : Cluster) (role : Role)
    (catalog catalog' : Catalog) : Prop where
  others : ∀ other ∈ questions role, other ≠ question →
    catalog' other cluster = catalog other cluster
  alike : Matches (fun _ _ => True) (catalog question cluster) (catalog' question cluster)

variable {α β γ δ : Type} {R : α → β → Prop} {S : γ → δ → Prop}

/-! ## Runs side by side -/

/-- Two runs ask the catalog the same, and end with the same fault or with related values. -/
structure Agree (R : α → β → Prop) (x : Traced Effect Fault α) (y : Traced Effect Fault β) :
    Prop where
  lookups : y.lookups = x.lookups
  result : Matches R x.result y.result

namespace Agree

theorem refl (x : Traced Effect Fault α) : Agree Eq x x := ⟨rfl, .refl _⟩

theorem pure {a : α} {b : β} (h : R a b) : Agree R (Pure.pure a) (Pure.pure b) := ⟨rfl, .value h⟩

/-- What is logged does not matter. -/
theorem log (lines lines' : List Log) :
    Agree Eq (Traced.log lines) (Traced.log lines') := by
  have hnone (lines : List Log) :
      (Traced.log lines : Traced Effect Fault Unit).lookups = [] := by
    have hfollows : Follows (fun _ => none) [] (Traced.log lines) := .log lines
    exact hfollows.lookups
  exact ⟨(hnone lines').trans (hnone lines).symm, .value rfl⟩

/-- Two runs of two parts agree if both parts do. -/
theorem bind {x : Traced Effect Fault α} {y : Traced Effect Fault β}
    {f : α → Traced Effect Fault γ} {g : β → Traced Effect Fault δ} (h : Agree R x y)
    (hfg : ∀ a b, R a b → Agree S (f a) (g b)) : Agree S (x >>= f) (y >>= g) := by
  obtain ⟨t, r⟩ := x
  obtain ⟨u, q⟩ := y
  have hlookups : u.filterMap Effect.lookup? = t.filterMap Effect.lookup? := h.lookups
  have hresult : Matches R r q := h.result
  cases hresult with
  | fault e => exact ⟨hlookups, .fault e⟩
  | value hab =>
    have hrest := hfg _ _ hab
    rw [Traced.bind_of_ok rfl, Traced.bind_of_ok rfl]
    refine ⟨?_, hrest.result⟩
    show List.filterMap _ (u ++ _) = List.filterMap _ (t ++ _)
    rw [List.filterMap_append, List.filterMap_append, hlookups]
    exact congrArg _ hrest.lookups

/-- A first part that they have in common. -/
theorem bind_same {x y : Traced Effect Fault α} {f : α → Traced Effect Fault γ}
    {g : α → Traced Effect Fault δ} (h : Agree Eq x y) (hfg : ∀ a, Agree S (f a) (g a)) :
    Agree S (x >>= f) (y >>= g) :=
  h.bind fun a _ hab => hab ▸ hfg a

end Agree

variable {catalog catalog' : Catalog} {cluster : Cluster} {role : Role}

theorem agree_ask {question : Lookup} {R : question.Answer → question.Answer → Prop}
    (h : Matches R (catalog question cluster) (catalog' question cluster)) :
    Agree R (ask catalog cluster question) (ask catalog' cluster question) := ⟨rfl, h⟩

/-! ## Gathering without storage -/

/-- A role without storage mounts the same whatever directories are kept. -/
theorem ofRole_unstored (h : role.storage = none) (dirs dirs' : List String)
    (claim size : String) (needed : Bool) :
    Mounting.ofRole role dirs' claim size needed = Mounting.ofRole role dirs claim size needed := by
  have hnone : ¬role.storage.isSome = true := by simp [h]
  have hpersistent (dirs : List String) : Mounting.persistent role dirs claim = {} := if_neg hnone
  unfold Mounting.ofRole
  rw [hpersistent, hpersistent]

theorem mounting_agree (settings : Checked Settings) (native : Bool) (claim : String)
    (h : role.storage = none)
    (hsystemd : catalog' .systemdRequired cluster = catalog .systemdRequired cluster)
    (dirs dirs' : List String) :
    Agree Eq (mounting catalog settings cluster role native dirs claim)
      (mounting catalog' settings cluster role native dirs' claim) := by
  refine (Agree.refl (readSettings settings)).bind_same fun read => ?_
  refine (agree_ask (.of_eq hsystemd)).bind_same fun systemd => ?_
  refine (Agree.log _ _).bind_same fun _ => ?_
  exact .pure (ofRole_unstored h dirs dirs' _ _ _).symm

/-- For a role without storage, what its app wants kept and its setup package are gathered and show
in nothing else that is. -/
theorem gather_agree {S : Option SetupPackage → Option SetupPackage → Prop}
    (settings : Checked Settings) (native : Option Bool) (h : role.storage = none)
    (hothers : ∀ q ∈ questions role, q ≠ .persistDirs role.id → q ≠ .setupPackage role.id →
      catalog' q cluster = catalog q cluster)
    (hdirs : Matches (fun _ _ => True) (catalog (.persistDirs role.id) cluster)
      (catalog' (.persistDirs role.id) cluster))
    (hsetup : Matches S (catalog (.setupPackage role.id) cluster)
      (catalog' (.setupPackage role.id) cluster)) :
    Agree (fun facts facts' => S facts.setup facts'.setup ∧
        facts' = { facts with dirs := facts'.dirs, setup := facts'.setup })
      (gather catalog settings cluster role native)
      (gather catalog' settings cluster role native) := by
  have hask {q : Lookup} (hq : q ∈ questions role) (hd : q ≠ .persistDirs role.id)
      (hs : q ≠ .setupPackage role.id) :
      Agree Eq (ask catalog cluster q) (ask catalog' cluster q) :=
    agree_ask (.of_eq (hothers q hq hd hs))
  refine (Agree.refl (readNative native settings)).bind_same fun native => ?_
  refine (hask (q := .ports role.id) (by simp [questions]) nofun nofun).bind_same fun ports => ?_
  refine (agree_ask hdirs).bind fun appDirs appDirs' _ => ?_
  refine (agree_ask hsetup).bind fun setup setup' hsetups => ?_
  refine (hask (q := .image role.id) (by simp [questions]) nofun nofun).bind_same fun image => ?_
  refine (hask (q := .capabilities) (by simp [questions]) nofun nofun).bind_same
    fun capabilities => ?_
  refine (hask (q := .containerSpec role.id) (by simp [questions]) nofun nofun).bind_same
    fun terminal => ?_
  refine (Agree.log _ _).bind_same fun _ => ?_
  have hsystemd := hothers .systemdRequired (by simp [questions]) nofun nofun
  refine (mounting_agree settings native _ h hsystemd _ _).bind_same fun mounting => ?_
  refine (Agree.refl (readSettings settings)).bind_same fun read => ?_
  refine (Agree.refl (.ofExcept _)).bind_same fun gpu => ?_
  exact .pure ⟨hsetups, rfl⟩

/-! ## Composing -/

/-- The number of replicas shows up in its own place only. -/
theorem compose_withReplicas (cluster : Cluster) (role : Role) (status : Option RoleStatus)
    (replicas replicas' : Int) (facts : Facts) :
    compose cluster role status replicas' facts =
      let s := compose cluster role status replicas facts
      { s with spec := { s.spec with replicas := some replicas' } } := rfl

/-- So does the status, in the name. -/
theorem compose_withNames (cluster : Cluster) (role : Role) (status status' : Option RoleStatus)
    (replicas : Int) (facts : Facts) :
    ∃ name generateName, compose cluster role status' replicas facts =
      (compose cluster role status replicas facts).withNames name generateName := by
  have hnaming (m : ObjectMeta) (naming naming' : Metadata.Naming) : ∃ name generateName,
      Metadata.withNaming { m with name := none, generateName := none } naming' =
        { Metadata.withNaming { m with name := none, generateName := none } naming with
          name, generateName } := by
    cases naming <;> cases naming' <;> exact ⟨_, _, rfl⟩
  obtain ⟨name, generateName, h⟩ := hnaming
    { ns := some cluster.ns
      labels := some (Metadata.labels cluster role)
      annotations := some (Metadata.annotations cluster)
      ownerReferences := some (Metadata.owners cluster) }
    (Metadata.naming cluster role status facts.nameBeginning)
    (Metadata.naming cluster role status' facts.nameBeginning)
  exact ⟨name, generateName, congrArg (fun m => { compose cluster role status' replicas facts with
    metadata := m }) h⟩

/-- Without storage the directories do not show up, and the setup package does in the environment
only. -/
theorem compose_withEnvironment (cluster : Cluster) (status : Option RoleStatus) (replicas : Int)
    (facts : Facts) (h : role.storage = none) (dirs : List String) (setup : Option SetupPackage) :
    compose cluster role status replicas { facts with dirs, setup } =
      (compose cluster role status replicas facts).withEnvironment
        (Environment.ofRole role setup facts.gpu) := by
  have hinit (dirs : List String) :
      initContainer role facts.image dirs Mounting.claimName = none :=
    if_neg (by simp [h])
  unfold compose podTemplate StatefulSet.withEnvironment
  simp only [hinit, Option.map_some]
  rfl

/-! ## Building -/

/-- **Each input shows up in its own place.** Two builds that differ in one input ask the catalog
the same and fail alike, or give stateful sets of which the second one is the first one with:
another number of replicas, if these differ; another name, if the status does; nothing else, if the
app's directories do and the role has no storage; another environment, if the setup package does and
the role has no storage. -/
theorem build_isolated (catalog : Catalog) (settings : Checked Settings) (cluster : Cluster)
    (role : Role) (status : Option RoleStatus) (replicas : Int) (native : Option Bool) :
    let run := build catalog settings cluster role status replicas native
    (∀ replicas', Agree
      (fun s s' => s' = { s with spec := { s.spec with replicas := some replicas' } }) run
      (build catalog settings cluster role status replicas' native)) ∧
    (∀ status', Agree (fun s s' => ∃ name generateName, s' = s.withNames name generateName) run
      (build catalog settings cluster role status' replicas native)) ∧
    (role.storage = none →
      (∀ catalog', SameBut (.persistDirs role.id) cluster role catalog catalog' →
        Agree Eq run (build catalog' settings cluster role status replicas native)) ∧
      ∀ catalog', SameBut (.setupPackage role.id) cluster role catalog catalog' →
        Agree (fun s s' => ∃ environment, s' = s.withEnvironment environment) run
          (build catalog' settings cluster role status replicas native)) := by
  intro run
  have hsame := Agree.refl (gather catalog settings cluster role native)
  refine ⟨fun replicas' => ?_, fun status' => ?_, fun hstorage => ⟨fun catalog' h => ?_,
    fun catalog' h => ?_⟩⟩
  · refine hsame.bind_same fun facts => ?_
    exact .pure (compose_withReplicas cluster role status replicas replicas' facts)
  · refine hsame.bind_same fun facts => ?_
    exact .pure (compose_withNames cluster role status status' replicas facts)
  · have hsetup : Matches Eq (catalog (.setupPackage role.id) cluster)
        (catalog' (.setupPackage role.id) cluster) :=
      .of_eq (h.others _ (by simp [questions]) nofun)
    have hothers := fun q hq hd (_ : q ≠ .setupPackage role.id) => h.others q hq hd
    refine (gather_agree settings native hstorage hothers h.alike hsetup).bind
      fun facts facts' hfacts => ?_
    obtain ⟨heq, hrest⟩ := hfacts
    rw [hrest, ← heq]
    exact .pure (compose_withEnvironment cluster status replicas facts hstorage _ _).symm
  · have hdirs : catalog' (.persistDirs role.id) cluster = catalog (.persistDirs role.id) cluster :=
      h.others _ (by simp [questions]) nofun
    have hothers := fun q hq (_ : q ≠ .persistDirs role.id) hs => h.others q hq hs
    refine (gather_agree settings native hstorage hothers
      ((Matches.of_eq hdirs).mono fun _ _ _ => trivial) h.alike).bind fun facts facts' hfacts => ?_
    rw [hfacts.2]
    exact .pure ⟨_, compose_withEnvironment cluster status replicas facts hstorage _ _⟩

/-- A role without storage, for which one app wants a directory kept and another one does not, and
yet another one has a setup package. -/
theorem build_isolated_unstored :
    let cluster : Cluster := { name := "c", ns := "n", uid := "u", spec := { app := "db" } }
    let role : Role := { id := "db" }
    let built (catalog : Catalog) := build catalog (.ok {}) cluster role none 3 none
    (built (plainCatalog (some ["/data"]))).result = (built (plainCatalog none)).result ∧
      ∃ s s' environment, (built (plainCatalog none)).result = .ok s ∧
        (built Environment.newLayoutCatalog).result = .ok s' ∧
        s' = s.withEnvironment environment := by
  intro cluster role built
  obtain ⟨-, -, hunstored⟩ := build_isolated (plainCatalog none) (.ok {}) cluster role none 3 none
  obtain ⟨hdirs, hsetup⟩ := hunstored rfl
  have hdata : SameBut (.persistDirs "db") cluster role (plainCatalog none)
      (plainCatalog (some ["/data"])) :=
    ⟨by simp [questions, plainCatalog, role], .value trivial⟩
  have hlayout : SameBut (.setupPackage "db") cluster role (plainCatalog none)
      Environment.newLayoutCatalog :=
    ⟨by simp [questions, plainCatalog, Environment.newLayoutCatalog, role], .value trivial⟩
  obtain ⟨s, hs⟩ : ∃ s, (built (plainCatalog none)).result = .ok s := ⟨_, rfl⟩
  obtain ⟨s', hs'⟩ : ∃ s', (built Environment.newLayoutCatalog).result = .ok s' := ⟨_, rfl⟩
  have hmatches := (hsetup _ hlayout).result
  rw [hs, hs'] at hmatches
  cases hmatches with
  | value h =>
    obtain ⟨environment, henvironment⟩ := h
    exact ⟨(hdirs _ hdata).result.eq, s, s', environment, hs, hs', henvironment⟩

end Synthesis
end StatefulRoles
