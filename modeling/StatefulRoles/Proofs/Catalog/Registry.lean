import Mathlib.Data.List.Induction
import StatefulRoles.Catalog.Registry
/-!
# What the registry answers

Seven lookups are answered from one registry, each by a definition of its own. Here all of them are
read off two things: the app that a cluster runs, which is the last one registered under its name
(`lastNamed?`), and the first role of that app with the id that is asked for (`firstRole?`).

Results:
* `lookup_ofApps`: of the apps registered under a name, the registry has the last one.
* `App.ports_eq`, `App.image_eq`: the two answers that are put together from the app and the role.
* `catalog_resolved`: every lookup is answered from that app and that role, or refused because one
  of them is not there; apps of other names do not matter.
-/
namespace StatefulRoles

/-- The role that a question is about, if it is about one. -/
def Lookup.role? : Lookup → Option String
  | .ports id | .persistDirs id | .setupPackage id | .image id | .containerSpec id => some id
  | .capabilities | .systemdRequired => none

namespace App

/-- The first role of an app with an id. -/
def firstRole? (app : App) (id : String) : Option AppRole :=
  (app.roles.filter (·.id = id)).head?

theorem role_eq (app : App) (id : String) :
    app.role id = (app.firstRole? id).elim (.error (.unknownRole id app.name)) .ok := by
  unfold role firstRole?
  rw [List.head?_filter]
  cases app.roles.find? (·.id = id) <;> rfl

theorem id_of_firstRole? {app : App} {id : String} {role : AppRole}
    (h : app.firstRole? id = some role) : role.id = id := by
  unfold firstRole? at h
  rw [List.head?_filter] at h
  simpa using List.find?_some h

/-- The ports of a role are those of the services that have one and that the role offers, each as
often as the app declares it. -/
theorem ports_eq (app : App) (role : AppRole) :
    (app.ports role).map (fun p => (p.id, some p.port)) =
      (app.services.filter fun s => s.port.isSome ∧ s.id ∈ role.services).map
        fun s => (s.id, s.port) := by
  unfold ports
  induction app.services with
  | nil => rfl
  | cons s rest ih =>
    rw [List.filterMap_cons, List.filter_cons]
    by_cases hs : s.id ∈ role.services
    · cases hport : s.port with
      | none => simpa [hs, hport] using ih
      | some port => simpa [hs, hport] using ih
    · simpa [hs] using ih

theorem unnamed_iff (image : Option String) :
    image.filter (· ≠ "") = none ↔ image.getD "" = "" := by
  cases image <;> simp

/-- The image of a role is its own, or else the app's, and has a name. -/
theorem image_eq (app : App) (role : AppRole) :
    app.image role =
      ((role.image.filter (· ≠ "")).or (app.defaultImage.filter (· ≠ ""))).elim
        (.error (.noImage role.id app.name)) .ok := by
  unfold image
  rw [List.findSome?_cons, List.findSome?_cons]
  cases role.image.filter (· ≠ "") <;> cases app.defaultImage.filter (· ≠ "") <;> rfl

theorem image_eq_ok {app : App} {role : AppRole} {name : String} :
    app.image role = .ok name ↔ name ≠ "" ∧
      (role.image = some name ∨ role.image.getD "" = "" ∧ app.defaultImage = some name) := by
  have hfirst : (role.image.filter (· ≠ "")).or (app.defaultImage.filter (· ≠ "")) = some name ↔
      name ≠ "" ∧
        (role.image = some name ∨ role.image.getD "" = "" ∧ app.defaultImage = some name) := by
    rw [Option.or_eq_some_iff, unnamed_iff, Option.filter_eq_some_iff, Option.filter_eq_some_iff,
      decide_eq_true_iff]
    tauto
  rw [image_eq, ← hfirst]
  cases (role.image.filter (· ≠ "")).or (app.defaultImage.filter (· ≠ "")) <;> simp

theorem image_eq_error {app : App} {role : AppRole} {e : CatalogError} :
    app.image role = .error e ↔ e = .noImage role.id app.name ∧
      role.image.getD "" = "" ∧ app.defaultImage.getD "" = "" := by
  rw [image_eq, ← unnamed_iff, ← unnamed_iff, ← Option.or_eq_none_iff]
  cases (role.image.filter (· ≠ "")).or (app.defaultImage.filter (· ≠ "")) <;> simp [eq_comm]

end App

namespace Registry

/-- The last of the apps with a name. -/
def lastNamed? (apps : List App) (name : String) : Option App :=
  (apps.filter (·.name = name)).getLast?

theorem ofApps_concat (apps : List App) (app : App) :
    ofApps (apps ++ [app]) = (ofApps apps).register app := by
  unfold ofApps
  rw [List.foldl_append]
  rfl

/-- Of the apps registered under a name, the registry has the last one. -/
theorem lookup_ofApps (apps : List App) (name : String) :
    (ofApps apps).lookup name = lastNamed? apps name := by
  induction apps using List.reverseRecOn with
  | nil => rfl
  | append_singleton apps app ih =>
    rw [ofApps_concat, register, Entries.lookup_put, ih]
    unfold lastNamed?
    by_cases h : name = app.name
    · simp [h]
    · simp [h, Ne.symm h]

/-- Apps of other names, wherever they come, do not change which app has a name. -/
theorem lastNamed?_insert {others : List App} {name : String} (h : ∀ app ∈ others, app.name ≠ name)
    (before after : List App) :
    lastNamed? (before ++ others ++ after) name = lastNamed? (before ++ after) name := by
  have hnone : others.filter (·.name = name) = [] := by
    rw [List.filter_eq_nil_iff]
    intro app happ
    simpa using h app happ
  simp [lastNamed?, hnone]

/-! ## From the app and the role to the answers -/

section

variable {r : Registry} {cluster : Cluster} {app : App} {id : String}

theorem app_ok (h : r.lookup cluster.spec.app = some app) : r.app cluster = .ok app := by
  unfold Registry.app
  rw [h]

theorem app_error (h : r.lookup cluster.spec.app = none) :
    r.app cluster = .error (.unknownApp cluster.spec.app cluster.title) := by
  unfold Registry.app
  rw [h]

/-- The answers depend on nothing in a registry but the app of the cluster. -/
theorem catalog_congr {r' : Registry} (h : r.lookup cluster.spec.app = r'.lookup cluster.spec.app)
    (question : Lookup) : r.catalog question cluster = r'.catalog question cluster := by
  have happ : r.app cluster = r'.app cluster := by
    unfold Registry.app
    rw [h]
  cases question <;> simp only [catalog, answer, aboutRole, happ]

/-- Without its app, nothing can be said about a cluster. -/
theorem catalog_unknownApp (h : r.lookup cluster.spec.app = none) (question : Lookup) :
    r.catalog question cluster =
      .error (.catalog (.unknownApp cluster.spec.app cluster.title)) := by
  have happ := app_error h
  cases question <;> simp only [catalog, answer, aboutRole, happ] <;> rfl

/-- Without the role, nothing can be said about it. -/
theorem catalog_unknownRole (h : r.lookup cluster.spec.app = some app)
    (hrole : app.firstRole? id = none) {question : Lookup} (hquestion : question.role? = some id) :
    r.catalog question cluster = .error (.catalog (.unknownRole id app.name)) := by
  have happ := app_ok h
  have hunknown : app.role id = .error (.unknownRole id app.name) := by
    rw [App.role_eq, hrole]
    rfl
  cases question with
  | capabilities | systemdRequired => cases hquestion
  | ports | persistDirs | setupPackage | image | containerSpec =>
    cases hquestion
    simp only [catalog, answer, aboutRole, happ]
    simp only [bind, Except.bind, hunknown]
    rfl

/-- With both, the answer is theirs. -/
theorem aboutRole_ok {α : Type} {role : AppRole} (h : r.lookup cluster.spec.app = some app)
    (hrole : app.firstRole? id = some role) (answer : App → AppRole → Except CatalogError α) :
    r.aboutRole cluster id answer = answer app role := by
  have hknown : app.role id = .ok role := by
    rw [App.role_eq, hrole]
    rfl
  unfold aboutRole
  rw [app_ok h]
  show (app.role id >>= fun role => answer app role) = _
  rw [hknown]
  rfl

end

/-- What a catalog answers about a role, given the app and what the app says about the role. -/
structure Described (catalog : Catalog) (cluster : Cluster) (id : String) (app : App)
    (role : AppRole) : Prop where
  persistDirs : catalog (.persistDirs id) cluster = .ok role.persistDirs
  setupPackage : catalog (.setupPackage id) cluster = .ok role.setupPackage
  containerSpec : catalog (.containerSpec id) cluster = .ok role.containerSpec
  /-- the services that have a port and that the role offers, as they are declared -/
  ports : ∃ ports, catalog (.ports id) cluster = .ok ports ∧
    ports.map (fun p => (p.id, some p.port)) =
      (app.services.filter fun s => s.port.isSome ∧ s.id ∈ role.services).map
        fun s => (s.id, s.port)
  /-- the role's own image, or else the app's, if it has a name -/
  image : ∀ image, catalog (.image id) cluster = .ok image ↔ image ≠ "" ∧
    (role.image = some image ∨ role.image.getD "" = "" ∧ app.defaultImage = some image)
  /-- the only answer that may be missing -/
  imageless : ∀ f, catalog (.image id) cluster = .error f ↔
    f = .catalog (.noImage id app.name) ∧
      role.image.getD "" = "" ∧ app.defaultImage.getD "" = ""

theorem described {r : Registry} {cluster : Cluster} {app : App} {id : String} {role : AppRole}
    (h : r.lookup cluster.spec.app = some app) (hrole : app.firstRole? id = some role) :
    Described r.catalog cluster id app role := by
  have hasked {α : Type} (answer : App → AppRole → Except CatalogError α) :
      (r.aboutRole cluster id answer).mapError Fault.catalog =
        (answer app role).mapError Fault.catalog :=
    congrArg _ (aboutRole_ok h hrole answer)
  have himage : r.catalog (.image id) cluster = (app.image role).mapError .catalog :=
    hasked App.image
  refine ⟨hasked _, hasked _, hasked _, ⟨_, hasked _, app.ports_eq role⟩, ?_, ?_⟩
  · intro image
    rw [himage, ← App.image_eq_ok]
    cases app.image role <;> simp [Except.mapError]
  · intro f
    rw [himage, ← App.id_of_firstRole? hrole]
    constructor
    · intro hf
      cases hfound : app.image role with
      | ok image => simp [hfound, Except.mapError] at hf
      | error e =>
        rw [hfound] at hf
        cases hf
        obtain ⟨he, hnone⟩ := App.image_eq_error.mp hfound
        exact ⟨congrArg Fault.catalog he, hnone⟩
    · intro hf
      rw [hf.1, App.image_eq_error.mpr ⟨rfl, hf.2⟩]
      rfl

/-- **One app and one role.** Whatever apps were registered, all lookups are about the last one that
has the name of the cluster's app and about its first role with the id. Without the app all of them
are refused alike, and without the role those about it are; otherwise only the image can be missing.
Apps of other names make no difference, wherever they were registered. -/
theorem catalog_resolved (apps : List App) (cluster : Cluster) (id : String) :
    (match lastNamed? apps cluster.spec.app with
      | none => ∀ question, (ofApps apps).catalog question cluster =
          .error (.catalog (.unknownApp cluster.spec.app cluster.title))
      | some app =>
        (ofApps apps).catalog .capabilities cluster = .ok app.capabilities ∧
        (ofApps apps).catalog .systemdRequired cluster = .ok app.systemdRequired ∧
        match app.firstRole? id with
        | none => ∀ question, question.role? = some id →
            (ofApps apps).catalog question cluster = .error (.catalog (.unknownRole id app.name))
        | some role => Described (ofApps apps).catalog cluster id app role) ∧
    ∀ before others after, (∀ other ∈ others, other.name ≠ cluster.spec.app) →
      ∀ question, (ofApps (before ++ others ++ after)).catalog question cluster =
        (ofApps (before ++ after)).catalog question cluster := by
  constructor
  · have hlookup := lookup_ofApps apps cluster.spec.app
    cases happ : lastNamed? apps cluster.spec.app with
    | none => exact catalog_unknownApp (hlookup.trans happ)
    | some app =>
      rw [happ] at hlookup
      have hanswer {α : Type} (answer : App → α) :
          ((ofApps apps).app cluster).map answer = .ok (answer app) := by
        rw [app_ok hlookup]
        rfl
      have hcapabilities := congrArg (Except.mapError Fault.catalog) (hanswer (·.capabilities))
      have hsystemd := congrArg (Except.mapError Fault.catalog) (hanswer (·.systemdRequired))
      refine ⟨hcapabilities, hsystemd, ?_⟩
      cases hrole : app.firstRole? id with
      | none => exact fun question hquestion => catalog_unknownRole hlookup hrole hquestion
      | some role => exact described hlookup hrole
  · intro before others after hothers
    refine catalog_congr ?_
    rw [lookup_ofApps, lookup_ofApps, lastNamed?_insert hothers]

theorem catalog_resolved_replaced :
    let cluster : Cluster := { name := "c", ns := "n", uid := "u", spec := { app := "db" } }
    let role : AppRole := { id := "r", services := ["ssh", "ssh"] }
    let old : App := { name := "db", systemdRequired := true }
    let new : App :=
      { name := "db", defaultImage := some "db:2",
        services := [⟨"ssh", some 22⟩, ⟨"ssh", some 23⟩],
        roles := [role, { id := "r", image := some "" }] }
    let web : App := { name := "web" }
    let catalog := (ofApps [old, web, new]).catalog
    Described catalog cluster "r" new role ∧
      (Lookup.role? (.image "s") = some "s" ∧
        catalog (.image "s") cluster = .error (.catalog (.unknownRole "s" "db"))) ∧
      (∀ other ∈ [web], other.name ≠ cluster.spec.app) ∧
      ∀ question, catalog question cluster = (ofApps [old, new]).catalog question cluster := by
  intro cluster role old new web catalog
  have hweb : ∀ other ∈ [web], other.name ≠ cluster.spec.app := by decide +kernel
  have hr := (catalog_resolved [old, web, new] cluster "r").1.2.2
  have hs := (catalog_resolved [old, web, new] cluster "s").1.2.2 (.image "s") rfl
  exact ⟨hr, ⟨rfl, hs⟩, hweb, (catalog_resolved [] cluster "r").2 [old] [web] [new] hweb⟩

end Registry
end StatefulRoles
