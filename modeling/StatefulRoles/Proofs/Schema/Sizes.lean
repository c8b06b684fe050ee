import StatefulRoles.Cluster
import StatefulRoles.Proofs.Quantity.Escapes
import StatefulRoles.Proofs.Schema.Tracks
/-!
# Sizes of volumes

A volume's size is checked when it is read, alone or inside a role or a cluster. The check reads it
as a quantity and reports a text that is none; a text whose arithmetic traps is not reported, and
ends the whole reading instead.

Results:
* `Storage.tracks` to `Cluster.tracks`: each class judges the sizes that it holds, wherever they
  are, and nothing else in it traps.
* `Storage.keeps` to `Cluster.keeps`: a size that was accepted is kept as it was given.
* `Sized.read_judged`: so what comes of a document is known from its sizes, each on its own.
-/
namespace StatefulRoles

open Schema Checked

/-! ## Values that have no size -/

namespace Schema

variable {α : Type} {s : Schema α}

theorem trap?_sequence {xs : List (Checked α)} (h : ∀ x ∈ xs, x.trap? = none) :
    (Checked.sequence xs).trap? = none := by
  induction xs with
  | nil => rfl
  | cons x xs ih =>
    obtain ⟨hx, hxs⟩ := List.forall_mem_cons.mp h
    have hcons : Checked.sequence (x :: xs) = List.cons <$> x <*> Checked.sequence xs := rfl
    rw [hcons, trap?_seq, trap?_map, hx, ih hxs]
    rfl

theorem text_trapless : text.Trapless := fun x => by cases x <;> rfl

theorem integer_trapless : integer.Trapless := fun x => by
  cases x with
  | real x =>
    simp only [integer]
    split <;> rfl
  | str s =>
    simp only [integer]
    split <;> rfl
  | _ => rfl

theorem booleanOfInt_trap? (n : Int) : (booleanOfInt n).trap? = none := by
  unfold booleanOfInt
  repeat' split
  all_goals rfl

theorem boolean_trapless : boolean.Trapless := fun x => by
  cases x with
  | int n => exact booleanOfInt_trap? n
  | real x =>
    simp only [boolean]
    split
    · exact booleanOfInt_trap? _
    · rfl
  | str s =>
    simp only [boolean]
    split <;> rfl
  | _ => rfl

theorem anything_trapless : anything.Trapless := fun _ => rfl

theorem listed_trapless (table : List (String × α)) (name : α → String) :
    (listed table name).Trapless := fun x => by
  cases x with
  | str s =>
    simp only [listed]
    split <;> rfl
  | _ => rfl

theorem Trapless.option (h : s.Trapless) : (Schema.option s).Trapless := fun x => by
  cases x with
  | null => rfl
  | _ => exact (trap?_map some _).trans (h _)

theorem Trapless.list (h : s.Trapless) : (Schema.list s).Trapless := fun x => by
  cases x with
  | arr items =>
    refine trap?_sequence (List.forall_mem_map.mpr fun item _ => ?_)
    rw [trap?_within, h]
  | _ => rfl

theorem Trapless.map (h : s.Trapless) : (Schema.map s).Trapless := fun x => by
  cases x with
  | obj members =>
    refine trap?_sequence (List.forall_mem_map.mpr fun member _ => ?_)
    exact (trap?_map _ _).trans ((trap?_within _ _).trans (h _))
  | _ => rfl

section

variable {o : Members} {name : String}

theorem Trapless.required (h : s.Trapless) : (o.required name s).trap? = none := by
  unfold Members.required
  split
  · rw [trap?_within, h]
  · rfl

theorem Trapless.defaulted (h : s.Trapless) (d : α) : (o.defaulted name s d).trap? = none := by
  unfold Members.defaulted
  split
  · rw [trap?_within, h]
  · rfl

theorem Trapless.object {read : Members → Checked α} (hread : s.read = Schema.object read)
    (h : ∀ o, (read o).trap? = none) : s.Trapless := fun x => by
  rw [hread]
  cases x with
  | obj o => exact h o
  | _ => rfl

/-- A member that has no size. -/
theorem Trapless.reads_required (name : String) (h : s.Trapless) :
    Reads [name] (fun _ => []) fun o => o.required name s := by
  have hreads := Reads.required name h.tracks
  rwa [inMember_nil] at hreads

theorem Trapless.reads_defaulted (name : String) (h : s.Trapless) (d : α) :
    Reads [name] (fun _ => []) fun o => o.defaulted name s d := by
  have hreads := Reads.defaulted name h.tracks d
  rwa [inMember_nil] at hreads

end

end Schema

theorem Resources.trapless : Resources.schema.Trapless := by
  refine Trapless.object rfl fun o => ?_
  simp only [trap?_seq, trap?_map, text_trapless.map.defaulted, Option.or_none]

theorem Secret.trapless : Secret.schema.Trapless := by
  refine Trapless.object rfl fun o => ?_
  simp only [trap?_seq, trap?_map, text_trapless.required, boolean_trapless.defaulted,
    integer_trapless.option.defaulted, Option.or_none]

theorem Projection.trapless : Projection.schema.Trapless := by
  refine Trapless.object rfl fun o => ?_
  simp only [trap?_seq, trap?_map, text_trapless.required, boolean_trapless.defaulted,
    Option.or_none]

theorem EnvVar.trapless : EnvVar.schema.Trapless := by
  refine Trapless.object rfl fun o => ?_
  simp only [trap?_seq, trap?_map, text_trapless.required, text_trapless.defaulted, Option.or_none]

theorem RoleStatus.trapless : RoleStatus.schema.Trapless := by
  refine Trapless.object rfl fun o => ?_
  have hname : ((o.defaulted "stateful_set" text "").map some).trap? = none :=
    (trap?_map some _).trans (text_trapless.defaulted "")
  simp only [trap?_seq, trap?_map, text_trapless.required, hname, Option.or_none]

theorem ClusterStatus.trapless : ClusterStatus.schema.Trapless := by
  refine Trapless.object rfl fun o => ?_
  simp only [trap?_seq, trap?_map, text_trapless.defaulted, RoleStatus.trapless.list.defaulted,
    Option.or_none]

theorem BlockStorage.trapless_deviceCount : BlockStorage.deviceCount.Trapless := fun x => by
  have hinteger := integer_trapless x
  show ((integer.read x).bind _).trap? = none
  cases hx : integer.read x with
  | ok n =>
    simp only [Checked.bind]
    split <;> rfl
  | issues is => rfl
  | trap t =>
    rw [hx] at hinteger
    cases hinteger

/-! ## Where sizes are -/

def Storage.sizes : Sizes := (Sizes.itself false).inMember "size"

def BlockStorage.sizes : Sizes := (Sizes.itself true).inMember "size"

def Role.sizes : Sizes := fun x =>
  Storage.sizes.orNull.inMember "storage" x ++ BlockStorage.sizes.orNull.inMember "block_storage" x

def ClusterSpec.sizes : Sizes := Role.sizes.inItems.inMember "roles"

def Cluster.sizes : Sizes := ClusterSpec.sizes.inMember "spec"

theorem Schema.inMember_deep {sizes : Sizes} {name : String} {x : Json} :
    ∀ g ∈ sizes.inMember name x, g.place ≠ [] := by
  unfold Sizes.inMember
  split
  · exact List.forall_mem_map.mpr fun g _ => List.cons_ne_nil _ _
  · exact nofun

theorem Storage.tracks : Tracks Storage.schema Storage.sizes :=
  object_tracks rfl <|
    ((Reads.required "size" quantity_tracks).map Storage.mk).plain
      (text_trapless.option.reads_defaulted "storage_class" none) (by decide)

theorem BlockStorage.tracks : Tracks BlockStorage.schema BlockStorage.sizes :=
  object_tracks rfl <|
    (((trapless_deviceCount.reads_defaulted "num_devices" 1).map BlockStorage.mk).seq
      (Reads.defaulted "size" optionalQuantity_tracks none) (by decide)).plain
      (text_trapless.option.reads_defaulted "storage_class" none) (by decide) |>.plain
      (text_trapless.reads_defaulted "path" "/dev/xvdb") (by decide)

theorem Role.tracks : Tracks Role.schema Role.sizes := by
  have hid := (text_trapless.reads_required "id").map Role.mk
  have hmembers := integer_trapless.reads_defaulted "members" 1
  have hresources := Resources.trapless.reads_defaulted "resources" {}
  have hstorage :=
    Reads.defaulted "storage" (option_tracks Storage.tracks fun _ => inMember_deep) none
  have hblock :=
    Reads.defaulted "block_storage" (option_tracks BlockStorage.tracks fun _ => inMember_deep) none
  have haccount := text_trapless.reads_defaulted "service_account_name" ""
  have hsecret := Secret.trapless.option.reads_defaulted "secret" none
  have hprojections := Projection.trapless.list.reads_defaulted "volume_projections" []
  have haffinity := anything_trapless.map.option.reads_defaulted "affinity" none
  have henvVars := EnvVar.trapless.list.reads_defaulted "env_vars" []
  have hfront := (hid.plain hmembers (by decide)).plain hresources (by decide)
  have hsizes := (hfront.seq hstorage (by decide)).seq hblock (by decide)
  have hmounts := ((hsizes.plain haccount (by decide)).plain hsecret (by decide)).plain
    hprojections (by decide)
  exact object_tracks rfl ((hmounts.plain haffinity (by decide)).plain henvVars (by decide))

theorem ClusterSpec.tracks : Tracks ClusterSpec.schema ClusterSpec.sizes := by
  have happ := (text_trapless.reads_required "app").map ClusterSpec.mk
  have hcatalog := text_trapless.reads_defaulted "app_catalog" "local"
  have hnaming := (listed_trapless NamingScheme.table NamingScheme.name).reads_defaulted
    "naming_scheme" .fixedBeginning
  have hroles := Reads.defaulted "roles" (list_tracks Role.tracks) []
  have hfront := (happ.plain hcatalog (by decide)).plain hnaming (by decide)
  exact object_tracks rfl (hfront.seq hroles (by decide))

theorem Cluster.tracks : Tracks Cluster.schema Cluster.sizes := by
  have hversion :=
    (text_trapless.reads_defaulted "api_version" "vcluster.io/v1beta1").map Cluster.mk
  have hkind := text_trapless.reads_defaulted "kind" "VirtualCluster"
  have hname := text_trapless.reads_required "name"
  have hns := text_trapless.reads_required "namespace"
  have huid := text_trapless.reads_required "uid"
  have hspec := Reads.required "spec" ClusterSpec.tracks
  have hstatus := ClusterStatus.trapless.reads_defaulted "status" {}
  have hfront := ((hversion.plain hkind (by decide)).plain hname (by decide)).plain hns (by decide)
  have hsizes := (hfront.plain huid (by decide)).seq hspec (by decide)
  exact object_tracks rfl (hsizes.plain hstatus (by decide))

/-! ## Sizes are kept -/

theorem Storage.keeps : Keeps Storage.schema Storage.sizes := by
  refine object_keeps rfl fun o m h => ?_
  rw [seq_eq_ok, exists_map_eq_ok] at h
  obtain ⟨size, hsize, storageClass, -, rfl⟩ := h
  exact keeps_required quantity_keeps hsize rfl

theorem BlockStorage.keeps : Keeps BlockStorage.schema BlockStorage.sizes := by
  refine object_keeps rfl fun o m h => ?_
  rw [seq_eq_ok] at h
  simp only [exists_seq_eq_ok, exists_map_eq_ok] at h
  obtain ⟨count, -, size, hsize, storageClass, -, path, -, rfl⟩ := h
  exact keeps_defaulted optionalQuantity_keeps hsize rfl

theorem Role.keeps : Keeps Role.schema Role.sizes := by
  refine object_keeps rfl fun o m h => ?_
  rw [seq_eq_ok] at h
  simp only [exists_seq_eq_ok, exists_map_eq_ok] at h
  obtain ⟨id, -, members, -, resources, -, storage, hstorage, block, hblock, account, -, secret, -,
    projections, -, affinity, -, envVars, -, rfl⟩ := h
  refine List.forall_mem_append.mpr ⟨?_, ?_⟩
  · exact keeps_defaulted (option_keeps Storage.keeps) hstorage rfl
  · exact keeps_defaulted (option_keeps BlockStorage.keeps) hblock rfl

theorem ClusterSpec.keeps : Keeps ClusterSpec.schema ClusterSpec.sizes := by
  refine object_keeps rfl fun o m h => ?_
  rw [seq_eq_ok] at h
  simp only [exists_seq_eq_ok, exists_map_eq_ok] at h
  obtain ⟨app, -, catalog, -, scheme, -, roles, hroles, rfl⟩ := h
  exact keeps_defaulted (list_keeps Role.keeps) hroles rfl

theorem Cluster.keeps : Keeps Cluster.schema Cluster.sizes := by
  refine object_keeps rfl fun o m h => ?_
  rw [seq_eq_ok] at h
  simp only [exists_seq_eq_ok, exists_map_eq_ok] at h
  obtain ⟨version, -, kind, -, name, -, ns, -, uid, -, spec, hspec, status, -, rfl⟩ := h
  exact keeps_required ClusterSpec.keeps hspec rfl

/-! ## Every size -/

theorem Verdict.ofText_eq_escaping {text : String} {t : Decimal.Trap} :
    Verdict.ofText text = .escaping t ↔ Quantity.Escapes text t := by
  rw [← Quantity.parse_eq_trap, Verdict.ofText]
  rcases Quantity.parse text with (_ | _ | t') | q <;> simp

/-- What escapes is a text whose arithmetic traps. -/
theorem Size.verdict_eq_escaping (g : Size) {t : Decimal.Trap} :
    g.verdict = .escaping t ↔ ∃ text, g.value = .str text ∧ Quantity.Escapes text t := by
  obtain ⟨place, value, nullable⟩ := g
  cases value with
  | str text =>
    show Verdict.ofText text = .escaping t ↔ _
    simp [Verdict.ofText_eq_escaping]
  | null => cases nullable <;> simp [verdict]
  | _ => simp [verdict]

/-- The classes of values that have sizes, each with where it has them. -/
inductive Sized : {α : Type} → Schema α → Sizes → Prop where
  | storage : Sized Storage.schema Storage.sizes
  | blockStorage : Sized BlockStorage.schema BlockStorage.sizes
  | role : Sized Role.schema Role.sizes
  | clusterSpec : Sized ClusterSpec.schema ClusterSpec.sizes
  | cluster : Sized Cluster.schema Cluster.sizes

namespace Sized

variable {α : Type} {s : Schema α} {sizes : Sizes}

theorem tracks (h : Sized s sizes) : Tracks s sizes := by
  cases h with
  | storage => exact Storage.tracks
  | blockStorage => exact BlockStorage.tracks
  | role => exact Role.tracks
  | clusterSpec => exact ClusterSpec.tracks
  | cluster => exact Cluster.tracks

theorem keeps (h : Sized s sizes) : Keeps s sizes := by
  cases h with
  | storage => exact Storage.keeps
  | blockStorage => exact BlockStorage.keeps
  | role => exact Role.keeps
  | clusterSpec => exact ClusterSpec.keeps
  | cluster => exact Cluster.keeps

/-- In a value that was read, every size was accepted. -/
theorem accepted (h : Sized s sizes) {x : Json} {a : α} (ha : s.read x = .ok a) :
    ∀ g ∈ sizes x, g.verdict = .accepted := by
  intro g hg
  have htraps := h.tracks.traps x
  have hcauses := h.tracks.causes x (by rw [ha]; rfl) g hg
  rw [ha] at htraps hcauses
  have htrap := List.findSome?_eq_none_iff.mp htraps.symm g hg
  cases hv : g.verdict with
  | accepted => rfl
  | rejected cause =>
    rw [hv] at hcauses
    cases hcauses
  | escaping t =>
    rw [hv] at htrap
    cases htrap

/-- **Sizes.** Whatever JSON value is read, a trap ends the reading exactly if the arithmetic of one
of its sizes traps, and it is that of the first one. Otherwise each size is judged on its own, at its
place: either the one issue there is its own, or there is none and it is kept as it is. In a valid
document, whatever is given as a size instead decides alone what comes of the whole. -/
theorem read_judged (h : Sized s sizes) (x : Json) :
    (∀ t, s.read x = .trap t ↔ (sizes x).findSome? (·.verdict.trap?) = some t) ∧
    (∀ g ∈ sizes x, ∀ t, g.verdict = .escaping t ↔
      ∃ text, g.value = .str text ∧ Quantity.Escapes text t) ∧
    (∀ is, s.read x = .issues is → ∀ g ∈ sizes x,
      (is.filter (·.place = g.place)).map (·.cause) = g.verdict.causes) ∧
    ∀ a, s.read x = .ok a → ∀ g ∈ sizes x,
      g.verdict = .accepted ∧ (s.write a).part? g.place = some g.value ∧
      ∀ value, match (g.withValue value).verdict with
        | .accepted => ∃ a', s.read (x.put g.place value) = .ok a' ∧
          (s.write a').part? g.place = some value
        | .rejected cause => s.read (x.put g.place value) = .issues [⟨g.place, cause⟩]
        | .escaping t => s.read (x.put g.place value) = .trap t := by
  refine ⟨fun t => ?_, fun g _ t => g.verdict_eq_escaping, fun is his g hg => ?_,
    fun a ha g hg => ⟨h.accepted ha g hg, h.keeps x a ha g hg, fun value => ?_⟩⟩
  · rw [← h.tracks.traps, trap?_eq_some]
  · have hcauses := h.tracks.causes x (by rw [his]; rfl) g hg
    rwa [his] at hcauses
  · obtain ⟨hmem, hdecides⟩ := h.tracks.put x a ha g hg value
    generalize hread : s.read (x.put g.place value) = y at hdecides ⊢
    generalize (g.withValue value).verdict = verdict at hdecides ⊢
    cases hdecides with
    | accepted a' => exact ⟨a', rfl, h.keeps _ a' hread _ hmem⟩
    | rejected cause => rfl
    | escaping t => rfl

/-- A valid role with a size of each kind. -/
def sizedRole : Json :=
  .obj [("id", .str "db"), ("storage", .obj [("size", .str "10Gi")]),
    ("block_storage", .obj [("size", .null)])]

theorem read_judged_sizedRole :
    Role.schema.read (sizedRole.put [.name "block_storage", .name "size"] (.str "sNaNk")) =
        .trap .invalidOperation ∧
      Role.schema.read (sizedRole.put [.name "storage", .name "size"] (.int 10)) =
        .issues [⟨[.name "storage", .name "size"], .notText⟩] := by
  have hread : Role.schema.read sizedRole = .ok
      { id := "db", storage := some { size := "10Gi" }, blockStorage := some {} } := by rfl
  obtain ⟨-, -, -, hvalid⟩ := read_judged .role sizedRole
  have hsizes : Role.sizes sizedRole = [⟨[.name "storage", .name "size"], .str "10Gi", false⟩,
      ⟨[.name "block_storage", .name "size"], .null, true⟩] := by rfl
  rw [hsizes] at hvalid
  have hstorage := hvalid _ hread _ List.mem_cons_self
  have hblock := hvalid _ hread _ (List.mem_cons_of_mem _ List.mem_cons_self)
  exact ⟨hblock.2.2 (.str "sNaNk"), hstorage.2.2 (.int 10)⟩

end Sized

/-- A size with a great exponent. -/
theorem Storage.read_overflow :
    Storage.schema.read (.obj [("size", .str "1e999999E")]) = .trap .overflow := by
  rfl

end StatefulRoles
