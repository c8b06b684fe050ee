import StatefulRoles.Proofs.Directory.Verdicts
/-!
# Lists that ask for the same directories

Which directories are kept depends on the directories that the two lists name and on nothing else
about the lists: not on the order of the entries, on how often or in which spelling they stand
there, or on whose list they are in. What is kept is a list of its own accord, and to resolve it
again, alone or together with what it was made from, gives it back.

Results:
* `SameDirectories.perm`: lists that name the same directories keep the same ones.
* `resolve_dirs_absorb`: what is kept absorbs the entries that it was made from.
* `resolve_dirs_stable`: both, and that nothing is left out of what is kept.
-/
namespace StatefulRoles.Directory

variable {platform : List String} {app : Option (List String)} {source dir : String}

/-- Two lists of entries name the same directories. -/
def SameDirectories (entries entries' : List String) : Prop :=
  ∀ dir, dir ∈ entries.map absolute ↔ dir ∈ entries'.map absolute

instance (entries entries' : List String) : Decidable (SameDirectories entries entries') :=
  decidable_of_iff (entries.map absolute ⊆ entries'.map absolute ∧
      entries'.map absolute ⊆ entries.map absolute)
    ⟨fun h _ => ⟨fun hd => h.1 hd, fun hd => h.2 hd⟩,
      fun h => ⟨fun dir => (h dir).mp, fun dir => (h dir).mpr⟩⟩

theorem mem_resolve_dirs_map : dir ∈ (resolve platform app source).dirs ↔
    dir ∈ (requested platform app).map absolute ∧
      ∀ d ∈ (requested platform app).map absolute, ¬Above d dir := by
  rw [mem_resolve_dirs, List.mem_map, List.forall_mem_map]
  simp only [eq_comm]

theorem SameDirectories.perm {platform' : List String} {app' : Option (List String)}
    (h : SameDirectories (requested platform app) (requested platform' app'))
    (source source' : String) :
    (resolve platform app source).dirs.Perm (resolve platform' app' source').dirs := by
  rw [List.perm_ext_iff_of_nodup (resolve_dirs_nodup _ _ _) (resolve_dirs_nodup _ _ _)]
  intro dir
  rw [mem_resolve_dirs_map, mem_resolve_dirs_map, h dir]
  exact and_congr_right' (forall_congr' fun d => imp_congr_left (h d))

/-! ## Resolving what is kept -/

/-- What the rule makes of an entry at its position. -/
def keptDir? (entries : List String) (entry : String × Nat) : Option String :=
  if Kept entries entry.1 entry.2 then some (absolute entry.1) else none

theorem resolve_dirs_eq_keptDir? (platform : List String) (app : Option (List String))
    (source : String) : (resolve platform app source).dirs =
      (requested platform app).zipIdx.filterMap (keptDir? (requested platform app)) :=
  resolve_dirs_eq platform app source

/-- What is kept is absolute already. -/
theorem absolute_of_mem_dirs (h : dir ∈ (resolve platform app source).dirs) :
    absolute dir = dir := by
  obtain ⟨⟨e, -, rfl⟩, -⟩ := mem_resolve_dirs.mp h
  exact absolute_absolute e

/-- In front of entries that it was made from, each directory kept is kept again. -/
theorem kept_of_mem_dirs {extra : List String} (hextra : ∀ e ∈ extra, e ∈ requested platform app)
    {i : Nat} (h : (resolve platform app source).dirs[i]? = some dir) :
    Kept ((resolve platform app source).dirs ++ extra) dir i := by
  obtain ⟨hi, hget⟩ := List.getElem?_eq_some_iff.mp h
  have hdir := List.mem_of_getElem? h
  have hnone := (mem_resolve_dirs.mp hdir).2
  rw [Kept, absolute_of_mem_dirs hdir, List.take_append_of_le_length (Nat.le_of_lt hi)]
  refine ⟨fun e he => ?_, fun e he => ?_⟩
  · rcases List.mem_append.mp he with he | he
    · obtain ⟨⟨r, hr, hre⟩, -⟩ := mem_resolve_dirs.mp he
      rw [absolute_of_mem_dirs he, hre]
      exact hnone r hr
    · exact hnone e (hextra e he)
  · obtain ⟨j, hj, hejth⟩ := mem_take_iff.mp he
    obtain ⟨hlt, hgetj⟩ := List.getElem?_eq_some_iff.mp hejth
    rw [absolute_of_mem_dirs (List.mem_of_mem_take he), ← hgetj, ← hget]
    exact List.pairwise_iff_getElem.mp (resolve_dirs_nodup platform app source) j i hlt hi hj

/-- Behind what is kept, no entry that it was made from is kept once more. -/
theorem not_kept_of_requested {e : String} (h : e ∈ requested platform app) (extra : List String)
    (i : Nat) : ¬Kept ((resolve platform app source).dirs ++ extra) e
      ((resolve platform app source).dirs.length + i) := by
  obtain ⟨r, hr, hcovers⟩ := exists_kept_of_covers source h (Covers.refl (absolute e))
  rintro ⟨habove, hequal⟩
  by_cases hnames : names r = names (absolute e)
  · have hmem : r ∈ ((resolve platform app source).dirs ++ extra).take
        ((resolve platform app source).dirs.length + i) := by
      rw [List.take_length_add_append]
      exact List.mem_append_left _ hr
    apply hequal r hmem
    rw [absolute_eq_iff, absolute_of_mem_dirs hr, hnames]
  · apply habove r (List.mem_append_left _ hr)
    rw [absolute_of_mem_dirs hr]
    exact ⟨hcovers, hnames⟩

/-- What is kept absorbs the entries that it was made from. -/
theorem resolve_dirs_absorb {extra : List String}
    (hextra : ∀ e ∈ extra, e ∈ requested platform app) (source source' : String) :
    (resolve (resolve platform app source).dirs (some extra) source').dirs =
      (resolve platform app source).dirs := by
  have hfirst : (resolve platform app source).dirs.zipIdx.filterMap
      (keptDir? ((resolve platform app source).dirs ++ extra)) =
        (resolve platform app source).dirs := by
    conv => rhs; rw [← List.zipIdx_map_fst 0 (resolve platform app source).dirs]
    rw [← List.filterMap_eq_map]
    refine List.filterMap_congr fun x hx => ?_
    have hget := List.mk_mem_zipIdx_iff_getElem?.mp hx
    rw [keptDir?, if_pos (kept_of_mem_dirs hextra hget),
      absolute_of_mem_dirs (List.mem_of_getElem? hget)]
    rfl
  have hsecond (x : String × Nat) (hx : x ∈ extra.zipIdx) :
      keptDir? ((resolve platform app source).dirs ++ extra)
        (x.1, (resolve platform app source).dirs.length + x.2) = none := by
    have he := List.mem_of_getElem? (List.mk_mem_zipIdx_iff_getElem?.mp hx)
    exact if_neg (not_kept_of_requested (hextra x.1 he) extra x.2)
  rw [resolve_dirs_eq_keptDir?, requested, Option.getD_some, List.zipIdx_append,
    List.filterMap_append, hfirst, Nat.zero_add, List.zipIdx_eq_map_add, List.filterMap_map]
  exact List.append_right_eq_self.mpr (List.filterMap_eq_nil_iff.mpr hsecond)

/-- **Stability.** Lists that name the same directories keep the same ones, up to their order; what
is kept, resolved on its own, is kept as it is, and nothing is left out or logged; and resolved with
all the entries that it was made from, it is kept as it is. -/
theorem resolve_dirs_stable (platform : List String) (app : Option (List String))
    (source : String) :
    let dirs := (resolve platform app source).dirs
    (∀ (platform' : List String) (app' : Option (List String)) (source' : String),
      SameDirectories (requested platform app) (requested platform' app') →
        dirs.Perm (resolve platform' app' source').dirs) ∧
      (∀ source', resolve dirs none source' = ⟨dirs, [], []⟩) ∧
      ∀ source', (resolve dirs (some (platform ++ app.getD [])) source').dirs = dirs := by
  intro dirs
  refine ⟨fun platform' app' source' h => h.perm source source', fun source' => ?_,
    fun source' => resolve_dirs_absorb (fun _ he => he) source source'⟩
  have hempty : ∀ e ∈ ([] : List String), e ∈ requested platform app := by simp
  have hdirs : (resolve dirs none source').dirs = dirs := resolve_dirs_absorb hempty source source'
  have hlength := length_resolve dirs none source'
  have hentries : requested dirs none = dirs := List.append_nil dirs
  rw [hdirs, hentries] at hlength
  have hskipped : (resolve dirs none source').skipped = [] := by
    rw [← List.length_eq_zero_iff]
    omega
  have hlogs : (resolve dirs none source').logs = [] := by
    rw [resolve_logs, hskipped]
    rfl
  calc resolve dirs none source'
      = ⟨(resolve dirs none source').dirs, (resolve dirs none source').skipped,
          (resolve dirs none source').logs⟩ := rfl
    _ = ⟨dirs, [], []⟩ := by rw [hdirs, hskipped, hlogs]

theorem resolve_dirs_stable_respelled :
    SameDirectories (requested ["/var/log/", "etc"] (some ["/srv//data", "/var/log/x"]))
        (requested ["/srv/data/."] (some ["var/log/y/../x", "/etc", "//var/log", "/etc/"])) ∧
      ["/var/log", "/etc", "/srv/data"].Perm ["/srv/data", "/etc", "/var/log"] := by
  have hsame : SameDirectories (requested ["/var/log/", "etc"] (some ["/srv//data", "/var/log/x"]))
      (requested ["/srv/data/."] (some ["var/log/y/../x", "/etc", "//var/log", "/etc/"])) := by
    decide +kernel
  have hdirs : (resolve ["/var/log/", "etc"] (some ["/srv//data", "/var/log/x"]) "db").dirs =
      ["/var/log", "/etc", "/srv/data"] := by
    decide +kernel
  have hdirs' : (resolve ["/srv/data/."]
      (some ["var/log/y/../x", "/etc", "//var/log", "/etc/"]) "app").dirs =
      ["/srv/data", "/etc", "/var/log"] := by
    decide +kernel
  refine ⟨hsame, ?_⟩
  rw [← hdirs, ← hdirs']
  exact (resolve_dirs_stable _ _ "db").1 _ _ "app" hsame

end StatefulRoles.Directory
