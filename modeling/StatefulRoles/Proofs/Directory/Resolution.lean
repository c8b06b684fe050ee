import Mathlib.Data.List.Basic
import StatefulRoles.Directory.Resolution
import StatefulRoles.Proofs.Directory.Components
/-!
# What is left of two lists of directories

`resolve` judges every entry by two searches, of its own list and of the other one, which treat a
repeated directory differently. Taken together they come to one rule over both lists, the
platform's entries before the app's: an entry is kept if none of them lies above it and none
before it names the same directory (`Kept`).

Results:
* `resolve_eq`: the walk over both lists adds the verdicts on their entries one after the other.
* `resolve_dirs_eq`: the directories kept are those of the entries that the rule keeps, in order.
* `mem_resolve_dirs`: a directory is kept exactly when it is asked for and nothing asked for lies
  above it; so what is kept does not depend on who is dropped first.
* `resolve_dirs_cover`: what is kept covers every entry once, and nothing in it covers anything
  else in it.
-/
namespace StatefulRoles.Directory

/-! ## The walk -/

def Verdict.dir? : Verdict → Option String
  | .kept dir => some dir
  | .skipped _ => none

def Verdict.record? : Verdict → Option Skipped
  | .kept _ => none
  | .skipped record => some record

/-- The verdicts on all entries of a list. -/
def judgeAll (own other : List String) (tiesLost : Bool) (source : String) : List Verdict :=
  own.zipIdx.map fun (entry, index) => judge own other tiesLost source entry index

/-- The verdicts on the platform's entries and then on the app's. -/
def verdicts (platform app : List String) (appSource : String) : List Verdict :=
  judgeAll platform app false "default" ++ judgeAll app platform true appSource

theorem walk_eq (own other : List String) (tiesLost : Bool) (source : String) (r : Resolution) :
    walk own other tiesLost source r =
      (judgeAll own other tiesLost source).foldl Resolution.add r := by
  rw [walk, judgeAll, List.foldl_map]

/-- The walk over both lists adds the verdicts on their entries one after the other. -/
theorem resolve_eq (platform : List String) (app : Option (List String)) (source : String) :
    resolve platform app source =
      (verdicts platform (app.getD []) source).foldl Resolution.add {} := by
  rw [resolve, walk_eq, walk_eq, verdicts, List.foldl_append]

section

variable (vs : List Verdict) (r : Resolution)

theorem dirs_foldl_add : (vs.foldl Resolution.add r).dirs = r.dirs ++ vs.filterMap Verdict.dir? := by
  induction vs generalizing r with
  | nil => simp
  | cons v vs ih => cases v <;> simp [ih, Resolution.add, Verdict.dir?, List.filterMap_cons]

theorem skipped_foldl_add :
    (vs.foldl Resolution.add r).skipped = r.skipped ++ vs.filterMap Verdict.record? := by
  induction vs generalizing r with
  | nil => simp
  | cons v vs ih => cases v <;> simp [ih, Resolution.add, Verdict.record?, List.filterMap_cons]

/-- Each entry that is left out is logged when it is. -/
theorem logs_foldl_add : (vs.foldl Resolution.add r).logs =
    r.logs ++ (vs.filterMap Verdict.record?).map Skipped.log := by
  induction vs generalizing r with
  | nil => simp
  | cons v vs ih => cases v <;> simp [ih, Resolution.add, Verdict.record?, List.filterMap_cons]

end

theorem resolve_dirs (platform : List String) (app : Option (List String)) (source : String) :
    (resolve platform app source).dirs =
      (verdicts platform (app.getD []) source).filterMap Verdict.dir? := by
  rw [resolve_eq, dirs_foldl_add]
  rfl

theorem resolve_skipped (platform : List String) (app : Option (List String)) (source : String) :
    (resolve platform app source).skipped =
      (verdicts platform (app.getD []) source).filterMap Verdict.record? := by
  rw [resolve_eq, skipped_foldl_add]
  rfl

theorem resolve_logs (platform : List String) (app : Option (List String)) (source : String) :
    (resolve platform app source).logs =
      (resolve platform app source).skipped.map Skipped.log := by
  rw [resolve_skipped, resolve_eq, logs_foldl_add]
  rfl

/-! ## One search -/

theorem firstCover_eq_none (equalCounts : Nat → Bool) (entries : List String) (entry : String) :
    firstCover equalCounts entries (absolute entry) = none ↔
      ∀ e i, entries[i]? = some e → ¬Above (absolute e) (absolute entry) ∧
        (absolute e = absolute entry → equalCounts i = false) := by
  simp only [firstCover, Option.map_eq_none_iff, List.find?_eq_none, Prod.forall,
    List.mk_mem_zipIdx_iff_getElem?, cover?_absolute]
  refine forall_congr' fun e => forall_congr' fun i => imp_congr_right fun _ => ?_
  by_cases heq : absolute e = absolute entry
  · simp [heq, Above]
  · by_cases hab : Above (absolute e) (absolute entry) <;> simp [heq, hab]

theorem mem_take_iff {entries : List String} {e : String} {n : Nat} :
    e ∈ entries.take n ↔ ∃ i, i < n ∧ entries[i]? = some e := by
  simp only [List.mem_iff_getElem?, List.getElem?_take]
  constructor
  · rintro ⟨i, hi⟩
    split at hi
    · exact ⟨i, ‹_›, hi⟩
    · cases hi
  · rintro ⟨i, hlt, hi⟩
    exact ⟨i, by rw [if_pos hlt, hi]⟩

/-- In its own list an entry is covered by what lies above it and by what repeats it from before. -/
theorem firstCover_own_eq_none (own : List String) (entry : String) (index : Nat) :
    firstCover (· < index) own (absolute entry) = none ↔
      (∀ e ∈ own, ¬Above (absolute e) (absolute entry)) ∧
        ∀ e ∈ own.take index, absolute e ≠ absolute entry := by
  rw [firstCover_eq_none]
  constructor
  · intro h
    refine ⟨fun e he => ?_, fun e he heq => ?_⟩
    · obtain ⟨i, hi⟩ := List.mem_iff_getElem?.mp he
      exact (h e i hi).1
    · obtain ⟨i, hlt, hi⟩ := mem_take_iff.mp he
      simpa [hlt] using (h e i hi).2 heq
  · rintro ⟨habove, hequal⟩ e i hi
    refine ⟨habove e (List.mem_of_getElem? hi), fun heq => decide_eq_false fun hlt => ?_⟩
    exact hequal e (mem_take_iff.mpr ⟨i, hlt, hi⟩) heq

/-- In the other list an entry is covered by what lies above it, and by what repeats it if ties are
lost. -/
theorem firstCover_other_eq_none (other : List String) (tiesLost : Bool) (entry : String) :
    firstCover (fun _ => tiesLost) other (absolute entry) = none ↔
      (∀ e ∈ other, ¬Above (absolute e) (absolute entry)) ∧
        (tiesLost = true → ∀ e ∈ other, absolute e ≠ absolute entry) := by
  rw [firstCover_eq_none]
  constructor
  · intro h
    refine ⟨fun e he => ?_, fun hties e he heq => ?_⟩
    · obtain ⟨i, hi⟩ := List.mem_iff_getElem?.mp he
      exact (h e i hi).1
    · obtain ⟨i, hi⟩ := List.mem_iff_getElem?.mp he
      rw [(h e i hi).2 heq] at hties
      cases hties
  · rintro ⟨habove, hequal⟩ e i hi
    have he := List.mem_of_getElem? hi
    exact ⟨habove e he, fun heq => Bool.eq_false_iff.mpr fun hties => hequal hties e he heq⟩

/-! ## The rule -/

/-- An entry at a position is kept: no entry lies above it, and none before it names the same
directory. -/
def Kept (entries : List String) (entry : String) (index : Nat) : Prop :=
  (∀ e ∈ entries, ¬Above (absolute e) (absolute entry)) ∧
    ∀ e ∈ entries.take index, absolute e ≠ absolute entry

instance (entries : List String) (entry : String) (index : Nat) :
    Decidable (Kept entries entry index) := inferInstanceAs (Decidable (_ ∧ _))

theorem judge_dir? (own other : List String) (tiesLost : Bool) (source entry : String)
    (index : Nat) : (judge own other tiesLost source entry index).dir? =
      if firstCover (· < index) own (absolute entry) = none ∧
          firstCover (fun _ => tiesLost) other (absolute entry) = none
      then some (absolute entry) else none := by
  simp only [judge]
  cases firstCover (· < index) own (absolute entry) with
  | some c => simp [Verdict.dir?]
  | none => cases firstCover (fun _ => tiesLost) other (absolute entry) <;> simp [Verdict.dir?]

/-- The platform's entries lose no ties to the app's, which come after them. -/
theorem judge_platform {platform : List String} (app : List String) (source entry : String)
    {index : Nat} (h : index ≤ platform.length) :
    (judge platform app false source entry index).dir? =
      if Kept (platform ++ app) entry index then some (absolute entry) else none := by
  rw [judge_dir?]
  refine if_congr ?_ rfl rfl
  rw [firstCover_own_eq_none, firstCover_other_eq_none, Kept, List.take_append_of_le_length h,
    List.forall_mem_append]
  constructor
  · rintro ⟨⟨hown, hbefore⟩, hother, -⟩
    exact ⟨⟨hown, hother⟩, hbefore⟩
  · rintro ⟨⟨hown, hother⟩, hbefore⟩
    exact ⟨⟨hown, hbefore⟩, hother, nofun⟩

/-- The app's entries lose ties to the platform's, which come before them. -/
theorem judge_app (platform app : List String) (source entry : String) (index : Nat) :
    (judge app platform true source entry index).dir? =
      if Kept (platform ++ app) entry (platform.length + index) then some (absolute entry)
      else none := by
  rw [judge_dir?]
  refine if_congr ?_ rfl rfl
  rw [firstCover_own_eq_none, firstCover_other_eq_none, Kept, List.take_length_add_append,
    List.forall_mem_append, List.forall_mem_append]
  constructor
  · rintro ⟨⟨hown, hbefore⟩, hother, hties⟩
    exact ⟨⟨hother, hown⟩, hties rfl, hbefore⟩
  · rintro ⟨⟨hother, hown⟩, hties, hbefore⟩
    exact ⟨⟨hown, hbefore⟩, hother, fun _ => hties⟩

/-- The entries of both lists in the order in which they are judged. -/
def requested (platform : List String) (app : Option (List String)) : List String :=
  platform ++ app.getD []

/-- What is kept of two lists: the directories of the entries that the rule keeps, in order. -/
theorem resolve_dirs_eq (platform : List String) (app : Option (List String)) (source : String) :
    (resolve platform app source).dirs =
      (requested platform app).zipIdx.filterMap fun (entry, index) =>
        if Kept (requested platform app) entry index then some (absolute entry) else none := by
  simp only [resolve_dirs, verdicts, judgeAll, requested, List.filterMap_append, List.filterMap_map,
    List.zipIdx_append]
  congr 1
  · refine List.filterMap_congr fun ⟨entry, index⟩ hmem => ?_
    have hlt := (List.getElem?_eq_some_iff.mp (List.mk_mem_zipIdx_iff_getElem?.mp hmem)).1
    exact judge_platform _ _ _ (Nat.le_of_lt hlt)
  · rw [Nat.zero_add, List.zipIdx_eq_map_add (i := platform.length), List.filterMap_map]
    refine List.filterMap_congr fun ⟨entry, index⟩ _ => ?_
    exact judge_app platform _ _ _ _

/-! ## What is kept -/

theorem zipIdx_pairwise_lt {α : Type} (l : List α) :
    l.zipIdx.Pairwise fun a b => l[a.2]? = some a.1 ∧ a.2 < b.2 := by
  have hlt : l.zipIdx.Pairwise fun a b => a.2 < b.2 :=
    List.pairwise_map.mp (by rw [List.zipIdx_map_snd]; exact List.pairwise_lt_range')
  refine (List.Pairwise.and_mem.mp hlt).imp fun {a b} h => ⟨?_, h.2.2⟩
  exact List.mk_mem_zipIdx_iff_getElem?.mp h.1

/-- No directory is kept twice. -/
theorem resolve_dirs_nodup (platform : List String) (app : Option (List String))
    (source : String) : (resolve platform app source).dirs.Nodup := by
  rw [resolve_dirs_eq, List.Nodup, List.pairwise_filterMap]
  refine (zipIdx_pairwise_lt _).imp ?_
  rintro ⟨e, i⟩ ⟨e', i'⟩ ⟨hget, hlt⟩ d hd d' hd'
  obtain ⟨-, hd⟩ := Option.ite_none_right_eq_some.mp hd
  obtain ⟨hkept, hd'⟩ := Option.ite_none_right_eq_some.mp hd'
  cases hd
  cases hd'
  exact hkept.2 e (mem_take_iff.mpr ⟨i, hlt, hget⟩)

/-- A directory is kept exactly when it is asked for and nothing that is asked for lies above it. -/
theorem mem_resolve_dirs {platform : List String} {app : Option (List String)} {source dir : String} :
    dir ∈ (resolve platform app source).dirs ↔
      (∃ e ∈ requested platform app, dir = absolute e) ∧
        ∀ e ∈ requested platform app, ¬Above (absolute e) dir := by
  rw [resolve_dirs_eq, List.mem_filterMap]
  constructor
  · rintro ⟨⟨e, i⟩, hmem, hd⟩
    obtain ⟨hkept, hdir⟩ := Option.ite_none_right_eq_some.mp hd
    cases hdir
    exact ⟨⟨e, List.mem_of_getElem? (List.mk_mem_zipIdx_iff_getElem?.mp hmem), rfl⟩, hkept.1⟩
  · rintro ⟨⟨e, he, rfl⟩, habove⟩
    -- of the entries for this directory, the first one is kept
    obtain ⟨first, hfirst⟩ := Option.isSome_iff_exists.mp
      (List.find?_isSome (p := fun x => absolute x = absolute e) |>.mpr ⟨e, he, by simp⟩)
    obtain ⟨hsame, before, after, hsplit, hbefore⟩ := List.find?_eq_some_iff_append.mp hfirst
    have hsame : absolute first = absolute e := by simpa using hsame
    refine ⟨(first, before.length), ?_, ?_⟩
    · rw [List.mk_mem_zipIdx_iff_getElem?, hsplit]
      simp
    · refine Option.ite_none_right_eq_some.mpr ⟨⟨?_, ?_⟩, by rw [hsame]⟩
      · rwa [hsame]
      · rw [hsplit, List.take_left, hsame]
        simpa using hbefore

/-- What an entry covers, something kept covers too. -/
theorem exists_kept_of_covers {platform : List String} {app : Option (List String)}
    (source : String) {e dir : String} (he : e ∈ requested platform app) (hc : Covers (absolute e) dir) :
    ∃ r ∈ (resolve platform app source).dirs, Covers r dir := by
  -- by going up: each entry above another one has fewer names
  induction hn : (names (absolute e)).length using Nat.strongRecOn generalizing e with
  | ind n ih =>
    by_cases h : ∃ x ∈ requested platform app, Above (absolute x) (absolute e)
    · obtain ⟨x, hx, hab⟩ := h
      exact ih _ (hn ▸ hab.length_lt) hx (hab.covers.trans hc) rfl
    · have hnone : ∀ x ∈ requested platform app, ¬Above (absolute x) (absolute e) :=
        fun x hx hab => h ⟨x, hx, hab⟩
      exact ⟨absolute e, mem_resolve_dirs.mpr ⟨⟨e, he, rfl⟩, hnone⟩, hc⟩

/-- Of two directories kept, neither covers the other unless they are one. -/
theorem eq_of_covers {platform : List String} {app : Option (List String)} {source a b : String}
    (ha : a ∈ (resolve platform app source).dirs) (hb : b ∈ (resolve platform app source).dirs)
    (hc : Covers a b) : a = b := by
  obtain ⟨⟨e, he, rfl⟩, -⟩ := mem_resolve_dirs.mp ha
  obtain ⟨⟨e', he', rfl⟩, hnone⟩ := mem_resolve_dirs.mp hb
  have hnames := Decidable.not_not.mp fun hne => hnone e he ⟨hc, hne⟩
  exact (absolute_eq_iff e e').mpr hnames

theorem resolve_dirs_pairwise (platform : List String) (app : Option (List String))
    (source : String) :
    (resolve platform app source).dirs.Pairwise fun a b => ¬Covers a b ∧ ¬Covers b a := by
  refine (List.Pairwise.and_mem.mp (resolve_dirs_nodup platform app source)).imp ?_
  rintro a b ⟨ha, hb, hne⟩
  exact ⟨fun h => hne (eq_of_covers ha hb h), fun h => hne (eq_of_covers hb ha h).symm⟩

/-- One that holds of a list's element and of no two elements at once holds exactly once. -/
theorem countP_eq_one {α : Type} {p : α → Bool} {l : List α} (hex : ∃ a ∈ l, p a = true)
    (hpair : l.Pairwise fun a b => ¬(p a = true ∧ p b = true)) : l.countP p = 1 := by
  induction l with
  | nil => simp at hex
  | cons x l ih =>
    obtain ⟨hx, hl⟩ := List.pairwise_cons.mp hpair
    by_cases hp : p x = true
    · have hzero : l.countP p = 0 := List.countP_eq_zero.mpr fun a ha hpa => hx a ha ⟨hp, hpa⟩
      rw [List.countP_cons_of_pos hp, hzero]
    · obtain ⟨a, ha, hpa⟩ := hex
      rcases List.mem_cons.mp ha with rfl | ha
      · exact absurd hpa hp
      · rw [List.countP_cons_of_neg hp, ih ⟨a, ha, hpa⟩ hl]

/-- Every entry of either list has exactly one directory kept that is it or lies above it. -/
theorem countP_covers {platform : List String} {app : Option (List String)} (source : String)
    {e : String} (he : e ∈ requested platform app) :
    (resolve platform app source).dirs.countP (Covers · (absolute e)) = 1 := by
  apply countP_eq_one
  · obtain ⟨r, hr, hc⟩ := exists_kept_of_covers source he (Covers.refl _)
    exact ⟨r, hr, decide_eq_true hc⟩
  · refine (resolve_dirs_pairwise platform app source).imp ?_
    rintro a b ⟨hab, hba⟩ ⟨ha, hb⟩
    -- what covers one path is ordered
    exact (Covers.total (of_decide_eq_true ha) (of_decide_eq_true hb)).elim hab hba

/-- **The minimal cover.** No directory kept is, or lies above, another one kept; every entry of
either list has exactly one directory kept that is it or lies above it; and every directory kept
was asked for. -/
theorem resolve_dirs_cover (platform : List String) (app : Option (List String))
    (source : String) :
    let dirs := (resolve platform app source).dirs
    (dirs.Pairwise fun a b => ¬Covers a b ∧ ¬Covers b a) ∧
      (∀ e ∈ requested platform app, dirs.countP (Covers · (absolute e)) = 1) ∧
      ∀ dir ∈ dirs, ∃ e ∈ requested platform app, dir = absolute e :=
  ⟨resolve_dirs_pairwise platform app source, fun _ he => countP_covers source he,
    fun _ hd => (mem_resolve_dirs.mp hd).1⟩

example : (resolve ["/var/log/x"] (some ["/var/log"]) "app").dirs = ["/var/log"] := by
  decide +kernel

end StatefulRoles.Directory
