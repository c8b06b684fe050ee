import Mathlib.Data.List.Forall2
import StatefulRoles.Proofs.Directory.Resolution
/-!
# What becomes of each entry

`resolve` walks the platform's entries and then the app's. Here each of them gets its verdict from
a rule that does not search: an entry is kept if nothing in either list lies above it and nothing
before it names the same directory, and an entry left out names the first one that covers it, of
its own list if there is one, else of the other.

Results:
* `firstCover_eq_some`: what a search finds is the first entry that covers the directory.
* `judge_cases`: an entry is kept, or its record names the entry to blame.
* `verdicts_judged`: each verdict is the one that the rule asks for.
* `length_resolve`: an entry is either kept or on record.
* `resolve_entrywise`: the walk gives each entry one verdict, and the directories kept, the records
  and the log lines are these verdicts in order.
-/
namespace StatefulRoles.Directory

/-! ## The first entry that covers another -/

/-- An entry at a position of a list covers another entry: it lies above it, or it names the same
directory at a position where that counts. -/
def Covering (equalCounts : Nat → Bool) (entry e : String) (i : Nat) : Prop :=
  Above (absolute e) (absolute entry) ∨ absolute e = absolute entry ∧ equalCounts i = true

/-- An entry is the first one of a list that satisfies a condition on entries and positions. -/
def IsFirst (holds : String → Nat → Prop) (entries : List String) (c : String) : Prop :=
  ∃ i, entries[i]? = some c ∧ holds c i ∧ ∀ j < i, ∀ e, entries[j]? = some e → ¬holds e j

theorem find?_zipIdx_eq_some {p : String × Nat → Bool} {entries : List String} {c : String} :
    (entries.zipIdx.find? p).map (·.1) = some c ↔ IsFirst (fun e i => p (e, i) = true) entries c := by
  constructor
  · intro h
    obtain ⟨⟨e, i⟩, hfind, rfl⟩ := Option.map_eq_some_iff.mp h
    obtain ⟨hp, k, hk, hget, hbefore⟩ := List.find?_eq_some_iff_getElem.mp hfind
    rw [List.getElem_zipIdx, Prod.mk.injEq, Nat.zero_add] at hget
    obtain ⟨rfl, rfl⟩ := hget
    rw [List.length_zipIdx] at hk
    refine ⟨k, List.getElem?_eq_getElem hk, hp, fun j hj e he => ?_⟩
    obtain ⟨hlt, rfl⟩ := List.getElem?_eq_some_iff.mp he
    simpa using hbefore j hj
  · rintro ⟨i, hget, hp, hbefore⟩
    obtain ⟨hlt, rfl⟩ := List.getElem?_eq_some_iff.mp hget
    refine Option.map_eq_some_iff.mpr ⟨(entries[i], i), ?_, rfl⟩
    refine List.find?_eq_some_iff_getElem.mpr ⟨hp, i, by simpa using hlt, by simp, fun j hj => ?_⟩
    have hj' := hbefore j hj _ (List.getElem?_eq_getElem (Nat.lt_trans hj hlt))
    simpa using hj'

theorem firstCover_eq_some (equalCounts : Nat → Bool) (entries : List String) (entry c : String) :
    firstCover equalCounts entries (absolute entry) = some c ↔
      IsFirst (Covering equalCounts entry) entries c := by
  rw [firstCover, find?_zipIdx_eq_some]
  refine iff_of_eq (congrArg (IsFirst · entries c) ?_)
  funext e i
  simp only [cover?_absolute, Covering]
  by_cases heq : absolute e = absolute entry
  · simp [heq, Above]
  · by_cases hab : Above (absolute e) (absolute entry) <;> simp [heq, hab]

theorem firstCover_none {equalCounts : Nat → Bool} {entries : List String} {entry : String}
    (h : firstCover equalCounts entries (absolute entry) = none) :
    ∀ i e, entries[i]? = some e → ¬Covering equalCounts entry e i := by
  intro i e hget hcovers
  obtain ⟨habove, hequal⟩ := (firstCover_eq_none _ _ _).mp h e i hget
  rcases hcovers with hab | ⟨heq, hcounts⟩
  · exact habove hab
  · rw [hequal heq] at hcounts
    cases hcounts

/-! ## Verdicts -/

/-- The entry that a record names: the first one that covers the entry in its own list, where the
same directory counts at earlier positions, or, only if that list has none, the first one in the
other list, where it counts if ties are lost. -/
inductive Blamed (own other : List String) (tiesLost : Bool) (entry : String) (index : Nat) :
    String → Prop where
  | own {c : String} (first : IsFirst (Covering (· < index) entry) own c) :
      Blamed own other tiesLost entry index c
  | other {c : String} (none : ∀ i e, own[i]? = some e → ¬Covering (· < index) entry e i)
      (first : IsFirst (Covering (fun _ => tiesLost) entry) other c) :
      Blamed own other tiesLost entry index c

/-- A verdict that keeps an entry under a condition puts the blame on an entry without it. -/
theorem judge_cases {own other : List String} {tiesLost : Bool} {source entry : String}
    {index : Nat} {kept : Prop} [Decidable kept]
    (h : (judge own other tiesLost source entry index).dir? =
      if kept then some (absolute entry) else none) :
    kept ∧ judge own other tiesLost source entry index = .kept (absolute entry) ∨
      ¬kept ∧ ∃ c, Blamed own other tiesLost entry index c ∧
        judge own other tiesLost source entry index = .skipped ⟨entry, c, source⟩ := by
  simp only [judge] at h ⊢
  cases hown : firstCover (· < index) own (absolute entry) with
  | some c =>
    have hblamed : Blamed own other tiesLost entry index c :=
      .own ((firstCover_eq_some _ _ _ _).mp hown)
    refine .inr ⟨fun hkept => ?_, c, hblamed, by simp⟩
    simp [hown, hkept, Verdict.dir?] at h
  | none =>
    cases hother : firstCover (fun _ => tiesLost) other (absolute entry) with
    | some c =>
      have hblamed : Blamed own other tiesLost entry index c :=
        .other (firstCover_none hown) ((firstCover_eq_some _ _ _ _).mp hother)
      refine .inr ⟨fun hkept => ?_, c, hblamed, by simp⟩
      simp [hown, hother, hkept, Verdict.dir?] at h
    | none =>
      refine .inl ⟨?_, by simp⟩
      simpa [hown, hother, Verdict.dir?] using h

/-- The verdict on the entry at a position of both lists, the platform's before the app's. An entry
left out is on record with its text, with the entry to blame, and with its list; what is kept is
its directory. -/
inductive Judged (platform app : List String) (source entry : String) (index : Nat) :
    Verdict → Prop where
  | kept (h : Kept (platform ++ app) entry index) :
      Judged platform app source entry index (.kept (absolute entry))
  | platform {c : String} (h : ¬Kept (platform ++ app) entry index) (own : index < platform.length)
      (blamed : Blamed platform app false entry index c) :
      Judged platform app source entry index (.skipped ⟨entry, c, "default"⟩)
  | app {c : String} (h : ¬Kept (platform ++ app) entry index) (own : platform.length ≤ index)
      (blamed : Blamed app platform true entry (index - platform.length) c) :
      Judged platform app source entry index (.skipped ⟨entry, c, source⟩)

theorem judged_platform {platform : List String} (app : List String) (source entry : String)
    {index : Nat} (h : index < platform.length) :
    Judged platform app source entry index (judge platform app false "default" entry index) := by
  rcases judge_cases (judge_platform app "default" entry (Nat.le_of_lt h)) with
    ⟨hkept, hj⟩ | ⟨hdrop, c, hblamed, hj⟩
  · rw [hj]
    exact .kept hkept
  · rw [hj]
    exact .platform hdrop h hblamed

theorem judged_app (platform app : List String) (source entry : String) (index : Nat) :
    Judged platform app source entry (platform.length + index)
      (judge app platform true source entry index) := by
  rcases judge_cases (judge_app platform app source entry index) with
    ⟨hkept, hj⟩ | ⟨hdrop, c, hblamed, hj⟩
  · rw [hj]
    exact .kept hkept
  · rw [hj]
    refine .app hdrop (Nat.le_add_right _ _) ?_
    rwa [Nat.add_sub_cancel_left]

/-- The walk over both lists gives each entry the verdict that the rule asks for. -/
theorem verdicts_judged (platform app : List String) (source : String) :
    List.Forall₂ (fun entry verdict => Judged platform app source entry.1 entry.2 verdict)
      (platform ++ app).zipIdx (verdicts platform app source) := by
  rw [verdicts, judgeAll, judgeAll, List.zipIdx_append]
  refine List.rel_append ?_ ?_
  · refine List.forall₂_map_right_iff.mpr (List.forall₂_same.mpr fun x hx => ?_)
    have hlt := (List.getElem?_eq_some_iff.mp (List.mk_mem_zipIdx_iff_getElem?.mp hx)).1
    exact judged_platform app source x.1 hlt
  · rw [Nat.zero_add, List.zipIdx_eq_map_add (i := platform.length)]
    refine List.forall₂_map_right_iff.mpr (List.forall₂_map_left_iff.mpr ?_)
    exact List.forall₂_same.mpr fun x _ => judged_app platform app source x.1 x.2

theorem length_dirs_add_records (vs : List Verdict) :
    (vs.filterMap Verdict.dir?).length + (vs.filterMap Verdict.record?).length = vs.length := by
  induction vs with
  | nil => rfl
  | cons v vs ih =>
    cases v with
    | kept dir =>
      simp only [List.filterMap_cons, Verdict.dir?, Verdict.record?, List.length_cons]
      omega
    | skipped record =>
      simp only [List.filterMap_cons, Verdict.dir?, Verdict.record?, List.length_cons]
      omega

/-- No entry is lost and none counts twice. -/
theorem length_resolve (platform : List String) (app : Option (List String)) (source : String) :
    (resolve platform app source).dirs.length + (resolve platform app source).skipped.length =
      (requested platform app).length := by
  have hlength := (verdicts_judged platform (app.getD []) source).length_eq
  rw [List.length_zipIdx] at hlength
  rw [resolve_dirs, resolve_skipped, length_dirs_add_records, requested, hlength]

/-- **The walk, entry by entry.** Each entry of the platform's list and then of the app's gets one
verdict by the rule; the directories kept and the records of the entries left out are these
verdicts, in the same order, and each record is logged in one line. -/
theorem resolve_entrywise (platform : List String) (app : Option (List String))
    (source : String) :
    let r := resolve platform app source
    ∃ verdicts : List Verdict,
      List.Forall₂
        (fun entry verdict => Judged platform (app.getD []) source entry.1 entry.2 verdict)
        (requested platform app).zipIdx verdicts ∧
      r.dirs = verdicts.filterMap Verdict.dir? ∧
      r.skipped = verdicts.filterMap Verdict.record? ∧
      r.logs = r.skipped.map fun s =>
        ⟨.info, s!"[PERSIST] Skipping {s.path} from {s.source} persistDirs; dir {s.coveredBy} covers it"⟩ :=
  ⟨verdicts platform (app.getD []) source, verdicts_judged _ _ _, resolve_dirs _ _ _,
    resolve_skipped _ _ _, resolve_logs _ _ _⟩

-- the nearer directory is in the other list, but an entry's own list comes first
example : (resolve ["/var/log/x", "/var"] (some ["/var/log", "var/"]) "db").skipped =
    [⟨"/var/log/x", "/var", "default"⟩, ⟨"/var/log", "var/", "db"⟩, ⟨"var/", "/var", "db"⟩] := by
  decide +kernel

end StatefulRoles.Directory
