import StatefulRoles.Directory
/-!
# Directories as lists of names

`absolute` and `cover?` work on characters. Here both are read through the names of a path, the
pieces between its slashes: a directory covers another when its names begin the other's.

Results:
* `names_absolute`: the names of an absolute path are the components that its spelling comes to;
  `absolute_eq_iff`: two spellings have one absolute path exactly when these agree.
* `absolute_absolute`: an absolute path stays as it is.
* `cover?_absolute`: on absolute paths the test of characters is the test of names, so that
  `/opt` does not cover `/optional` and the root covers everything.
* `Covers.refl`, `Covers.trans`, `Covers.total`: covering is a preorder in which the directories
  that cover one path form a chain.
-/
namespace StatefulRoles.Directory

/-- The names of a path, from the root: what stands between its slashes. -/
def names (path : String) : List (List Char) := (segments path.toList).filter (· ≠ [])

/-- A directory is the other one or lies above it. -/
def Covers (c p : String) : Prop := names c <+: names p

/-- A directory lies above another one. -/
def Above (c p : String) : Prop := Covers c p ∧ names c ≠ names p

instance (c p : String) : Decidable (Covers c p) := inferInstanceAs (Decidable (_ <+: _))

instance (c p : String) : Decidable (Above c p) := inferInstanceAs (Decidable (_ ∧ _))

theorem Covers.refl (p : String) : Covers p p := List.prefix_refl _

theorem Covers.trans {a b c : String} (h : Covers a b) (h' : Covers b c) : Covers a c :=
  List.IsPrefix.trans h h'

theorem Covers.total {a b p : String} (ha : Covers a p) (hb : Covers b p) :
    Covers a b ∨ Covers b a :=
  List.prefix_or_prefix_of_prefix ha hb

theorem Above.covers {c p : String} (h : Above c p) : Covers c p := h.1

theorem Above.length_lt {c p : String} (h : Above c p) : (names c).length < (names p).length := by
  have hle := h.1.length_le
  have hne : (names c).length ≠ (names p).length := fun he => h.2 (h.1.eq_of_length he)
  omega

/-! ## Components -/

/-- What a component of an absolute path is: a piece without slashes that is not empty and leads
neither nowhere nor up. -/
structure IsName (s : List Char) : Prop where
  ne_nil : s ≠ []
  ne_dot : s ≠ ['.']
  ne_dots : s ≠ ['.', '.']
  no_slash : '/' ∉ s

theorem segments_ne_nil (path : List Char) : segments path ≠ [] := by
  unfold segments
  split
  · simp
  · split
    · simp
    · split <;> simp

theorem segments_slash (path : List Char) : segments ('/' :: path) = [] :: segments path := by
  rw [segments, if_pos rfl]

theorem no_slash_of_mem_segments {path s : List Char} (h : s ∈ segments path) : '/' ∉ s := by
  induction path generalizing s with
  | nil => simp [segments] at h; simp [h]
  | cons c cs ih =>
    rw [segments] at h
    split at h
    · rcases List.mem_cons.mp h with rfl | h
      · simp
      · exact ih h
    · rename_i hc
      split at h
      · rename_i he
        exact absurd he (segments_ne_nil cs)
      · rename_i t ts he
        rcases List.mem_cons.mp h with rfl | h
        · have ht : '/' ∉ t := ih (by simp [he])
          simp [ht, Ne.symm hc]
        · exact ih (by simp [he, h])

/-- A first piece without slashes is the first segment. -/
theorem segments_append {s : List Char} (hs : '/' ∉ s) (rest : List Char) :
    segments (s ++ '/' :: rest) = s :: segments rest := by
  induction s with
  | nil => exact segments_slash rest
  | cons c cs ih =>
    simp only [List.mem_cons, not_or] at hs
    rw [List.cons_append, segments, if_neg (Ne.symm hs.1), ih hs.2]

theorem segments_of_no_slash {s : List Char} (hs : '/' ∉ s) : segments s = [s] := by
  induction s with
  | nil => rfl
  | cons c cs ih =>
    simp only [List.mem_cons, not_or] at hs
    rw [segments, if_neg (Ne.symm hs.1), ih hs.2]

theorem isName_of_mem_enter {above : List (List Char)} {segment : List Char}
    (ha : ∀ s ∈ above, IsName s) (hs : '/' ∉ segment) : ∀ s ∈ enter above segment, IsName s := by
  unfold enter
  split
  · exact ha
  · rename_i h
    simp only [Bool.or_eq_true, decide_eq_true_eq, not_or] at h
    split
    · exact fun s hm => ha s (List.mem_of_mem_tail hm)
    · rename_i h'
      intro s hm
      rcases List.mem_cons.mp hm with rfl | hm
      · exact ⟨h.1, h.2, h', hs⟩
      · exact ha s hm

theorem isName_of_mem_foldl (above : List (List Char)) {pieces : List (List Char)} (ha : ∀ s ∈ above, IsName s)
    (hp : ∀ s ∈ pieces, '/' ∉ s) : ∀ s ∈ pieces.foldl enter above, IsName s := by
  induction pieces generalizing above with
  | nil => exact ha
  | cons p ps ih =>
    have hp' := List.forall_mem_cons.mp hp
    exact ih _ (isName_of_mem_enter ha hp'.1) hp'.2

/-- The components of a path are names. -/
theorem isName_of_mem_components {path s : List Char} (h : s ∈ components path) : IsName s := by
  rw [components, List.mem_reverse] at h
  exact isName_of_mem_foldl [] (by simp) (fun _ => no_slash_of_mem_segments) s h

/-! ## The written form -/

/-- Names one below the other, with a slash in front of each. -/
def descent (cs : List (List Char)) : List Char := cs.flatMap ('/' :: ·)

theorem descent_cons (c : List Char) (cs : List (List Char)) :
    descent (c :: cs) = '/' :: (c ++ descent cs) := by
  simp [descent]

theorem ofComponents_cons (c : List Char) (cs : List (List Char)) :
    ofComponents (c :: cs) = descent (c :: cs) := by
  induction cs generalizing c with
  | nil => simp [ofComponents, descent, List.intercalate]
  | cons d ds ih =>
    have hd := ih d
    simp only [ofComponents, List.intercalate] at hd ⊢
    rw [descent_cons, ← hd]
    simp [List.intersperse]

theorem segments_descent {c : List Char} {cs : List (List Char)} (hc : '/' ∉ c)
    (hcs : ∀ s ∈ cs, '/' ∉ s) : segments (c ++ descent cs) = c :: cs := by
  induction cs generalizing c with
  | nil => simpa [descent] using segments_of_no_slash hc
  | cons d ds ih =>
    have h := List.forall_mem_cons.mp hcs
    rw [descent_cons, segments_append hc, ih h.1 h.2]

/-- The path written from names has these names. -/
theorem names_ofComponents {cs : List (List Char)} (h : ∀ s ∈ cs, IsName s) :
    names (String.ofList (ofComponents cs)) = cs := by
  rw [names, String.toList_ofList]
  cases cs with
  | nil => decide
  | cons c cs =>
    have hslash : ∀ s ∈ c :: cs, '/' ∉ s := fun s hs => (h s hs).no_slash
    have hs := List.forall_mem_cons.mp hslash
    rw [ofComponents_cons, descent_cons, segments_slash, segments_descent hs.1 hs.2]
    simpa [List.filter_eq_self] using fun s hs => (h s hs).ne_nil

/-- The names of an absolute path are the components of the path that it was made from. -/
theorem names_absolute (path : String) : names (absolute path) = components path.toList :=
  names_ofComponents fun _ => isName_of_mem_components

/-- Absolute paths with the same names are the same. -/
theorem absolute_eq_iff (a b : String) :
    absolute a = absolute b ↔ names (absolute a) = names (absolute b) := by
  constructor
  · intro h
    rw [h]
  · intro h
    rw [names_absolute, names_absolute] at h
    rw [absolute, absolute, h]

/-- A name leads down. -/
theorem enter_isName {s : List Char} (h : IsName s) (above : List (List Char)) :
    enter above s = s :: above := by
  rw [enter, if_neg (by simp [h.ne_nil, h.ne_dot]), if_neg h.ne_dots]

theorem foldl_enter_names {cs : List (List Char)} (h : ∀ s ∈ cs, IsName s)
    (above : List (List Char)) : cs.foldl enter above = cs.reverse ++ above := by
  induction cs generalizing above with
  | nil => rfl
  | cons c cs ih =>
    obtain ⟨hc, hcs⟩ := List.forall_mem_cons.mp h
    rw [List.foldl_cons, enter_isName hc, ih hcs, List.reverse_cons, List.append_assoc]
    rfl

/-- What stands before a slash in front is empty and leads nowhere. -/
theorem components_slash (path : List Char) : components ('/' :: path) = components path := by
  rw [components, segments_slash, List.foldl_cons]
  rfl

/-- The path written from names comes to these names. -/
theorem components_ofComponents {cs : List (List Char)} (h : ∀ s ∈ cs, IsName s) :
    components (ofComponents cs) = cs := by
  cases cs with
  | nil => decide
  | cons c cs =>
    have hslash : ∀ s ∈ c :: cs, '/' ∉ s := fun s hs => (h s hs).no_slash
    have hs := List.forall_mem_cons.mp hslash
    rw [ofComponents_cons, descent_cons, components_slash, components,
      segments_descent hs.1 hs.2, foldl_enter_names h, List.append_nil, List.reverse_reverse]

/-- An absolute path is the absolute path of the directory it names. -/
theorem absolute_absolute (path : String) : absolute (absolute path) = absolute path := by
  rw [absolute, absolute, String.toList_ofList,
    components_ofComponents fun _ => isName_of_mem_components]

/-! ## Covering, character by character -/

/-- How far one path begins another is decided by the first names, as they have no slashes. -/
theorem prefix_cons_iff {c d t : List Char} (r : List Char) (hc : '/' ∉ c) (hd : '/' ∉ d)
    (ht : ∀ x ∈ t.head?, x = '/') : c ++ '/' :: r <+: d ++ t ↔ c = d ∧ '/' :: r <+: t := by
  induction c generalizing d with
  | nil =>
    cases d with
    | nil => simp
    | cons y d => simp at hd; simp [hd.1]
  | cons x c ih =>
    simp only [List.mem_cons, not_or] at hc
    cases d with
    | nil =>
      cases t with
      | nil => simp
      | cons y t => simp at ht; simp [ht, Ne.symm hc.1]
    | cons y d =>
      simp only [List.mem_cons, not_or] at hd
      simp only [List.cons_append, List.cons_prefix_cons, List.cons.injEq, ih hc.2 hd.2, and_assoc]

theorem head?_descent (cs : List (List Char)) : ∀ x ∈ (descent cs).head?, x = '/' := by
  cases cs with
  | nil => simp [descent]
  | cons c cs => simp [descent_cons, eq_comm]

/-- A path with one more slash begins another path exactly when its names begin the other's and
are not all of them. -/
theorem descent_slash_prefix_iff {as bs : List (List Char)} (ha : ∀ s ∈ as, '/' ∉ s)
    (hb : ∀ s ∈ bs, '/' ∉ s) : descent as ++ ['/'] <+: descent bs ↔ as <+: bs ∧ as ≠ bs := by
  induction as generalizing bs with
  | nil =>
    cases bs with
    | nil => simp [descent]
    | cons b bs => simp [descent]
  | cons a as ih =>
    cases bs with
    | nil => simp [descent]
    | cons b bs =>
      have ha' := List.forall_mem_cons.mp ha
      have hb' := List.forall_mem_cons.mp hb
      obtain ⟨r, hr⟩ : ∃ r, descent as ++ ['/'] = '/' :: r := by
        cases as with
        | nil => exact ⟨[], rfl⟩
        | cons c cs => exact ⟨_, by rw [descent_cons, List.cons_append]⟩
      have step := prefix_cons_iff r ha'.1 hb'.1 (head?_descent bs)
      rw [descent_cons, descent_cons, List.cons_append, List.append_assoc, List.cons_prefix_cons,
        hr, step, ← hr, ih ha'.2 hb'.2]
      simp only [true_and, List.cons_prefix_cons, ne_eq, List.cons.injEq, and_assoc]
      by_cases h : a = b <;> simp [h]

/-- The written form of names that are there does not end in a slash. -/
theorem getLast?_descent {cs : List (List Char)} (hne : cs ≠ []) (h : ∀ s ∈ cs, IsName s) :
    (descent cs).getLast? ≠ some '/' := by
  have hlast := h _ (List.getLast_mem hne)
  have hsplit : descent cs = descent cs.dropLast ++ '/' :: cs.getLast hne := by
    conv => lhs; rw [← List.dropLast_concat_getLast hne]
    simp [descent]
  have hend : (descent cs).getLast? = (cs.getLast hne).getLast? := by
    rw [hsplit, List.getLast?_append, List.getLast?_cons_of_ne_nil hlast.ne_nil,
      List.getLast?_eq_some_getLast hlast.ne_nil, Option.some_or]
  intro he
  exact hlast.no_slash (List.mem_of_getLast? (hend ▸ he))

theorem stem_ofComponents {cs : List (List Char)} (h : ∀ s ∈ cs, IsName s) :
    stem (ofComponents cs) = descent cs ++ ['/'] := by
  cases cs with
  | nil => rfl
  | cons c cs => rw [ofComponents_cons, stem, if_neg (getLast?_descent (by simp) h)]

theorem stem_prefix_iff {as bs : List (List Char)} (ha : ∀ s ∈ as, IsName s)
    (hb : ∀ s ∈ bs, IsName s) (hne : as ≠ bs) :
    stem (ofComponents as) <+: ofComponents bs ↔ as <+: bs := by
  rw [stem_ofComponents ha]
  cases bs with
  | nil =>
    -- the root has one slash, and what lies below it has more
    cases as with
    | nil => exact absurd rfl hne
    | cons a as => simp [descent_cons, ofComponents, List.intercalate]
  | cons b bs =>
    rw [ofComponents_cons, descent_slash_prefix_iff (fun s hs => (ha s hs).no_slash)
      (fun s hs => (hb s hs).no_slash)]
    exact and_iff_left hne

/-- On absolute paths the test of characters is the test of names. -/
theorem cover?_absolute (c p : String) : cover? (absolute c) (absolute p) =
    if absolute c = absolute p then some .equal
    else if Above (absolute c) (absolute p) then some .ancestor
    else none := by
  unfold cover?
  split
  · rfl
  · rename_i hne
    have hn : components c.toList ≠ components p.toList := by
      rw [← names_absolute, ← names_absolute]
      exact fun h => hne ((absolute_eq_iff c p).mpr h)
    have hp := stem_prefix_iff (fun _ => isName_of_mem_components)
      (fun _ => isName_of_mem_components) hn
    have hiff : (stem (absolute c).toList).isPrefixOf (absolute p).toList = true ↔
        Above (absolute c) (absolute p) := by
      rw [List.isPrefixOf_iff_prefix, Above, Covers, names_absolute, names_absolute, absolute,
        absolute, String.toList_ofList, String.toList_ofList, hp]
      exact (and_iff_left hn).symm
    simp only [hiff]

example : cover? "/opt" "/opt/x" = some .ancestor ∧ cover? "/opt" "/optional" = none := by
  decide +kernel

end StatefulRoles.Directory
