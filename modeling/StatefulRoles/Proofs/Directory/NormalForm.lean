import StatefulRoles.Proofs.Directory.Components
/-!
# The normal form of a directory

There is a normal form for paths of any kind. It begins with one slash where the path begins with
some, but with two where the path begins with exactly two, since what these name is left to the
system; and where the path has no root, it begins with the `..` that lead out of it. A directory
gets its one form in this way, behind a single slash in place of those that it is written with. Then
neither case arises: its form is a stack of names, written from the root down, which the pieces of
the path push and `..` pops.

Results:
* `components_eq_stack`: the components of a path are the stack that its pieces lead to.
* `normalize_rooted`: with a root, what is normalized are the components, behind the root's slashes.
* `absolute_eq_normalize`: the one form of a directory is the normal form of its path behind a
  single slash.
* `absolute_eq_self_iff`: the root and the names below it are the paths that stay as they are.
* `absolute_normalForm`: all of it, for every path.
-/
namespace StatefulRoles.Directory

/-! ## The stack of a path -/

/-- What a piece of a path does to the names so far, with the last one on top at the end: nothing
and `.` leave them, `..` takes one off if there is one, all else comes on top. -/
def visit (above : List (List Char)) (piece : List Char) : List (List Char) :=
  if piece = [] ∨ piece = ['.'] then above
  else if piece = ['.', '.'] then above.dropLast
  else above ++ [piece]

/-- The names that a path leads to, through its pieces between the slashes. -/
def stack (path : String) : List (List Char) := (path.toList.splitOn '/').foldl visit []

theorem segments_eq_splitOn (path : List Char) : segments path = path.splitOn '/' := by
  induction path with
  | nil => rfl
  | cons c cs ih =>
    have hsplit : (c :: cs).splitOn '/' =
        if (c == '/') = true then [] :: cs.splitOn '/' else (cs.splitOn '/').modifyHead (c :: ·) :=
      List.splitOnP_cons_eq_if_modifyHead c cs
    obtain ⟨s, ss, hs⟩ := List.exists_cons_of_ne_nil (segments_ne_nil cs)
    rw [segments, hsplit, ← ih, hs]
    by_cases hc : c = '/'
    · simp [hc]
    · simp [hc]

theorem reverse_enter (above : List (List Char)) (piece : List Char) :
    (enter above piece).reverse = visit above.reverse piece := by
  unfold enter visit
  by_cases hstay : piece = [] ∨ piece = ['.']
  · simp [hstay]
  · by_cases hup : piece = ['.', '.']
    · simp [hup]
    · simp [hstay, hup]

theorem reverse_foldl_enter (pieces above : List (List Char)) :
    (pieces.foldl enter above).reverse = pieces.foldl visit above.reverse := by
  induction pieces generalizing above with
  | nil => rfl
  | cons p ps ih => rw [List.foldl_cons, List.foldl_cons, ih, reverse_enter]

theorem components_eq_stack (path : String) : components path.toList = stack path := by
  rw [components, reverse_foldl_enter, segments_eq_splitOn, stack, List.reverse_nil]

/-! ## Normal forms of paths -/

/-- The slashes at the front of a normal form: two stay two, and any other number comes to one. -/
def rootSlashes (path : List Char) : Nat :=
  match (path.takeWhile (· = '/')).length with
  | 0 => 0
  | 2 => 2
  | _ => 1

/-- What a piece of a path does to the names kept so far, with the last one first. Without a root,
`..` is kept where there is nothing to take off, and behind another `..`. -/
def keep (rooted : Bool) (kept : List (List Char)) (piece : List Char) : List (List Char) :=
  if piece = [] ∨ piece = ['.'] then kept
  else if piece ≠ ['.', '.'] ∨ (rooted = false ∧ kept = []) ∨ kept.head? = some ['.', '.'] then
    piece :: kept
  else kept.tail

/-- The normal form of a path of any kind. A path of which nothing is left is `.`. -/
def normalize (path : String) : String :=
  let slashes := rootSlashes path.toList
  let kept := ((path.toList.splitOn '/').foldl (keep (slashes ≠ 0)) []).reverse
  let form := List.replicate slashes '/' ++ ['/'].intercalate kept
  if form = [] then "." else String.ofList form

/-- Below a root only names are kept, so that `..` always goes up. -/
theorem keep_rooted {kept : List (List Char)} (h : ∀ s ∈ kept, IsName s) (piece : List Char) :
    keep true kept piece = enter kept piece := by
  have hhead : kept.head? ≠ some ['.', '.'] := by
    intro he
    exact (h _ (List.mem_of_mem_head? he)).ne_dots rfl
  unfold keep enter
  by_cases hstay : piece = [] ∨ piece = ['.']
  · simp [hstay]
  · by_cases hup : piece = ['.', '.']
    · simp [hup, hhead]
    · simp [hstay, hup]

/-- Each piece is taken as a directory takes it, since the names kept stay names. -/
theorem foldl_keep_rooted {kept pieces : List (List Char)} (hk : ∀ s ∈ kept, IsName s)
    (hp : ∀ s ∈ pieces, '/' ∉ s) : pieces.foldl (keep true) kept = pieces.foldl enter kept := by
  induction pieces generalizing kept with
  | nil => rfl
  | cons p ps ih =>
    have hp' := List.forall_mem_cons.mp hp
    rw [List.foldl_cons, List.foldl_cons, keep_rooted hk]
    exact ih (isName_of_mem_enter hk hp'.1) hp'.2

theorem normalize_rooted {path : String} (h : rootSlashes path.toList ≠ 0) :
    (normalize path).toList =
      List.replicate (rootSlashes path.toList) '/' ++ ['/'].intercalate (components path.toList) := by
  have hkept : ((path.toList.splitOn '/').foldl (keep true) []).reverse =
      components path.toList := by
    rw [← segments_eq_splitOn, foldl_keep_rooted (by simp) fun _ => no_slash_of_mem_segments]
    rfl
  have hform : List.replicate (rootSlashes path.toList) '/' ++
      ['/'].intercalate (components path.toList) ≠ [] := by
    simp [h]
  simp only [normalize, ne_eq, h, not_false_eq_true, decide_true, hkept, if_neg hform,
    String.toList_ofList]

example : normalize "//srv/x/.." = "//srv" ∧ normalize "///srv" = "/srv" := by decide +kernel

/-! ## Behind a single slash -/

theorem components_dropWhile (path : List Char) :
    components (path.dropWhile (· = '/')) = components path := by
  induction path with
  | nil => rfl
  | cons c cs ih =>
    by_cases hc : c = '/'
    · rw [hc, List.dropWhile_cons_of_pos (by simp), ih, components_slash]
    · rw [List.dropWhile_cons_of_neg (by simp [hc])]

theorem takeWhile_dropWhile {α : Type} (p : α → Bool) (l : List α) :
    (l.dropWhile p).takeWhile p = [] := by
  have hhead := List.head?_dropWhile_not p l
  cases hrest : l.dropWhile p with
  | nil => rfl
  | cons x xs =>
    have hx : p x = false := by simpa [hrest] using hhead
    rw [List.takeWhile_cons_of_neg (by simp [hx])]

/-- Behind a single slash, what follows begins with none. -/
theorem rootSlashes_single (path : List Char) :
    rootSlashes ('/' :: path.dropWhile (· = '/')) = 1 := by
  rw [rootSlashes, List.takeWhile_cons_of_pos (by simp), takeWhile_dropWhile]
  rfl

theorem absolute_eq_normalize (path : String) :
    absolute path = normalize ("/" ++ String.ofList (path.toList.dropWhile (· = '/'))) := by
  have hpath : ("/" ++ String.ofList (path.toList.dropWhile (· = '/'))).toList =
      '/' :: path.toList.dropWhile (· = '/') := by
    simp
  have hslash := rootSlashes_single path.toList
  apply String.toList_inj.mp
  rw [normalize_rooted (by simp [hpath, hslash]), hpath, hslash, components_slash,
    components_dropWhile, absolute, String.toList_ofList]
  rfl

/-! ## Paths in normal form -/

/-- The root, and names one below the other. -/
def IsNormal (path : String) : Prop :=
  path = "/" ∨ ∃ cs, cs ≠ [] ∧ (∀ s ∈ cs, IsName s) ∧ path.toList = descent cs

theorem toList_absolute_stack (path : String) :
    (absolute path).toList = '/' :: ['/'].intercalate (stack path) := by
  rw [absolute, String.toList_ofList, components_eq_stack]
  rfl

theorem absolute_eq_self_iff (path : String) : absolute path = path ↔ IsNormal path := by
  constructor
  · intro h
    cases hcs : components path.toList with
    | nil =>
      left
      rw [← h, absolute, hcs]
      decide
    | cons c cs =>
      right
      have hnames : ∀ s ∈ c :: cs, IsName s := by
        rw [← hcs]
        exact fun _ => isName_of_mem_components
      refine ⟨c :: cs, by simp, hnames, ?_⟩
      rw [← h, absolute, String.toList_ofList, hcs, ofComponents_cons]
  · intro h
    rcases h with rfl | ⟨cs, hne, hnames, hpath⟩
    · decide +kernel
    · obtain ⟨c, cs, rfl⟩ := List.exists_cons_of_ne_nil hne
      rw [← ofComponents_cons] at hpath
      apply String.toList_inj.mp
      rw [absolute, String.toList_ofList, hpath, components_ofComponents hnames]

theorem absolute_eq_iff_stack (a b : String) : absolute a = absolute b ↔ stack a = stack b := by
  rw [absolute_eq_iff, names_absolute, names_absolute, components_eq_stack, components_eq_stack]

/-- **The normal form of a directory.** The one form of a directory is the normal form of its path
behind a single slash, and it is the stack of the path, written with a slash in front and between
the names; to take the one form twice is to take it once, and the paths that stay as they are are the
root and the names below it; two directories have one form exactly when their stacks agree. -/
theorem absolute_normalForm :
    (∀ path : String,
      absolute path = normalize ("/" ++ String.ofList (path.toList.dropWhile (· = '/'))) ∧
        (absolute path).toList = '/' :: ['/'].intercalate (stack path) ∧
        absolute (absolute path) = absolute path ∧
        (absolute path = path ↔ IsNormal path)) ∧
      ∀ a b : String, absolute a = absolute b ↔ stack a = stack b := by
  constructor
  · intro path
    exact ⟨absolute_eq_normalize path, toList_absolute_stack path, absolute_absolute path,
      absolute_eq_self_iff path⟩
  · exact absolute_eq_iff_stack

-- with both slashes in front, the path would keep them
example : absolute "//srv/./a/../data/" = "/srv/data" ∧
    normalize "//srv/./a/../data/" = "//srv/data" := by
  decide +kernel

end StatefulRoles.Directory
