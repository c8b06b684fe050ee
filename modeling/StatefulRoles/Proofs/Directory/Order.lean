import Mathlib.Order.Preorder.Chain
import StatefulRoles.Proofs.Directory.Components
/-!
# Covering as an order

`cover?` looks at the characters of two paths. Between directories in their one form it decides the
order of a tree with the root on top, in which a directory stands above those whose names begin
with its own: the slash that the test puts behind a candidate ends the candidate's last name, so
that a name is not taken for the beginning of a longer one.

Results:
* `Dir.cover?_eq`: what the test says, by the names of the two directories.
* `Dir.isPartialOrder_covers`, `Dir.isChain_covers`: to cover is a partial order, and the
  directories that cover one path form a chain.
* `Dir.cover?_longer`: a directory does not cover a path that only makes its last name longer.
* `covering_order`: all of it, for every two directories.
-/
namespace StatefulRoles.Directory

/-- A directory in its one form. -/
structure Dir where
  path : String
  made : ∃ spelling, absolute spelling = path

namespace Dir

/-- The test finds the same directory or one above. -/
def covers (c p : Dir) : Bool := (cover? c.path p.path).isSome

def root : Dir := ⟨"/", "", by decide +kernel⟩

theorem names_root : names root.path = [] := by decide +kernel

theorem isName_of_mem_names {c : Dir} {s : List Char} (h : s ∈ names c.path) : IsName s := by
  obtain ⟨spelling, hpath⟩ := c.made
  rw [← hpath, names_absolute] at h
  exact isName_of_mem_components h

/-- A directory's path is written from its names. -/
theorem toList_path (c : Dir) : c.path.toList = ofComponents (names c.path) := by
  obtain ⟨spelling, hpath⟩ := c.made
  rw [← hpath, names_absolute, absolute, String.toList_ofList]

theorem path_eq_iff (c p : Dir) : c.path = p.path ↔ names c.path = names p.path := by
  obtain ⟨_, a, rfl⟩ := c
  obtain ⟨_, b, rfl⟩ := p
  exact absolute_eq_iff a b

theorem ext_names {c p : Dir} (h : names c.path = names p.path) : c = p := by
  have hpath := (path_eq_iff c p).mpr h
  cases c
  cases p
  simpa using hpath

/-! ## What the test says -/

theorem cover?_eq (c p : Dir) : cover? c.path p.path =
    if names c.path = names p.path then some .equal
    else if names c.path <+: names p.path then some .ancestor
    else none := by
  obtain ⟨_, a, rfl⟩ := c
  obtain ⟨_, b, rfl⟩ := p
  rw [cover?_absolute]
  simp only [absolute_eq_iff, Above, Covers]
  by_cases hsame : names (absolute a) = names (absolute b)
  · simp [hsame]
  · simp [hsame]

theorem cover?_iff (c p : Dir) :
    (cover? c.path p.path = some .equal ↔ names c.path = names p.path) ∧
      (cover? c.path p.path = some .ancestor ↔
        names c.path <+: names p.path ∧ names c.path ≠ names p.path) ∧
      (cover? c.path p.path = none ↔ ¬names c.path <+: names p.path) := by
  rw [cover?_eq]
  by_cases hsame : names c.path = names p.path
  · simp [hsame]
  · by_cases hbegins : names c.path <+: names p.path
    · simp [hsame, hbegins]
    · simp [hsame, hbegins]

theorem covers_iff (c p : Dir) : c.covers p = true ↔ Covers c.path p.path := by
  rw [covers, Option.isSome_iff_ne_none, ne_eq, (cover?_iff c p).2.2, not_not]
  rfl

/-! ## The order -/

theorem isPartialOrder_covers : IsPartialOrder Dir (fun c p => c.covers p) where
  refl c := (covers_iff c c).mpr (Covers.refl _)
  trans a b c hab hbc := by
    rw [covers_iff] at *
    exact hab.trans hbc
  antisymm a b hab hba := by
    rw [covers_iff] at *
    exact ext_names (hab.eq_of_length (Nat.le_antisymm hab.length_le hba.length_le))

theorem isChain_covers (p : Dir) : IsChain (fun c d : Dir => c.covers d) {c | c.covers p} := by
  intro c hc d hd _
  have hcp := (covers_iff c p).mp hc
  have hdp := (covers_iff d p).mp hd
  exact (hcp.total hdp).imp (covers_iff c d).mpr (covers_iff d c).mpr

theorem names_ne_nil {c : Dir} (h : c.path ≠ "/") : names c.path ≠ [] := by
  intro hnil
  exact h ((path_eq_iff c root).mpr (hnil.trans names_root.symm))

theorem root_above {p : Dir} (h : p.path ≠ "/") : cover? "/" p.path = some .ancestor := by
  have habove := (cover?_iff root p).2.1
  rw [names_root] at habove
  exact habove.mpr ⟨List.nil_prefix, (names_ne_nil h).symm⟩

/-- What lies below a directory other than the root goes on with a slash. -/
theorem stem_path {c : Dir} (h : c.path ≠ "/") : stem c.path.toList = c.path.toList ++ ['/'] := by
  obtain ⟨s, ss, hnames⟩ := List.exists_cons_of_ne_nil (names_ne_nil h)
  rw [toList_path, stem_ofComponents fun _ => isName_of_mem_names, hnames, ofComponents_cons]

theorem cover?_longer {c : Dir} (h : c.path ≠ "/") {x : Char} (hx : x ≠ '/') (rest : List Char) :
    cover? c.path (c.path ++ String.ofList (x :: rest)) = none := by
  have hne : c.path ≠ c.path ++ String.ofList (x :: rest) := by
    intro heq
    have hlist := congrArg String.toList heq
    simp at hlist
  have hstem : ¬(stem c.path.toList).isPrefixOf (c.path ++ String.ofList (x :: rest)).toList := by
    -- both begin with the directory's path, so the slash would have to be the next character
    rw [stem_path h, String.toList_append, String.toList_ofList, List.isPrefixOf_iff_prefix,
      List.prefix_append_right_inj]
    simp [Ne.symm hx]
  rw [cover?, if_neg hne, if_neg hstem]

end Dir

/-- **Covering.** The test of characters says of two directories that they are the same exactly when
they have the same names, that one lies above the other exactly when its names begin the other's and
are not all of them, and nothing otherwise. So the root lies above every other directory; to cover
is a partial order, and the directories that cover one path form a chain; and no directory but the
root covers a path that goes on behind its last name without a slash. -/
theorem covering_order :
    (∀ c p : Dir,
      (cover? c.path p.path = some .equal ↔ names c.path = names p.path) ∧
        (cover? c.path p.path = some .ancestor ↔
          names c.path <+: names p.path ∧ names c.path ≠ names p.path) ∧
        (cover? c.path p.path = none ↔ ¬names c.path <+: names p.path)) ∧
      (∀ p : Dir, p.path ≠ "/" → cover? "/" p.path = some .ancestor) ∧
      IsPartialOrder Dir (fun c p => c.covers p) ∧
      (∀ p : Dir, IsChain (fun c d : Dir => c.covers d) {c | c.covers p}) ∧
      ∀ c : Dir, c.path ≠ "/" → ∀ x : Char, x ≠ '/' → ∀ rest : List Char,
        cover? c.path (c.path ++ String.ofList (x :: rest)) = none :=
  ⟨Dir.cover?_iff, fun _ => Dir.root_above, Dir.isPartialOrder_covers, Dir.isChain_covers,
    fun _ hc _ hx => Dir.cover?_longer hc hx⟩

theorem covering_order_optional :
    "/opt" ≠ "/" ∧ 'i' ≠ '/' ∧ cover? "/" "/opt" = some .ancestor ∧
      cover? "/opt" "/optional" = none := by
  have hopt : "/opt" ≠ "/" := by decide
  have hi : 'i' ≠ '/' := by decide
  obtain ⟨-, hroot, -, -, hlonger⟩ := covering_order
  have hmade : ∃ spelling, absolute spelling = "/opt" := ⟨"opt/", by decide +kernel⟩
  exact ⟨hopt, hi, hroot ⟨"/opt", hmade⟩ hopt, hlonger ⟨"/opt", hmade⟩ hopt 'i' hi "onal".toList⟩

end StatefulRoles.Directory
