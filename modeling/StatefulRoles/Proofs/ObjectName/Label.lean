import Mathlib.Data.List.DropRight
import StatefulRoles.Synthesis
/-!
# Object names as labels

The name of a pod and the value of its revision label have to be labels: lower-case ASCII letters
and digits, and dashes between them.

Results:
* `sanitizeChars_isLabel`, `length_sanitizeChars_le`: whatever is in a name that a user chose, what
  it is made into is a label, of the length that is left for it.
* `IsLabel.join`: two labels joined by a dash are a label.
* `generated_isLabel`: a name that the server completes from a cluster's and a role's is a label,
  and leaves room for the hash of a revision.
-/
namespace StatefulRoles

namespace Text

variable {p : Char → Bool} {cs : List Char} {c : Char}

theorem trimEnd_begins (p : Char → Bool) (cs : List Char) : trimEnd p cs <+: cs :=
  List.rdropWhile_prefix p cs

theorem trimEnd_concat (p : Char → Bool) (cs : List Char) (c : Char) :
    trimEnd p (cs ++ [c]) = if p c then trimEnd p cs else cs ++ [c] :=
  List.rdropWhile_concat p cs c

/-- The whole of the ending inside the class is cut off. -/
theorem getLast?_trimEnd (h : (trimEnd p cs).getLast? = some c) : p c = false := by
  have hne : List.rdropWhile p cs ≠ [] := by
    intro hnil
    rw [show trimEnd p cs = [] from hnil] at h
    cases h
  have hlast : (List.rdropWhile p cs).getLast? = some ((List.rdropWhile p cs).getLast hne) :=
    List.getLast?_eq_some_getLast hne
  have hc : (List.rdropWhile p cs).getLast hne = c := Option.some.inj (hlast.symm.trans h)
  rw [← hc, ← Bool.not_eq_true]
  exact List.rdropWhile_last_not p cs hne

theorem head?_of_begins {ds : List Char} (hbegins : ds <+: cs) (h : ds.head? = some c) :
    cs.head? = some c := by
  obtain ⟨rest, rfl⟩ := hbegins
  rw [List.head?_append, h]
  rfl

/-- So is the whole of the beginning, and what is cut off the end leaves the beginning alone. -/
theorem head?_trim (h : (trim p cs).head? = some c) : p c = false := by
  have hnot := List.head?_dropWhile_not p cs
  rw [head?_of_begins (trimEnd_begins p _) h] at hnot
  exact hnot

theorem mem_of_mem_trim (h : c ∈ trim p cs) : c ∈ cs :=
  (List.dropWhile_suffix p).subset ((trimEnd_begins p _).subset h)

/-- No letter is left in upper case. -/
theorem isUpper_of_mem_lower (h : c ∈ lower cs) : c.isUpper = false := by
  obtain ⟨d, -, hd⟩ := List.mem_flatMap.mp h
  unfold lowerChar at hd
  split at hd
  · rw [List.mem_singleton.mp hd]
    decide
  · split at hd
    · rcases List.mem_pair.mp hd with rfl | rfl <;> decide
    · rw [List.mem_singleton.mp hd]
      unfold Char.toLower Char.isUpper
      split <;> grind

end Text

namespace ObjectName

variable {length : Int} {name cs ds : List Char} {c : Char}

/-! ## Labels -/

/-- The characters of the words of a label: lower-case ASCII letters and digits. -/
def isWordChar (c : Char) : Bool := c.isLower || c.isDigit

/-- A label: words and dashes, with a word at either end. -/
structure IsLabel (cs : List Char) : Prop where
  ne_nil : cs ≠ []
  chars : ∀ c ∈ cs, isWordChar c || isDash c
  head : ∀ c, cs.head? = some c → isWordChar c
  last : ∀ c, cs.getLast? = some c → isWordChar c

/-- A word is a label. -/
theorem isLabel_of_word (hne : cs ≠ []) (h : ∀ c ∈ cs, isWordChar c) : IsLabel cs := by
  refine ⟨hne, fun c hc => ?_, fun c hc => ?_, fun c hc => ?_⟩
  · rw [h c hc, Bool.true_or]
  · exact h c (List.mem_of_head? hc)
  · exact h c (List.mem_of_getLast? hc)

/-- Two labels joined by a dash are a label. -/
theorem IsLabel.join (hcs : IsLabel cs) (hds : IsLabel ds) : IsLabel (cs ++ '-' :: ds) := by
  refine ⟨by simp, fun c hc => ?_, fun c hc => ?_, fun c hc => ?_⟩
  · rcases List.mem_append.mp hc with hc | hc
    · exact hcs.chars c hc
    · rcases List.mem_cons.mp hc with rfl | hc
      · rfl
      · exact hds.chars c hc
  · obtain ⟨d, rest, rfl⟩ := List.exists_cons_of_ne_nil hcs.ne_nil
    exact hcs.head c hc
  · rw [List.getLast?_append_of_ne_nil _ (List.cons_ne_nil _ _),
      List.getLast?_cons_of_ne_nil hds.ne_nil] at hc
    exact hds.last c hc

/-! ## Names made into labels -/

theorem collapse_sublist (cs : List Char) : (collapse cs).Sublist cs := by
  fun_induction collapse cs with
  | case1 cs _ ih => exact ih.trans (mergePairs_sublist cs)
  | case2 cs _ => exact List.Sublist.refl cs

/-- Of what is kept of a name nothing is in upper case, for it was lowered before. -/
theorem base_chars (h : c ∈ base name) : isWordChar c || isDash c := by
  obtain ⟨hmem, hname⟩ := List.mem_filter.mp ((collapse_sublist _).subset (Text.mem_of_mem_trim h))
  obtain ⟨d, hd, rfl⟩ := List.mem_map.mp hmem
  have hlow := Text.isUpper_of_mem_lower hd
  unfold dashed at hname ⊢
  split
  · rfl
  · rename_i hkept
    rw [if_neg hkept] at hname
    have halpha (c : Char) : c.isAlpha = (c.isUpper || c.isLower) := rfl
    simpa [isNameChar, isWordChar, Char.isAlphanum, halpha, hlow] using hname

theorem cut_begins (length : Int) (cs : List Char) : cut length cs <+: cs := by
  unfold cut
  split <;> exact List.take_prefix _ _

/-- Whatever the name and the length, what the name is made into is a label. -/
theorem sanitizeChars_isLabel (length : Int) (name : List Char) :
    IsLabel (sanitizeChars length name) := by
  have hbegins : Text.trimEnd isDash (cut length (base name)) <+: base name :=
    (Text.trimEnd_begins isDash _).trans (cut_begins length _)
  have hword {c : Char} (hc : c ∈ base name) (hdash : isDash c = false) : isWordChar c := by
    have := base_chars hc
    rwa [hdash, Bool.or_false] at this
  unfold sanitizeChars
  split
  · exact isLabel_of_word (by decide) (List.all_eq_true.mp (by decide))
  · rename_i hne
    refine ⟨hne, fun c hc => base_chars (hbegins.subset hc), fun c hc => ?_, fun c hc => ?_⟩
    · have hhead := Text.head?_of_begins hbegins hc
      exact hword (List.mem_of_head? hhead) (Text.head?_trim hhead)
    · exact hword (hbegins.subset (List.mem_of_getLast? hc)) (Text.getLast?_trimEnd hc)

theorem length_sanitizeChars_le (h : 0 < length) :
    ((sanitizeChars length name).length : Int) ≤ length := by
  unfold sanitizeChars
  split
  · exact h
  · have hcut := (Text.trimEnd_begins isDash (cut length (base name))).length_le
    have htake : (cut length (base name)).length ≤ length.toNat := by
      rw [cut, if_pos (Int.le_of_lt h)]
      exact List.length_take_le _ _
    omega

/-- A generated base is a label, and leaves room for a dash and five characters more. -/
theorem generatedBase_isLabel (name : String) :
    IsLabel (generatedBase name).toList ∧ (generatedBase name).length + 6 ≤ maxLength := by
  have hchars : (generatedBase name).toList = sanitizeChars maxBaseLength name.toList :=
    String.toList_ofList
  have hlength : ((sanitizeChars maxBaseLength name.toList).length : Int) ≤ maxBaseLength :=
    length_sanitizeChars_le (by decide)
  rw [← String.length_toList, hchars]
  refine ⟨sanitizeChars_isLabel _ _, ?_⟩
  show _ ≤ maxBaseLength + 6
  omega

example : generatedBase "My_Cluster-Controller.Role" = "my-cluster-controller-role" := by
  decide +kernel

end ObjectName

namespace Metadata

open ObjectName

/-- **A generated name is a label.** Under the scheme that names stateful sets after the cluster and
the role, a role without a name on record gets the beginning of a name and no name, whatever the
settings are. Completed by five characters, it is a label short enough for the hash of a revision
behind it. -/
theorem generated_isLabel (cluster : Cluster) (role : Role) (status : Option RoleStatus)
    (hscheme : cluster.spec.namingScheme = .clusterAndRole) (hnone : recordedName status = none) :
    ∃ g : String,
      (∀ settings, namingWith cluster role status settings = .ok (.generated g)) ∧
      (∀ m, withNaming m (.generated g) = { m with generateName := some g }) ∧
      (∀ fixed, (Synthesis.metadata cluster role status fixed).generateName = some g ∧
        (Synthesis.metadata cluster role status fixed).name = none) ∧
      ∀ suffix : String, suffix.length = 5 → (∀ c ∈ suffix.toList, isWordChar c) →
        IsLabel (g ++ suffix).toList ∧ (g ++ suffix).length ≤ 52 ∧
        ∀ hash : String, hash.length = 10 → (g ++ suffix ++ "-" ++ hash).length ≤ 63 := by
  have hnaming (fixed : String) :
      naming cluster role status fixed = .generated (beginning cluster role) := by
    rw [naming, hnone, hscheme]
  obtain ⟨hlabel, hlength⟩ := generatedBase_isLabel s!"{cluster.name}-{role.id}"
  have hdash : ("-" : String).length = 1 := rfl
  refine ⟨beginning cluster role, fun settings => ?_, fun m => rfl, fun fixed => ?_,
    fun suffix hsuffix hword => ?_⟩
  · have hfixed : needsFixed cluster status = false := by
      rw [needsFixed, hscheme]
      exact Bool.and_false _
    rw [namingWith, hfixed, if_neg Bool.false_ne_true, hnaming]
  · rw [Synthesis.metadata, hnaming]
    exact ⟨rfl, rfl⟩
  · have hne : suffix.toList ≠ [] := by
      intro hnil
      rw [← String.length_toList, hnil] at hsuffix
      cases hsuffix
    have hmax : maxLength = 52 := rfl
    have hshort : (beginning cluster role ++ suffix).length ≤ 52 := by
      rw [beginning, String.length_append, String.length_append]
      omega
    refine ⟨?_, hshort, fun hash hhash => ?_⟩
    · rw [beginning, String.toList_append, String.toList_append, List.append_assoc]
      exact hlabel.join (isLabel_of_word hne hword)
    · rw [String.length_append, String.length_append]
      omega

theorem generated_isLabel_kelvin :
    let cluster : Cluster :=
      { name := "\u212a_İ..Ä", ns := "n", uid := "u"
        spec := { app := "db", namingScheme := .clusterAndRole } }
    let role : Role := { id := String.ofList (List.replicate 60 '-') ++ "Db" }
    ∃ g : String,
      namingWith cluster role (some { id := "db" }) (.issues []) = .ok (.generated g) ∧
      g = "k-i-db-" ∧ IsLabel (g ++ "x2x4z").toList ∧ (g ++ "x2x4z").length ≤ 52 := by
  intro cluster role
  obtain ⟨g, hnaming, -, -, hlabel⟩ :=
    generated_isLabel cluster role (some { id := "db" }) rfl (by decide)
  have hword : ∀ c ∈ ("x2x4z" : String).toList, isWordChar c := List.all_eq_true.mp (by decide)
  obtain ⟨hcompleted, hlength, -⟩ := hlabel "x2x4z" rfl hword
  have hbeginning : beginning cluster role = "k-i-db-" := by decide +kernel
  have hg : .ok (.generated g) = Checked.ok (Naming.generated (beginning cluster role)) :=
    (hnaming (.issues [])).symm.trans rfl
  refine ⟨g, hnaming _, ?_, hcompleted, hlength⟩
  rw [← hbeginning]
  exact Naming.generated.inj (Checked.ok.inj hg)

end Metadata
end StatefulRoles
