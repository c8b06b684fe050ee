import StatefulRoles.Proofs.ObjectName.Words
/-!
# Names that need no change

A name that meets the rules of an object name already is left as it is, and only such a name is:
what `sanitize` makes of any name meets the rules, so to sanitize twice is to sanitize once.

Results:
* `compliant_sanitizeChars`: what is made of a name meets the rules.
* `sanitizeChars_of_compliant`: what meets the rules stays as it is.
* `sanitize_eq_self_iff`: the names that stay as they are, for every length.
-/
namespace StatefulRoles.ObjectName

variable {length : Int} {cs ds : List Char}

/-- The rules for an object name of a length at most: it is not empty, has lower-case ASCII letters,
digits and dashes, neither starts nor ends with a dash, and has no two dashes in a row. -/
structure Compliant (length : Int) (cs : List Char) : Prop extends Spaced cs where
  ne_nil : cs ≠ []
  length_le : cs.length ≤ length

/-! ## What is made of a name -/

/-- A cut that does not end in a dash leaves words with single dashes between them. -/
theorem Spaced.of_begins (h : Spaced cs) (hbegins : ds <+: cs) (hlast : ds.getLast? ≠ some '-') :
    Spaced ds where
  chars c hc := h.chars c (hbegins.subset hc)
  head hhead := h.head (Text.head?_of_begins hbegins hhead)
  last := hlast
  single hpair := h.single (hpair.trans hbegins.isInfix)

theorem compliant_sanitizeChars (h : 1 ≤ length) (name : List Char) :
    Compliant length (sanitizeChars length name) := by
  have hne : sanitizeChars length name ≠ [] := (sanitizeChars_isLabel length name).ne_nil
  refine ⟨?_, hne, length_sanitizeChars_le (by omega)⟩
  by_cases hbase : base name = []
  · rw [sanitizeChars_of_base_nil length hbase]
    refine ⟨List.all_eq_true.mp (by decide), by decide, by decide, fun hpair => ?_⟩
    exact absurd (hasPair_iff.mpr hpair) (by decide)
  · have hlongest := sanitizeChars_longest h hbase
    exact (base_spaced name).of_begins hlongest.begins hlongest.last

/-! ## What meets the rules -/

theorem isUpper_eq_false {c : Char} (h : isWordChar c || isDash c) : c.isUpper = false := by
  rcases (Bool.or_eq_true _ _).mp h with hword | hdash
  · unfold isWordChar Char.isLower Char.isDigit at hword
    unfold Char.isUpper
    grind
  · rw [isDash_iff.mp hdash]
    decide

theorem lowerChar_eq {c : Char} (h : isWordChar c || isDash c) : Text.lowerChar c = [c] := by
  have hkelvin : c ≠ '\u212a' := by
    rintro rfl
    exact absurd h (by decide)
  have hdotted : c ≠ '\u0130' := by
    rintro rfl
    exact absurd h (by decide)
  have hlow : c.toLower = c := by
    have hupper := isUpper_eq_false h
    unfold Char.isUpper at hupper
    unfold Char.toLower
    split <;> grind
  rw [Text.lowerChar, if_neg hkelvin, if_neg hdotted, hlow]

/-- Without a capital letter, a text is its own lower-case form. -/
theorem Spaced.lower_eq (h : Spaced cs) : Text.lower cs = cs := by
  have hchars : cs.map Text.lowerChar = cs.map fun c => [c] :=
    List.map_congr_left fun c hc => lowerChar_eq (h.chars c hc)
  rw [Text.lower, List.flatMap_def, hchars, ← List.flatMap_def]
  exact List.flatMap_singleton' cs

theorem Spaced.base_eq_self (h : Spaced cs) : base cs = cs := by
  rw [base_eq, h.lower_eq, h.joined_words]

theorem sanitizeChars_of_compliant (h : Compliant length cs) : sanitizeChars length cs = cs := by
  have hbase : base cs = cs := h.base_eq_self
  have hlength : 1 ≤ length := by
    have hpos := List.length_pos_iff.mpr h.ne_nil
    have hle := h.length_le
    omega
  have hlongest := sanitizeChars_longest hlength (hbase ▸ h.ne_nil)
  rw [hbase] at hlongest
  have hwhole : cs <+: sanitizeChars length cs :=
    hlongest.longest cs (List.prefix_refl cs) h.length_le h.last
  exact hlongest.begins.eq_of_length_le hwhole.length_le

/-- **The names that stay as they are.** For a positive length, what is made of a name is the name
itself exactly when the name meets the rules; everything that is made of a name meets them; so to
make it once more changes nothing. -/
theorem sanitize_eq_self_iff (length : Int) (h : 1 ≤ length) :
    (∀ name : String, sanitize name length = name ↔ Compliant length name.toList) ∧
      (∀ name : String, Compliant length (sanitize name length).toList) ∧
      ∀ name : String, sanitize (sanitize name length) length = sanitize name length := by
  have hmade (name : String) : Compliant length (sanitize name length).toList := by
    rw [sanitize, String.toList_ofList]
    exact compliant_sanitizeChars h name.toList
  have hkept {name : String} (hname : Compliant length name.toList) :
      sanitize name length = name := by
    rw [sanitize, sanitizeChars_of_compliant hname, String.ofList_toList]
  refine ⟨fun name => ⟨fun heq => ?_, hkept⟩, hmade, fun name => hkept (hmade name)⟩
  rw [← heq]
  exact hmade name

theorem sanitize_eq_self_iff_cut :
    (1 : Int) ≤ 5 ∧ sanitize "Ab--C_d" 5 = "ab-c" ∧ sanitize "ab-c" 5 = "ab-c" ∧
      Compliant 5 "ab-c".toList ∧ ¬Compliant 5 "ab--c".toList := by
  have hcut : sanitize "Ab--C_d" 5 = "ab-c" := by decide +kernel
  have hpair : sanitize "ab--c" 5 ≠ "ab--c" := by decide +kernel
  obtain ⟨hiff, hmade, hagain⟩ := sanitize_eq_self_iff 5 (by decide)
  have hstays := hagain "Ab--C_d"
  have hrules := hmade "Ab--C_d"
  rw [hcut] at hstays hrules
  exact ⟨by decide, hcut, hstays, hrules, mt (hiff "ab--c").mpr hpair⟩

end StatefulRoles.ObjectName
