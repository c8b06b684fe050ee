import Mathlib.Data.List.DropRight
import Mathlib.Logic.Function.Iterate
import StatefulRoles.Proofs.ObjectName.Label
/-!
# Object names as words

What is made of a name goes through a chain of passes over characters. Here the chain is read as
what it does to the words of the name: it keeps their letters and digits, joins them by single
dashes, and cuts the result to length.

Results:
* `collapse_eq_iterate`: the passes that merge dashes come to an end, as soon as no two dashes
  follow one another.
* `words_cleaned`, `words_collapse`, `words_trim`: no stage changes the words.
* `Spaced.joined_words`: a text of words with single dashes between them is its words, joined.
* `base_eq`: so the base of a name is the words of its lower-case form, joined.
* `longest_trimEnd`: what is left of a cut is the longest beginning that does not end in a dash.
* `sanitize_words`: all of it, for every name and every length.
-/
namespace StatefulRoles.ObjectName

variable {length : Int} {name cs ds : List Char} {c : Char}

/-! ## Words -/

/-- The characters between which a name falls into pieces. -/
def isSeparator (c : Char) : Bool := c == '-' || c == '_' || c == '.' || c == ' '

theorem isSeparator_iff : isSeparator c = true ↔ c = '-' ∨ c = '_' ∨ c = '.' ∨ c = ' ' := by
  simp [isSeparator, or_assoc]

theorem isDash_iff : isDash c = true ↔ c = '-' := beq_iff_eq

theorem isSeparator_dash : isSeparator '-' = true := rfl

theorem isSeparator_of_isDash (h : isDash c = true) : isSeparator c = true :=
  isSeparator_iff.mpr (.inl (isDash_iff.mp h))

theorem dashed_of_isSeparator (h : isSeparator c = true) : dashed c = '-' := by
  rcases isSeparator_iff.mp h with rfl | rfl | rfl | rfl <;> rfl

theorem dashed_of_not_isSeparator (h : ¬isSeparator c = true) : dashed c = c := by
  simp only [isSeparator_iff, not_or] at h
  simp [dashed, h]

theorem isNameChar_of_not_isSeparator (h : ¬isSeparator c = true) :
    isNameChar c = c.isAlphanum := by
  simp only [isSeparator_iff, not_or] at h
  simp [isNameChar, isDash, h]

theorem isAscii_of_isSeparator (h : isSeparator c = true) : c.isAscii = true := by
  rcases isSeparator_iff.mp h with rfl | rfl | rfl | rfl <;> decide

theorem isSeparator_of_isAlphanum (h : c.isAlphanum = true) : isSeparator c = false := by
  by_contra hsep
  rcases isSeparator_iff.mp (Bool.not_eq_false _ ▸ hsep) with rfl | rfl | rfl | rfl <;>
    exact absurd h (by decide)

theorem isAscii_of_isAlphanum (h : c.isAlphanum = true) : c.isAscii = true := by
  unfold Char.isAlphanum Char.isAlpha Char.isUpper Char.isLower Char.isDigit at h
  simp only [Bool.or_eq_true, Bool.and_eq_true, decide_eq_true_eq, ge_iff_le,
    UInt32.le_iff_toNat_le] at h
  unfold Char.isAscii
  rw [decide_eq_true_eq]
  have hz : ('z' : Char).val.toNat = 122 := rfl
  have hZ : ('Z' : Char).val.toNat = 90 := rfl
  have h9 : ('9' : Char).val.toNat = 57 := rfl
  show c.val.toNat < 128
  omega

/-- What is left of the pieces of a text between its separators: their ASCII letters and digits. -/
def pieces (cs : List Char) : List (List Char) :=
  (cs.splitOnP isSeparator).map (·.filter Char.isAlphanum)

/-- The words of a text: the pieces of which something is left. -/
def words (cs : List Char) : List (List Char) := (pieces cs).filter (· ≠ [])

/-- Words joined by single dashes. -/
def joined (ws : List (List Char)) : List Char := ['-'].intercalate ws

theorem pieces_cons (c : Char) (cs : List Char) : pieces (c :: cs) =
    if isSeparator c then [] :: pieces cs
    else if c.isAlphanum then (pieces cs).modifyHead (c :: ·) else pieces cs := by
  unfold pieces
  rw [List.splitOnP_cons_eq_if_modifyHead]
  obtain ⟨w, ws, hws⟩ := List.exists_cons_of_ne_nil (List.splitOnP_ne_nil isSeparator cs)
  rw [hws]
  by_cases hsep : isSeparator c = true
  · simp [hsep]
  · by_cases halnum : c.isAlphanum = true <;> simp [hsep, halnum]

theorem pieces_append (hc : isSeparator c = true) (cs ds : List Char) :
    pieces (cs ++ c :: ds) = pieces cs ++ pieces ds := by
  rw [pieces, List.splitOnP_append_cons cs ds hc, List.map_append]
  rfl

theorem words_append (hc : isSeparator c = true) (cs ds : List Char) :
    words (cs ++ c :: ds) = words cs ++ words ds := by
  rw [words, pieces_append hc, List.filter_append]
  rfl

/-- A separator in front belongs to no word. -/
theorem words_cons (hc : isSeparator c = true) (cs : List Char) : words (c :: cs) = words cs :=
  words_append hc [] cs

/-- A text of letters and digits is one word. -/
theorem words_of_alphanum (hne : cs ≠ []) (h : ∀ c ∈ cs, c.isAlphanum = true) :
    words cs = [cs] := by
  have hnone : ∀ c ∈ cs, isSeparator c = false := fun c hc => isSeparator_of_isAlphanum (h c hc)
  rw [words, pieces, List.splitOnP_eq_singleton hnone, List.map_singleton,
    List.filter_eq_self.mpr h]
  simp [hne]

theorem joined_cons (w : List Char) {ws : List (List Char)} (h : ws ≠ []) :
    joined (w :: ws) = w ++ '-' :: joined ws := by
  obtain ⟨v, vs, rfl⟩ := List.exists_cons_of_ne_nil h
  rw [joined, joined, List.intercalate_cons_cons, List.append_assoc]
  rfl

/-! ## The stages keep the words -/

theorem pieces_cleaned (cs : List Char) :
    pieces ((cs.map dashed).filter isNameChar) = pieces cs := by
  induction cs with
  | nil => rfl
  | cons c cs ih =>
    rw [pieces_cons c cs, List.map_cons, List.filter_cons]
    by_cases hsep : isSeparator c = true
    · have hname : isNameChar '-' = true := rfl
      rw [dashed_of_isSeparator hsep, if_pos hname, pieces_cons, if_pos isSeparator_dash,
        if_pos hsep, ih]
    · rw [dashed_of_not_isSeparator hsep, isNameChar_of_not_isSeparator hsep, if_neg hsep]
      split
      · rename_i halnum
        rw [pieces_cons, if_neg hsep, if_pos halnum, ih]
      · exact ih

/-- Mapping the separators to dashes and dropping what is no character of a name. -/
theorem words_cleaned (cs : List Char) : words ((cs.map dashed).filter isNameChar) = words cs := by
  rw [words, words, pieces_cleaned]

theorem pieces_ascii (cs : List Char) : pieces (cs.filter Char.isAscii) = pieces cs := by
  induction cs with
  | nil => rfl
  | cons c cs ih =>
    rw [List.filter_cons, pieces_cons c cs]
    by_cases hascii : c.isAscii = true
    · rw [if_pos hascii, pieces_cons, ih]
    · rw [if_neg hascii, if_neg (mt isAscii_of_isSeparator hascii),
        if_neg (mt isAscii_of_isAlphanum hascii), ih]

/-- Characters beyond ASCII belong to no word. -/
theorem words_ascii (cs : List Char) : words (cs.filter Char.isAscii) = words cs := by
  rw [words, words, pieces_ascii]

/-- A pass merges two dashes with no word between them. -/
theorem words_mergePairs (cs ds : List Char) : words (ds ++ mergePairs cs) = words (ds ++ cs) := by
  fun_induction mergePairs cs generalizing ds with
  | case1 => rfl
  | case2 c => rfl
  | case3 c d cs hpair ih =>
    rw [Bool.and_eq_true, isDash_iff, isDash_iff] at hpair
    obtain ⟨rfl, rfl⟩ := hpair
    calc words (ds ++ '-' :: mergePairs cs)
        = words (ds ++ ['-'] ++ mergePairs cs) := by rw [List.append_assoc]; rfl
      _ = words (ds ++ ['-'] ++ cs) := ih (ds ++ ['-'])
      _ = words (ds ++ '-' :: cs) := by rw [List.append_assoc]; rfl
      _ = words ds ++ words ('-' :: cs) := by
          rw [words_append isSeparator_dash, words_cons isSeparator_dash]
      _ = words (ds ++ '-' :: '-' :: cs) := (words_append isSeparator_dash _ _).symm
  | case4 c d cs _ ih =>
    have h := ih (ds ++ [c])
    rwa [List.append_assoc, List.append_assoc] at h

theorem words_collapse (cs : List Char) : words (collapse cs) = words cs := by
  fun_induction collapse cs with
  | case1 cs _ ih => rw [ih]; exact words_mergePairs cs []
  | case2 cs _ => rfl

theorem words_dropWhile (cs : List Char) : words (cs.dropWhile isDash) = words cs := by
  induction cs with
  | nil => rfl
  | cons c cs ih =>
    rw [List.dropWhile_cons]
    split
    · rename_i hdash
      rw [ih, words_cons (isSeparator_of_isDash hdash)]
    · rfl

theorem words_trimEnd (cs : List Char) : words (Text.trimEnd isDash cs) = words cs := by
  induction cs using List.reverseRecOn with
  | nil => rfl
  | append_singleton cs c ih =>
    rw [Text.trimEnd_concat]
    split
    · rename_i hdash
      rw [ih, words_append (isSeparator_of_isDash hdash)]
      exact (List.append_nil _).symm
    · rfl

/-- Dashes outside belong to no word. -/
theorem words_trim (cs : List Char) : words (Text.trim isDash cs) = words cs := by
  rw [Text.trim, words_trimEnd, words_dropWhile]

/-! ## The merging of dashes -/

theorem hasPair_iff : hasPair cs = true ↔ ['-', '-'] <:+: cs := by
  fun_induction hasPair cs with
  | case1 => simp
  | case2 c => simp [List.infix_cons_iff]
  | case3 c d cs ih =>
    have hcons : ['-', '-'] <:+: c :: d :: cs ↔ (c = '-' ∧ d = '-') ∨ ['-', '-'] <:+: d :: cs := by
      rw [List.infix_cons_iff]
      simp [List.cons_prefix_cons, eq_comm]
    rw [hcons, Bool.or_eq_true, Bool.and_eq_true, isDash_iff, isDash_iff, ih]

theorem hasPair_collapse (cs : List Char) : hasPair (collapse cs) = false := by
  fun_induction collapse cs with
  | case1 cs _ ih => exact ih
  | case2 cs hnot => exact Bool.eq_false_iff.mpr hnot

/-- The merging comes to an end, and makes no pass more than it has to. -/
theorem collapse_eq_iterate (cs : List Char) : ∃ n, collapse cs = mergePairs^[n] cs ∧
    hasPair (mergePairs^[n] cs) = false ∧ ∀ m < n, hasPair (mergePairs^[m] cs) = true := by
  fun_induction collapse cs with
  | case1 cs hpair ih =>
    obtain ⟨n, heq, hend, hbefore⟩ := ih
    refine ⟨n + 1, heq, hend, fun m hm => ?_⟩
    cases m with
    | zero => exact hpair
    | succ m => exact hbefore m (by omega)
  | case2 cs hnot => exact ⟨0, rfl, Bool.eq_false_iff.mpr hnot, fun m hm => absurd hm (by omega)⟩

/-! ## Words with single dashes between them -/

/-- Words over lower-case letters and digits with single dashes between them, and no dash before the
first or behind the last. -/
structure Spaced (cs : List Char) : Prop where
  chars : ∀ c ∈ cs, isWordChar c || isDash c
  head : cs.head? ≠ some '-'
  last : cs.getLast? ≠ some '-'
  single : ¬['-', '-'] <:+: cs

/-- Behind a dash there is such a text again. -/
theorem Spaced.rest (h : Spaced (ds ++ '-' :: cs)) : cs ≠ [] ∧ Spaced cs := by
  have hne : cs ≠ [] := by
    rintro rfl
    exact h.last (by simp)
  refine ⟨hne, fun c hc => h.chars c (by simp [hc]), fun hhead => ?_, fun hlast => ?_,
    fun hpair => ?_⟩
  · obtain ⟨d, rest, rfl⟩ := List.exists_cons_of_ne_nil hne
    cases hhead
    exact h.single ⟨ds, rest, by simp⟩
  · apply h.last
    rw [List.getLast?_append_cons, List.getLast?_cons_of_ne_nil hne, hlast]
  · exact h.single (hpair.trans ⟨ds ++ ['-'], [], by simp⟩)

theorem isAlphanum_of_isWordChar (h : isWordChar c = true) : c.isAlphanum = true := by
  have halnum : c.isAlphanum = (c.isUpper || c.isLower || c.isDigit) := rfl
  rw [halnum, Bool.or_assoc]
  exact Bool.or_eq_true _ _ ▸ .inr h

/-- Such a text is its words, joined. -/
theorem Spaced.joined_words (h : Spaced cs) : joined (words cs) = cs := by
  -- by the number of characters: what stands behind the first dash is such a text again
  induction hn : cs.length using Nat.strongRecOn generalizing cs with
  | ind n ih =>
    have hword {ds : List Char} (hds : ds ⊆ cs) (hdash : '-' ∉ ds) :
        ∀ c ∈ ds, c.isAlphanum = true := by
      intro c hc
      rcases Bool.or_eq_true _ _ ▸ h.chars c (hds hc) with hw | hd
      · exact isAlphanum_of_isWordChar hw
      · exact absurd (isDash_iff.mp hd ▸ hc) hdash
    by_cases hdash : '-' ∈ cs
    · obtain ⟨w, rest, rfl, hw⟩ := List.eq_append_cons_of_mem hdash
      obtain ⟨hrest, hspaced⟩ := h.rest
      have hfirst : w ≠ [] := by
        rintro rfl
        exact h.head rfl
      rw [List.length_append, List.length_cons] at hn
      have hjoined := ih rest.length (by omega) hspaced rfl
      have hwords : words rest ≠ [] := by
        intro hnil
        rw [hnil] at hjoined
        exact hrest hjoined.symm
      calc joined (words (w ++ '-' :: rest))
          = joined (words w ++ words rest) := by rw [words_append isSeparator_dash]
        _ = joined (w :: words rest) := by
            rw [words_of_alphanum hfirst (hword (List.subset_append_left _ _) hw)]
            rfl
        _ = w ++ '-' :: joined (words rest) := joined_cons w hwords
        _ = w ++ '-' :: rest := by rw [hjoined]
    · by_cases hnil : cs = []
      · rw [hnil]
        rfl
      · rw [words_of_alphanum hnil (hword (List.Subset.refl _) hdash)]
        exact List.intercalate_singleton

theorem base_spaced (name : List Char) : Spaced (base name) := by
  refine ⟨fun c => base_chars, fun hhead => ?_, fun hlast => ?_, fun hpair => ?_⟩
  · exact absurd (Text.head?_trim hhead) (by decide)
  · exact absurd (Text.getLast?_trimEnd hlast) (by decide)
  · have hinfix : base name <:+: collapse (((Text.lower name).map dashed).filter isNameChar) :=
      (Text.trimEnd_begins isDash _).isInfix.trans (List.dropWhile_suffix isDash).isInfix
    have hnone := hasPair_collapse (((Text.lower name).map dashed).filter isNameChar)
    rw [hasPair_iff.mpr (hpair.trans hinfix)] at hnone
    cases hnone

/-- The base of a name is the words of its lower-case form, joined. -/
theorem base_eq (name : List Char) : base name = joined (words (Text.lower name)) :=
  calc base name = joined (words (base name)) := (base_spaced name).joined_words.symm
    _ = joined (words (Text.lower name)) := by
        rw [base, words_trim, words_collapse, words_cleaned]

/-! ## The cut -/

theorem cut_eq (length : Int) (cs : List Char) :
    cut length cs = cs.take (if 0 ≤ length then length else cs.length + length).toNat := by
  unfold cut
  split
  · rfl
  · congr 1
    omega

theorem sanitizeChars_eq (length : Int) (name : List Char) :
    sanitizeChars length name =
      if Text.trimEnd isDash (cut length (base name)) = [] then ['x']
      else Text.trimEnd isDash (cut length (base name)) := by
  unfold sanitizeChars
  split <;> simp_all

/-- A beginning of a text, up to a length, that does not end in a dash, and the longest one. -/
structure IsLongest (full : List Char) (length : Int) (cs : List Char) : Prop where
  begins : cs <+: full
  length_le : cs.length ≤ length
  last : cs.getLast? ≠ some '-'
  longest : ∀ ds, ds <+: full → ds.length ≤ length → ds.getLast? ≠ some '-' → ds <+: cs

theorem begins_trimEnd (h : ds <+: cs) (hlast : ds.getLast? ≠ some '-') :
    ds <+: Text.trimEnd isDash cs := by
  induction cs using List.reverseRecOn with
  | nil => exact h
  | append_singleton cs c ih =>
    rw [Text.trimEnd_concat]
    split
    · rename_i hdash
      rcases List.prefix_concat_iff.mp h with rfl | h
      · rw [isDash_iff.mp hdash] at hlast
        exact absurd List.getLast?_concat hlast
      · exact ih h
    · exact h

/-- Cutting a text and dropping the dashes at its end leaves the longest such beginning. -/
theorem longest_trimEnd (h : 0 ≤ length) (full : List Char) :
    IsLongest full length (Text.trimEnd isDash (cut length full)) := by
  have hcut : cut length full = full.take length.toNat := if_pos h
  have htrim := Text.trimEnd_begins isDash (cut length full)
  refine ⟨htrim.trans (cut_begins length full), ?_, fun hlast => ?_, fun ds hds hle hlast => ?_⟩
  · have hle := htrim.length_le
    rw [hcut] at hle
    have htake := List.length_take_le length.toNat full
    rw [hcut]
    omega
  · exact absurd (Text.getLast?_trimEnd hlast) (by decide)
  · rw [hcut]
    exact begins_trimEnd (List.prefix_take_iff.mpr ⟨hds, by omega⟩) hlast

/-- So does what is made of a name of which something is left. -/
theorem sanitizeChars_longest (h : 1 ≤ length) (hbase : base name ≠ []) :
    IsLongest (base name) length (sanitizeChars length name) := by
  have hlongest := longest_trimEnd (by omega : 0 ≤ length) (base name)
  have hne : Text.trimEnd isDash (cut length (base name)) ≠ [] := by
    -- the first character is there at least
    obtain ⟨c, rest, hcons⟩ := List.exists_cons_of_ne_nil hbase
    have hhead := (base_spaced name).head
    rw [hcons, List.head?_cons] at hhead
    have hfirst : [c] <+: Text.trimEnd isDash (cut length (base name)) :=
      hlongest.longest [c] (by simp [hcons]) (by simpa using h) (by simpa using hhead)
    rintro hnil
    simp [hnil] at hfirst
  rwa [sanitizeChars_eq, if_neg hne]

theorem sanitizeChars_of_base_nil (length : Int) (h : base name = []) :
    sanitizeChars length name = ['x'] := by
  have hcut : cut length ([] : List Char) = [] := by simp [cut]
  rw [sanitizeChars_eq, h, hcut]
  rfl

/-- A longer cut goes on where a shorter one ends. -/
theorem sanitizeChars_begins {k k' : Int} (hk : 1 ≤ k) (hle : k ≤ k') (name : List Char) :
    sanitizeChars k name <+: sanitizeChars k' name := by
  by_cases hbase : base name = []
  · have hsame : sanitizeChars k name = sanitizeChars k' name := by
      rw [sanitizeChars_of_base_nil k hbase, sanitizeChars_of_base_nil k' hbase]
    exact hsame ▸ List.prefix_refl _
  · have hshort := sanitizeChars_longest hk hbase
    have hlong := sanitizeChars_longest (by omega : 1 ≤ k') hbase
    exact hlong.longest _ hshort.begins (Int.le_trans hshort.length_le hle) hshort.last

/-- **What is made of a name.** Let `full` be the words of the lower-case name, joined by single
dashes; characters beyond ASCII, and so their lower-case forms, make no difference to it. The merging
of dashes ends on every text. The result is a cut of `full` less the dashes at its end, or `x` if
nothing is left. For a positive length and a name with words it is the longest such beginning of
`full`, and the result for a longer length begins with the result for a shorter one. -/
theorem sanitize_words (name : String) :
    let full := joined (words (Text.lower name.toList))
    (∀ lowered : List Char,
      lowered.filter Char.isAscii = (Text.lower name.toList).filter Char.isAscii →
        joined (words lowered) = full) ∧
      (∀ cs, ∃ n, collapse cs = mergePairs^[n] cs ∧ hasPair (mergePairs^[n] cs) = false ∧
        ∀ m < n, hasPair (mergePairs^[m] cs) = true) ∧
      (∀ length : Int,
        let kept := (full.take (if 0 ≤ length then length else full.length + length).toNat).rdropWhile
          (· == '-')
        (sanitize name length).toList = if kept = [] then ['x'] else kept) ∧
      (∀ length : Int, 1 ≤ length → full ≠ [] →
        IsLongest full length (sanitize name length).toList) ∧
      ∀ k k' : Int, 1 ≤ k → k ≤ k' → (sanitize name k).toList <+: (sanitize name k').toList := by
  intro full
  have hfull : base name.toList = full := base_eq name.toList
  have hchars (length : Int) : (sanitize name length).toList = sanitizeChars length name.toList :=
    String.toList_ofList
  refine ⟨fun lowered hascii => ?_, collapse_eq_iterate, fun length => ?_,
    fun length hlength hne => ?_, fun k k' hk hle => ?_⟩
  · rw [← words_ascii lowered, hascii, words_ascii]
  · rw [hchars, sanitizeChars_eq, hfull, cut_eq]
    rfl
  · rw [hchars, ← hfull]
    exact sanitizeChars_longest hlength (hfull ▸ hne)
  · rw [hchars, hchars]
    exact sanitizeChars_begins hk hle name.toList

theorem sanitize_words_kelvin :
    "ä_k..i\u0307 b".toList.filter Char.isAscii =
        (Text.lower "Ä_\u212a..\u0130 b".toList).filter Char.isAscii ∧
      joined (words "ä_k..i\u0307 b".toList) = "k-i-b".toList ∧
      IsLongest "k-i-b".toList 2 (sanitize "Ä_\u212a..\u0130 b" 2).toList ∧
      sanitize "Ä_\u212a..\u0130 b" 2 = "k" ∧ sanitize "Ä_\u212a..\u0130 b" (-1) = "k-i" ∧
      "k".toList <+: "k-i".toList := by
  have hascii : "ä_k..i\u0307 b".toList.filter Char.isAscii =
      (Text.lower "Ä_\u212a..\u0130 b".toList).filter Char.isAscii := by decide +kernel
  have hfull : joined (words (Text.lower "Ä_\u212a..\u0130 b".toList)) = "k-i-b".toList := by
    decide +kernel
  have hshort : sanitize "Ä_\u212a..\u0130 b" 2 = "k" := by decide +kernel
  have hlong : sanitize "Ä_\u212a..\u0130 b" 3 = "k-i" := by decide +kernel
  have hback : sanitize "Ä_\u212a..\u0130 b" (-1) = "k-i" := by decide +kernel
  obtain ⟨hlowered, -, -, hlongest, hbegins⟩ := sanitize_words "Ä_\u212a..\u0130 b"
  rw [hfull] at hlowered hlongest
  have hprefix := hbegins 2 3 (by decide) (by decide)
  rw [hshort, hlong] at hprefix
  exact ⟨hascii, hlowered _ hascii, hlongest 2 (by decide) (by decide), hshort, hback, hprefix⟩

end StatefulRoles.ObjectName
