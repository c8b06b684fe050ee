import Mathlib.Algebra.Order.Field.Power
import Mathlib.Algebra.Order.Field.Rat
import Mathlib.Data.List.Induction
import Mathlib.Data.List.TakeWhile
import Mathlib.Data.Nat.Digits.Defs
import Mathlib.Tactic.NormNum
import StatefulRoles.Number.Decimal
/-!
# Which decimal numbers are zero

A literal is zero if all the digits before its exponent are. Rounding keeps that: it makes nothing
of zero, and zero only of what lies below the least place.

Results:
* `ofChars_digits`: a finite literal has the digits of its mantissa. Blanks around it, the sign,
  the point, underscores and the script of the digits take no part.
* `round_eq_ok`, `kept_zero`, `kept_ne_zero`: what rounding leaves of a number, and when that is
  zero.
-/
namespace StatefulRoles

/-! ## Digits of a text -/

namespace Text

theorem isDigit_bounds {c : Char} (h : c.isDigit = true) : 48 ≤ c.toNat ∧ c.toNat ≤ 57 := by
  simpa [Char.isDigit, UInt32.le_iff_toNat_le] using h

theorem toLower_eq_self {c : Char} (h : c.toNat < 65 ∨ 90 < c.toNat) : c.toLower = c := by
  unfold Char.toLower
  split
  · next upper =>
    have : 65 ≤ c.toNat ∧ c.toNat ≤ 90 := upper
    omega
  · rfl

theorem toLower_ne_of_isDigit {c : Char} (h : c.isDigit = true) : c.toLower ≠ 'e' := by
  rw [toLower_eq_self (.inl (by have := isDigit_bounds h; omega))]
  rintro rfl
  exact absurd h (by decide)

theorem digitValue?_of_isDigit {c : Char} (h : c.isDigit = true) :
    digitValue? c = some (c.toNat - 48) := by
  have here : (48 ≤ c.toNat && c.toNat < 48 + 10) = true := by
    have := isDigit_bounds h
    simp only [Bool.and_eq_true, decide_eq_true_eq]
    omega
  simp [digitValue?, zeros, here]

theorem digitValue?_lt {c : Char} {n : Nat} (h : digitValue? c = some n) : n < 10 := by
  obtain ⟨first, found, rfl⟩ := Option.map_eq_some_iff.mp h
  have := List.find?_some found
  simp only [Bool.and_eq_true, decide_eq_true_eq] at this
  omega

theorem digitValue?_digitChar {n : Nat} (h : n < 10) : digitValue? n.digitChar = some n := by
  revert n; decide

theorem toLower_digitChar {n : Nat} (h : n < 10) : n.digitChar.toLower ≠ 'e' := by
  revert n; decide

theorem natOfDigits_eq_ofDigits (cs : List Char) (h : ∀ c ∈ cs, c.isDigit = true) :
    natOfDigits cs = Nat.ofDigits 10 (cs.filterMap digitValue?).reverse := by
  induction cs using List.reverseRecOn with
  | nil => rfl
  | append_singleton cs c ih =>
    have front : ∀ d ∈ cs, d.isDigit = true := fun d hd => h d (by simp [hd])
    have last := digitValue?_of_isDigit (h c (by simp))
    have grown : natOfDigits (cs ++ [c]) = natOfDigits cs * 10 + (c.toNat - 48) := by
      simp [natOfDigits]
    simp only [grown, ih front, List.filterMap_append, List.filterMap_cons, last,
      List.filterMap_nil, List.reverse_append, List.reverse_cons, List.reverse_nil,
      List.nil_append, List.singleton_append, Nat.ofDigits_cons]
    omega

theorem lt_pow_digitCount (n : Nat) : n < 10 ^ digitCount n :=
  (Nat.length_toDigits_le_iff (by decide) Nat.length_toDigits_pos).mp le_rfl

theorem pow_le_of_lt_digitCount {n k : Nat} (hn : n ≠ 0) (h : k < digitCount n) : 10 ^ k ≤ n := by
  rcases Nat.eq_zero_or_pos k with rfl | pos
  · rw [Nat.pow_zero]
    exact Nat.one_le_iff_ne_zero.mpr hn
  · by_contra lt
    exact absurd ((Nat.length_toDigits_le_iff (by decide) pos).mpr (not_le.mp lt)) (not_le.mpr h)

/-- The code points of the spacing characters. -/
def spacings : List Nat :=
  List.range' 9 5 ++ List.range' 0x1c 5 ++ [0x85, 0xa0, 0x1680] ++ List.range' 0x2000 11 ++
    [0x2028, 0x2029, 0x202f, 0x205f, 0x3000]

theorem mem_spacings {c : Char} (h : isSpacing c = true) : c.toNat ∈ spacings := by
  simp only [isSpacing, isWhiteSpace, Bool.or_eq_true, Bool.and_eq_true, decide_eq_true_eq,
    beq_iff_eq] at h
  simp only [spacings, List.mem_append, List.mem_range'_1, List.mem_cons, List.not_mem_nil]
  omega

end Text

theorem Number.roundDiv_zero {den : Nat} (h : 0 < den) : Number.roundDiv 0 den = 0 := by
  simp [Number.roundDiv, h]

theorem Number.roundDiv_pos {num den : Nat} (h : 0 < den) (le : den ≤ num) :
    0 < Number.roundDiv num den := by
  have := Nat.div_pos le h
  unfold Number.roundDiv
  grind

namespace Decimal

open Text

/-! ## The mantissa of a literal -/

/-- The digits that a literal has before its exponent, whatever script writes them. -/
def mantissa (number : List Char) : List Nat :=
  (number.takeWhile fun c => c.toLower ≠ 'e').filterMap digitValue?

theorem mantissa_append {xs : List Char} (ys : List Char) (h : ∀ c ∈ xs, c.toLower ≠ 'e') :
    mantissa (xs ++ ys) = xs.filterMap digitValue? ++ mantissa ys := by
  rw [mantissa, List.takeWhile_append_of_pos (by simpa using h), List.filterMap_append, mantissa]

theorem mantissa_cons {c : Char} (cs : List Char) (h : c.toLower ≠ 'e') :
    mantissa (c :: cs) = (digitValue? c).toList ++ mantissa cs := by
  rw [← List.singleton_append, mantissa_append cs (by simpa using h)]
  cases hc : digitValue? c <;> simp [hc]

theorem mantissa_mark {c : Char} (cs : List Char) (h : c.toLower = 'e') :
    mantissa (c :: cs) = [] := by
  simp [mantissa, h]

/-- A run of ASCII digits, then what follows it. -/
theorem mantissa_digits (cs : List Char) :
    mantissa cs = (cs.takeWhile Char.isDigit).filterMap digitValue? ++
      mantissa (cs.dropWhile Char.isDigit) := by
  conv_lhs => rw [← List.takeWhile_append_dropWhile (p := Char.isDigit) (l := cs)]
  exact mantissa_append _ fun c hc => toLower_ne_of_isDigit (List.mem_takeWhile_imp hc)

/-- A character that is no digit and does not open the exponent. -/
def Silent (c : Char) : Prop := digitValue? c = none ∧ c.toLower ≠ 'e'

instance : DecidablePred Silent := fun _ => inferInstanceAs (Decidable (_ ∧ _))

theorem silent_of_isSpacing {c : Char} (h : isSpacing c = true) : Silent c := by
  have all : ∀ n ∈ spacings, Silent (Char.ofNat n) := by decide
  simpa using all _ (mem_spacings h)

theorem mantissa_silent {c : Char} (cs : List Char) (h : Silent c) :
    mantissa (c :: cs) = mantissa cs := by
  simp [mantissa_cons cs h.2, h.1]

/-- The characters of a literal that are not silent. -/
def loud (cs : List Char) : List Char := cs.filter fun c => ¬ Silent c

/-- The mantissa of a literal is settled by the characters that are not silent. -/
theorem mantissa_loud (cs : List Char) : mantissa (loud cs) = mantissa cs := by
  induction cs with
  | nil => rfl
  | cons c cs ih =>
    by_cases hc : Silent c
    · rw [mantissa_silent cs hc, ← ih, loud, List.filter_cons_of_neg (by simpa using hc), loud]
    · rw [loud, List.filter_cons_of_pos (by simpa using hc), ← loud]
      by_cases mark : c.toLower = 'e'
      · rw [mantissa_mark _ mark, mantissa_mark _ mark]
      · rw [mantissa_cons _ mark, mantissa_cons _ mark, ih]

theorem loud_dropWhile {p : Char → Bool} (h : ∀ c, p c = true → Silent c) (cs : List Char) :
    loud (cs.dropWhile p) = loud cs := by
  induction cs with
  | nil => rfl
  | cons c cs ih =>
    cases hp : p c with
    | false => rw [List.dropWhile_cons_of_neg (by simp [hp])]
    | true =>
      rw [List.dropWhile_cons_of_pos hp, ih, loud, loud,
        List.filter_cons_of_neg (by simpa using h c hp)]

theorem loud_trim {p : Char → Bool} (h : ∀ c, p c = true → Silent c) (cs : List Char) :
    loud (trim p cs) = loud cs := by
  have reverse (xs : List Char) : loud xs.reverse = (loud xs).reverse := List.filter_reverse
  rw [trim, trimEnd, reverse, loud_dropWhile h, reverse, List.reverse_reverse, loud_dropWhile h]

theorem loud_underscores (cs : List Char) : loud (cs.filter (· ≠ '_')) = loud cs := by
  rw [loud, List.filter_filter]
  refine List.filter_congr fun c _ => ?_
  by_cases hc : c = '_'
  · rw [hc]
    decide
  · simp [hc]

/-- Characters may be replaced by ones of the same value. -/
theorem mantissa_mapM {f : Char → Option Char}
    (h : ∀ c d, f c = some d → digitValue? d = digitValue? c ∧ (d.toLower = 'e' ↔ c.toLower = 'e'))
    {cs ds : List Char} (read : cs.mapM f = some ds) : mantissa ds = mantissa cs := by
  induction cs generalizing ds with
  | nil => cases read; rfl
  | cons c cs ih =>
    simp only [List.mapM_cons, Option.bind_eq_bind, Option.bind_eq_some_iff] at read
    obtain ⟨d, hd, es, hes, eq⟩ := read
    cases eq
    obtain ⟨same, mark⟩ := h c d hd
    by_cases opens : c.toLower = 'e'
    · rw [mantissa_mark _ opens, mantissa_mark _ (mark.mpr opens)]
    · rw [mantissa_cons _ opens, mantissa_cons _ fun o => opens (mark.mp o), same, ih hes]

theorem mantissa_plain {cs ds : List Char} (h : plain? cs = some ds) :
    mantissa ds = mantissa cs := by
  have same : mantissa ds = mantissa ((trim isSpacing cs).filter (· ≠ '_')) := by
    refine mantissa_mapM (fun c d hd => ?_) h
    split at hd
    · cases hd
      exact ⟨rfl, Iff.rfl⟩
    · next beyond =>
      obtain ⟨n, hn, rfl⟩ := Option.map_eq_some_iff.mp hd
      have small := digitValue?_lt hn
      refine ⟨by rw [digitValue?_digitChar small, hn], iff_of_false (toLower_digitChar small) ?_⟩
      rw [toLower_eq_self (.inr (by omega))]
      rintro rfl
      exact beyond (by decide)
  rw [same, ← mantissa_loud, loud_underscores, loud_trim fun _ => silent_of_isSpacing,
    mantissa_loud]

theorem mantissa_takeSign (cs : List Char) : mantissa (takeSign cs).2 = mantissa cs := by
  unfold takeSign
  split
  · exact (mantissa_silent _ (by decide)).symm
  · exact (mantissa_silent _ (by decide)).symm
  · rfl

theorem mantissa_exponent {cs : List Char} {e : Int} (h : exponent? cs = some e) :
    mantissa cs = [] := by
  cases cs with
  | nil => rfl
  | cons mark cs =>
    obtain ⟨hmark, -⟩ := Option.ite_none_right_eq_some.mp h
    simp only [Bool.and_eq_true, decide_eq_true_eq] at hmark
    exact mantissa_mark _ hmark.1.1

theorem magnitude_digits {cs : List Char} {digits : Nat} {exponent : Int}
    (h : magnitude? cs = some (digits, exponent)) :
    digits = Nat.ofDigits 10 (mantissa cs).reverse := by
  have ascii (xs : List Char) : ∀ c ∈ xs.takeWhile Char.isDigit, c.isDigit = true :=
    fun c hc => List.mem_takeWhile_imp hc
  simp only [magnitude?] at h
  rw [mantissa_digits cs]
  generalize cs.dropWhile Char.isDigit = after at h ⊢
  split at h
  -- With a point, and then without one.
  · next _ rest =>
    obtain ⟨-, h⟩ := Option.ite_none_left_eq_some.mp h
    obtain ⟨e, he, eq⟩ := Option.map_eq_some_iff.mp h
    cases eq
    rw [mantissa_silent _ (by decide), mantissa_digits rest, mantissa_exponent he,
      List.append_nil, ← List.filterMap_append]
    exact natOfDigits_eq_ofDigits _ fun c hc => (List.mem_append.mp hc).elim (ascii _ c) (ascii _ c)
  · obtain ⟨-, h⟩ := Option.ite_none_left_eq_some.mp h
    obtain ⟨e, he, eq⟩ := Option.map_eq_some_iff.mp h
    cases eq
    rw [mantissa_exponent he, List.append_nil, List.append_nil]
    exact natOfDigits_eq_ofDigits _ (ascii cs)

/-- The digits of a finite literal are those of its mantissa, the first one leading. -/
theorem ofChars_digits {cs : List Char} {negative : Bool} {digits : Nat} {exponent : Int}
    (h : ofChars? cs = some (.finite negative digits exponent)) :
    digits = Nat.ofDigits 10 (mantissa cs).reverse := by
  simp only [ofChars?, Option.bind_eq_bind, Option.bind_eq_some_iff] at h
  obtain ⟨ds, plain, h⟩ := h
  have read : magnitude? (takeSign ds).2 = some (digits, exponent) := by
    split at h
    · cases h
    · split at h
      · split at h <;> cases h
      · split at h <;> cases h
      · obtain ⟨found, magnitude, h⟩ := Option.bind_eq_some_iff.mp h
        split at h
        · cases h
          exact magnitude
        · cases h
  rw [← mantissa_plain plain, ← mantissa_takeSign ds]
  exact magnitude_digits read

example : ofChars? " 1_0.50e3 ".toList = some (.finite false 1050 1) := by decide +kernel

theorem ofDigits_eq_zero {ds : List Nat} : Nat.ofDigits 10 ds.reverse = 0 ↔ ∀ d ∈ ds, d = 0 := by
  constructor
  · intro h d hd
    exact Nat.digits_zero_of_eq_zero (by decide) h d (List.mem_reverse.mpr hd)
  · intro h
    rw [List.eq_replicate_of_mem h, List.reverse_replicate, Nat.ofDigits_replicate_zero]

/-! ## Rounding -/

/-- The number that digits and an exponent write, without its sign. -/
def absValue (digits : Nat) (exponent : Int) : ℚ := digits * 10 ^ exponent

/-- How many digits rounding drops. -/
def dropped (digits : Nat) (exponent : Int) : Nat :=
  (max minExponent (exponent + digitCount digits - precision) - exponent).toNat

/-- The digits that rounding leaves. -/
def kept (digits : Nat) (exponent : Int) : Nat :=
  if (digitCount digits : Int) < dropped digits exponent then 0
  else Number.roundDiv digits (Nat.pow 10 (dropped digits exponent))

theorem round_eq_ok {negative : Bool} {digits : Nat} {exponent : Int} {x : Decimal}
    (h : round negative digits exponent = .ok x) :
    x = .finite negative (kept digits exponent) (exponent + dropped digits exponent) := by
  have eq : round negative digits exponent =
      if kept digits exponent ≠ 0 ∧ maxExponent < exponent + dropped digits exponent +
        digitCount (kept digits exponent) - 1 then .error .overflow
      else .ok (.finite negative (kept digits exponent) (exponent + dropped digits exponent)) := rfl
  rw [eq] at h
  split at h
  · cases h
  · cases h; rfl

example : (round false 15 (-1000027)).toOption = some (.finite false 2 (-1000026)) := by
  decide +kernel

theorem kept_zero (exponent : Int) : kept 0 exponent = 0 := by
  unfold kept
  split
  · rfl
  · exact Number.roundDiv_zero (Nat.pow_pos (by decide))

theorem pow_dropped_le {digits : Nat} {exponent : Int} (hd : digits ≠ 0)
    (large : (10 : ℚ) ^ minExponent ≤ absValue digits exponent) :
    10 ^ dropped digits exponent ≤ digits := by
  have count : 0 < digitCount digits := Nat.length_toDigits_pos
  by_cases few : dropped digits exponent < digitCount digits
  · exact pow_le_of_lt_digitCount hd few
  · -- The precision alone leaves some digits, so it is the least exponent that sets the place.
    have place : (dropped digits exponent : ℤ) = minExponent - exponent := by
      have : (28 : ℤ) = precision := rfl
      unfold dropped at few ⊢
      omega
    have : (10 : ℚ) ^ (dropped digits exponent : ℤ) ≤ digits := by
      rw [place, zpow_sub₀ (by norm_num), div_le_iff₀ (by positivity)]
      exact large
    exact_mod_cast this

/-- A number that is not below the least place keeps a digit. -/
theorem kept_ne_zero {digits : Nat} {exponent : Int} (hd : digits ≠ 0)
    (large : (10 : ℚ) ^ minExponent ≤ absValue digits exponent) : kept digits exponent ≠ 0 := by
  have le := pow_dropped_le hd large
  have fits : ¬ (digitCount digits : Int) < dropped digits exponent := fun lt =>
    absurd (lt_pow_digitCount digits)
      (not_lt.mpr ((Nat.pow_le_pow_right (by decide) (by omega)).trans le))
  rw [kept, if_neg fits]
  exact (Number.roundDiv_pos (Nat.pow_pos (by decide)) le).ne'

end Decimal
end StatefulRoles
