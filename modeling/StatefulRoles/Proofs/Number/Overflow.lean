import Mathlib.Tactic.FieldSimp
import Mathlib.Tactic.Linarith
import Mathlib.Tactic.Positivity
import StatefulRoles.Proofs.Number.Decimal
/-!
# Which results overflow

Rounding to the precision carries a result past the greatest exponent exactly if it is at least half
a last place below the first number there: a number half way between two is rounded to the even one,
which is the greater one here.

Results:
* `Number.le_roundDiv_iff`: what is rounded to an even bound or beyond.
* `Decimal.round_eq_error_iff`: which numbers overflow when they are rounded.
-/
namespace StatefulRoles

/-- What is not below an even bound after rounding was not below it by more than a half. -/
theorem Number.le_roundDiv_iff {bound num den : Nat} (hden : 0 < den) (heven : bound % 2 = 0) :
    bound ≤ roundDiv num den ↔ 2 * (bound * den) ≤ 2 * num + den := by
  have hsplit : num / den * den + num % den = num := Nat.div_add_mod' num den
  have hrest : num % den < den := Nat.mod_lt num hden
  simp only [roundDiv]
  generalize num / den = quotient at *
  generalize num % den = rest at *
  rcases Nat.lt_trichotomy bound (quotient + 1) with hlt | rfl | hgt
  · have hle : bound * den ≤ quotient * den := Nat.mul_le_mul_right den (by omega)
    refine iff_of_true ?_ (by omega)
    split_ifs <;> omega
  · have hexact : (quotient + 1) * den = quotient * den + den := Nat.succ_mul quotient den
    split_ifs <;> omega
  · have hle : (quotient + 2) * den ≤ bound * den := Nat.mul_le_mul_right den (by omega)
    have hexact : (quotient + 2) * den = quotient * den + 2 * den := Nat.add_mul quotient 2 den
    refine iff_of_false ?_ (by omega)
    split_ifs <;> omega

example : 4 ≤ Number.roundDiv 7 2 ∧ ¬4 ≤ Number.roundDiv 6 2 := by decide

theorem Number.div_le_roundDiv (num den : Nat) : num / den ≤ roundDiv num den := by
  simp only [roundDiv]
  split_ifs <;> omega

namespace Decimal

open Text

/-- The least number beyond the greatest exponent. -/
def ceiling : ℚ := 10 ^ (maxExponent + 1)

/-- The least number that is rounded to it: half a last place below. -/
def overflowBound : ℚ := ceiling - 10 ^ (maxExponent + 1 - precision) / 2

variable {digits : Nat} {exponent : Int}

theorem ten_zpow_le {m n : Int} : (10 : ℚ) ^ m ≤ 10 ^ n ↔ m ≤ n :=
  zpow_le_zpow_iff_right₀ (by norm_num)

theorem ten_zpow_lt {m n : Int} : (10 : ℚ) ^ m < 10 ^ n ↔ m < n :=
  zpow_lt_zpow_iff_right₀ (by norm_num)

theorem absValue_lt (digits : Nat) (exponent : Int) :
    absValue digits exponent < 10 ^ (digitCount digits + exponent) := by
  rw [zpow_add₀ (by norm_num), absValue]
  have hlt : (digits : ℚ) < 10 ^ (digitCount digits : ℤ) := by
    exact_mod_cast lt_pow_digitCount digits
  exact mul_lt_mul_of_pos_right hlt (by positivity)

theorem le_absValue (h : digits ≠ 0) (exponent : Int) :
    (10 : ℚ) ^ (digitCount digits + exponent - 1) ≤ absValue digits exponent := by
  have hpos : 0 < digitCount digits := Nat.length_toDigits_pos
  have hle : 10 ^ (digitCount digits - 1) ≤ digits := pow_le_of_lt_digitCount h (by omega)
  have hexp : (digitCount digits + exponent - 1 : ℤ) =
      ((digitCount digits - 1 : ℕ) : ℤ) + exponent := by omega
  rw [hexp, zpow_add₀ (by norm_num), absValue, zpow_natCast]
  have hcast : ((10 : ℚ) ^ (digitCount digits - 1)) ≤ digits := by exact_mod_cast hle
  exact mul_le_mul_of_nonneg_right hcast (by positivity)

/-- Rounding overflows exactly if what it leaves is beyond the greatest exponent. -/
theorem round_eq_error {negative : Bool} {t : Trap} :
    round negative digits exponent = .error t ↔ t = .overflow ∧
      ceiling ≤ absValue (kept digits exponent) (exponent + dropped digits exponent) := by
  have eq : round negative digits exponent =
      if kept digits exponent ≠ 0 ∧ maxExponent < exponent + dropped digits exponent +
        digitCount (kept digits exponent) - 1 then .error .overflow
      else .ok (.finite negative (kept digits exponent) (exponent + dropped digits exponent)) := rfl
  rw [eq]
  generalize kept digits exponent = k
  generalize exponent + dropped digits exponent = last
  have hbeyond : k ≠ 0 ∧ maxExponent < last + digitCount k - 1 ↔ ceiling ≤ absValue k last := by
    constructor
    · rintro ⟨hk, hlt⟩
      exact (ten_zpow_le.mpr (by omega)).trans (le_absValue hk last)
    · intro hle
      have hlt := ten_zpow_lt.mp (lt_of_le_of_lt hle (absValue_lt k last))
      refine ⟨?_, by omega⟩
      rintro rfl
      rw [ceiling, absValue, Nat.cast_zero, zero_mul] at hle
      exact absurd hle (not_le.mpr (by positivity))
  rw [← hbeyond]
  split_ifs with h
  · simp [h, eq_comm]
  · simp [h]

/-- The last place that rounding leaves. -/
theorem last_eq (digits : Nat) (exponent : Int) : exponent + dropped digits exponent =
    max exponent (max minExponent (exponent + digitCount digits - precision)) := by
  unfold dropped
  omega

/-- Rounding at a place below the greatest exponent carries a number beyond it exactly if the number
is at most half a place below. -/
theorem ceiling_le_kept (hfits : dropped digits exponent ≤ digitCount digits)
    (hlast : exponent + dropped digits exponent ≤ maxExponent) :
    ceiling ≤ absValue (kept digits exponent) (exponent + dropped digits exponent) ↔
      ceiling - 10 ^ (exponent + dropped digits exponent) / 2 ≤ absValue digits exponent := by
  have hkept : kept digits exponent = Number.roundDiv digits (10 ^ dropped digits exponent) :=
    if_neg (by omega)
  generalize dropped digits exponent = d at *
  obtain ⟨j, hj⟩ : ∃ j : Nat, maxExponent + 1 = (j + 1 : ℕ) + (exponent + d) :=
    ⟨(maxExponent - (exponent + d)).toNat, by omega⟩
  have hceiling : ceiling = ((10 ^ (j + 1) : ℕ) : ℚ) * 10 ^ (exponent + (d : ℤ)) := by
    rw [ceiling, hj, zpow_add₀ (by norm_num), zpow_natCast]
    norm_cast
  have hpos : (0 : ℚ) < 10 ^ (exponent + (d : ℤ)) := by positivity
  have hvalue : absValue digits exponent = digits / 10 ^ d * 10 ^ (exponent + (d : ℤ)) := by
    rw [absValue, zpow_add₀ (by norm_num), zpow_natCast]
    field_simp
  have heven : 10 ^ (j + 1) % 2 = 0 := by
    rw [Nat.pow_succ]
    omega
  rw [hkept, hceiling, hvalue, absValue, mul_le_mul_iff_left₀ hpos, Nat.cast_le,
    Number.le_roundDiv_iff (Nat.pow_pos (by decide)) heven]
  have hhalf (bound place : ℚ) : bound * place - place / 2 = (bound - 1 / 2) * place := by ring
  rw [hhalf, mul_le_mul_iff_left₀ hpos, le_div_iff₀ (by positivity)]
  have hcast : 2 * (10 ^ (j + 1) * 10 ^ d) ≤ 2 * digits + 10 ^ d ↔
      2 * (((10 ^ (j + 1) : ℕ) : ℚ) * 10 ^ d) ≤ 2 * (digits : ℚ) + 10 ^ d := by
    exact_mod_cast Iff.rfl
  rw [hcast]
  constructor <;> intro h <;> linarith

/-- What is below by half a place is still beyond the place of the greatest exponent. -/
theorem lt_ceiling_sub {place : Int} (h : place ≤ maxExponent) :
    (10 : ℚ) ^ maxExponent < ceiling - 10 ^ place / 2 := by
  have hceiling : ceiling = 10 ^ maxExponent * 10 := zpow_add_one₀ (by norm_num) maxExponent
  have hplace : (10 : ℚ) ^ place ≤ 10 ^ maxExponent := ten_zpow_le.mpr h
  have hpos : (0 : ℚ) < 10 ^ maxExponent := by positivity
  linarith

theorem lt_overflowBound : (10 : ℚ) ^ maxExponent < overflowBound := lt_ceiling_sub (by decide)

theorem overflowBound_le_ceiling : overflowBound ≤ ceiling := by
  have hpos : (0 : ℚ) < 10 ^ (maxExponent + 1 - precision) := by positivity
  unfold overflowBound
  linarith

theorem not_ceiling_le_zero (exponent : Int) : ¬ ceiling ≤ absValue 0 exponent := by
  have hpos : (0 : ℚ) < ceiling := by
    unfold ceiling
    positivity
  rw [absValue, Nat.cast_zero, zero_mul]
  exact not_le.mpr hpos

/-- A number whose first digit is below the greatest exponent stays below it. -/
theorem not_ceiling_le_kept (h : digitCount digits + exponent ≤ maxExponent) :
    ¬ ceiling ≤ absValue (kept digits exponent) (exponent + dropped digits exponent) := by
  have hlast := last_eq digits exponent
  have hleast : minExponent ≤ maxExponent := by decide
  have hprecision : (0 : ℤ) ≤ precision := by decide
  by_cases hfits : dropped digits exponent ≤ digitCount digits
  · have hplace : exponent + dropped digits exponent ≤ maxExponent := by omega
    have hvalue := (absValue_lt digits exponent).trans_le (ten_zpow_le.mpr h)
    rw [ceiling_le_kept hfits hplace]
    exact not_le.mpr (hvalue.trans (lt_ceiling_sub hplace))
  · have hkept : kept digits exponent = 0 := if_pos (by omega)
    rw [hkept]
    exact not_ceiling_le_zero _

/-- A number whose first digit is beyond the greatest exponent stays beyond it. -/
theorem ceiling_le_kept_of_high (hd : digits ≠ 0)
    (h : maxExponent + 1 < digitCount digits + exponent) :
    ceiling ≤ absValue (kept digits exponent) (exponent + dropped digits exponent) := by
  have hlast := last_eq digits exponent
  have hcount : 0 < digitCount digits := Nat.length_toDigits_pos
  have hleast : minExponent + precision ≤ maxExponent := by decide
  have hprecision : (0 : ℤ) < precision := by decide
  have hfits : dropped digits exponent < digitCount digits := by omega
  have hkept : kept digits exponent = Number.roundDiv digits (10 ^ dropped digits exponent) :=
    if_neg (by omega)
  obtain ⟨j, hj⟩ : ∃ j, digitCount digits = j + 1 + dropped digits exponent :=
    ⟨digitCount digits - 1 - dropped digits exponent, by omega⟩
  have hfirst : 10 ^ j ≤ digits / 10 ^ dropped digits exponent := by
    rw [Nat.le_div_iff_mul_le (Nat.pow_pos (by decide)), ← Nat.pow_add]
    exact pow_le_of_lt_digitCount hd (by omega)
  have hround : ((10 ^ j : ℕ) : ℚ) ≤ (kept digits exponent : ℚ) := by
    rw [hkept]
    exact_mod_cast hfirst.trans (Number.div_le_roundDiv digits _)
  have hpos : (0 : ℚ) < 10 ^ (exponent + dropped digits exponent) := by positivity
  calc ceiling ≤ 10 ^ ((j : ℤ) + (exponent + dropped digits exponent)) := ten_zpow_le.mpr (by omega)
    _ = ((10 ^ j : ℕ) : ℚ) * 10 ^ (exponent + dropped digits exponent) := by
        rw [zpow_add₀ (by norm_num), zpow_natCast]
        norm_cast
    _ ≤ absValue (kept digits exponent) (exponent + dropped digits exponent) :=
        mul_le_mul_of_nonneg_right hround hpos.le

/-- A number that has no digit to lose is a last place below the ceiling or more. -/
theorem absValue_le_sub (digits : Nat) {exponent : Int}
    (h : digitCount digits + exponent = maxExponent + 1) :
    absValue digits exponent ≤ ceiling - 10 ^ exponent := by
  have hlt : (digits : ℚ) + 1 ≤ 10 ^ digitCount digits := by
    exact_mod_cast lt_pow_digitCount digits
  have hpos : (0 : ℚ) < 10 ^ exponent := by positivity
  have hceiling : ceiling = 10 ^ digitCount digits * 10 ^ exponent := by
    rw [ceiling, ← h, zpow_add₀ (by norm_num), zpow_natCast]
  have hmul := mul_le_mul_of_nonneg_right hlt hpos.le
  rw [hceiling, absValue]
  linarith

/-- The numbers that overflow when they are rounded. -/
theorem ceiling_le_kept_iff (digits : Nat) (exponent : Int) :
    ceiling ≤ absValue (kept digits exponent) (exponent + dropped digits exponent) ↔
      overflowBound ≤ absValue digits exponent := by
  rcases eq_or_ne digits 0 with rfl | hd
  · rw [kept_zero]
    refine iff_of_false (not_ceiling_le_zero _) ?_
    rw [absValue, Nat.cast_zero, zero_mul]
    exact not_le.mpr (lt_trans (by positivity) lt_overflowBound)
  rcases lt_trichotomy (digitCount digits + exponent) (maxExponent + 1) with hlow | hedge | hhigh
  · have hle : digitCount digits + exponent ≤ maxExponent := by omega
    refine iff_of_false (not_ceiling_le_kept hle) (not_le.mpr ?_)
    exact ((absValue_lt digits exponent).trans_le (ten_zpow_le.mpr hle)).trans lt_overflowBound
  · -- the first digit is at the greatest exponent: all depends on the digits that are lost
    have hlast := last_eq digits exponent
    have hcount : 0 < digitCount digits := Nat.length_toDigits_pos
    have hleast : minExponent + precision ≤ maxExponent := by decide
    have hprecision : (0 : ℤ) < precision := by decide
    rw [ceiling_le_kept (by omega) (by omega)]
    by_cases hmany : precision ≤ digitCount digits
    · have hplace : exponent + dropped digits exponent = maxExponent + 1 - precision := by omega
      rw [hplace, overflowBound]
    · have hplace : exponent + dropped digits exponent = exponent := by omega
      have hless : (10 : ℚ) ^ (maxExponent + 1 - precision) < 10 ^ exponent :=
        ten_zpow_lt.mpr (by omega)
      have hpos : (0 : ℚ) < 10 ^ exponent := by positivity
      have hvalue := absValue_le_sub digits hedge
      rw [hplace, overflowBound]
      refine iff_of_false ?_ ?_ <;> rw [not_le] <;> linarith
  · refine iff_of_true (ceiling_le_kept_of_high hd hhigh) ?_
    have hfirst : ceiling ≤ absValue digits exponent :=
      (ten_zpow_le.mpr (by omega)).trans (le_absValue hd exponent)
    exact overflowBound_le_ceiling.trans hfirst

/-- **Overflow.** A number overflows when it is rounded exactly if it is at least the bound. -/
theorem round_eq_error_iff {negative : Bool} {t : Trap} :
    round negative digits exponent = .error t ↔
      t = .overflow ∧ overflowBound ≤ absValue digits exponent := by
  rw [round_eq_error, ceiling_le_kept_iff]

end Decimal
end StatefulRoles
