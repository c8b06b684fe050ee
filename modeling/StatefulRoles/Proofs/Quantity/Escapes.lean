import StatefulRoles.Proofs.Number.Overflow
import StatefulRoles.Proofs.Quantity
/-!
# Quantities whose arithmetic traps

A literal is never rounded, so only a text with a suffix can trap: when its product with the suffix
goes beyond the greatest exponent, and when its literal is a signaling NaN, which takes part in no
arithmetic at all.

Results:
* `parse_eq_trap`: exactly these texts trap.
-/
namespace StatefulRoles.Quantity

open Decimal

/-- The multiplication by a suffix traps. -/
inductive Trapping (suffix : Suffix) : Decimal → Trap → Prop where
  | signaling : Trapping suffix (.nan true) .invalidOperation
  | overflowing {negative : Bool} {digits : Nat} {exponent : Int}
      (h : overflowBound ≤ absValue digits exponent * suffix.value) :
      Trapping suffix (.finite negative digits exponent) .overflow

/-- The text is a literal and a suffix whose multiplication traps. -/
structure Escapes (text : String) (t : Trap) : Prop where
  parted : ∃ number suffix, Parts text.toList number (some suffix) ∧ suffix.text ≠ ['k', 'i'] ∧
    ∃ x, ofChars? number = some x ∧ Trapping suffix x t

theorem absValue_mul (digits factor : Nat) (exponent shift : Int) :
    absValue (digits * factor) (exponent + shift) =
      absValue digits exponent * absValue factor shift := by
  rw [absValue, absValue, absValue, zpow_add₀ (by norm_num)]
  push_cast
  ring

theorem scale_eq_error {x : Decimal} {suffix : Suffix} {t : Trap} :
    x.scale suffix.multiplier.1 suffix.multiplier.2 = .error t ↔ Trapping suffix x t := by
  cases x with
  | finite negative digits exponent =>
    rw [scale, round_eq_error_iff, absValue_mul, suffix.multiplier_value]
    constructor
    · rintro ⟨rfl, h⟩
      exact .overflowing h
    · intro h
      cases h with
      | overflowing h => exact ⟨rfl, h⟩
  | infinite negative => exact iff_of_false nofun nofun
  | nan signaling =>
    cases signaling with
    | false => exact iff_of_false nofun nofun
    | true =>
      constructor
      · rintro ⟨⟩
        exact .signaling
      · rintro ⟨⟩
        rfl

theorem Suffix.text_eq_ki {suffix : Suffix} :
    (suffix.letter = 'k' && suffix.binary) = true ↔ suffix.text = ['k', 'i'] := by
  obtain ⟨letter, power, binary⟩ := suffix
  cases binary <;> simp [Suffix.text]

/-- **Traps.** These are the texts whose arithmetic traps. -/
theorem parse_eq_trap {text : String} {t : Trap} :
    parse text = .error (.trap t) ↔ Escapes text t := by
  have hparts := split_parts text.toList
  constructor
  · intro h
    simp only [parse] at h
    split at h
    · cases h
    · cases h
    · next x suffix hx hsuffix =>
      split at h
      · cases h
      · next hki =>
        rw [hsuffix] at hparts
        refine ⟨_, suffix, hparts, mt Suffix.text_eq_ki.mpr hki, x, hx, scale_eq_error.mp ?_⟩
        cases hscale : x.scale suffix.multiplier.1 suffix.multiplier.2 with
        | ok y =>
          rw [hscale] at h
          cases h
        | error t' =>
          rw [hscale] at h
          cases h
          rfl
  · rintro ⟨number, suffix, hparts, hki, x, hx, htraps⟩
    have hki : ¬ (suffix.letter = 'k' && suffix.binary) = true := mt Suffix.text_eq_ki.mp hki
    simp only [parse, hparts.split_eq, hx, if_neg hki, scale_eq_error.mpr htraps]
    rfl

end StatefulRoles.Quantity
