import StatefulRoles.Quantity
import StatefulRoles.Proofs.Number.Decimal
import StatefulRoles.Proofs.Trace
/-!
# What a quantity is worth

A quantity that is read is the literal in front of its suffix, times a power of 1000 or of 1024.
The multiplication rounds, so that a product below the least place may become zero.

Results:
* `split_parts`, `Parts.split_eq`: a text is parted into a number and the suffix that it ends in,
  if it ends in one, and there is no other way to part it.
* `parse_eq_ok`, `scaled_finite`: the value of a text that is read, and that it is zero exactly if
  the literal is, unless the product underflows.
-/
namespace StatefulRoles.Quantity

open Decimal

/-! ## The parts of a text -/

/-- How a suffix is written. -/
def Suffix.text (s : Suffix) : List Char := s.letter :: if s.binary then ['i'] else []

/-- Is it a suffix of the table? -/
def Suffix.Known (s : Suffix) : Prop := powers.lookup s.letter = some s.power

/-- A text is a number and, if it ends in one, a suffix. -/
structure Parts (text number : List Char) (suffix : Option Suffix) : Prop where
  rejoined : text = number ++ suffix.elim [] Suffix.text
  known : ∀ s ∈ suffix, s.Known
  whole : suffix = none → ∀ s : Suffix, s.Known → ¬ s.text <:+ text

theorem reverse_of_suffix {s : Suffix} {cs : List Char} (h : s.text <:+ cs) :
    ∃ rest, cs.reverse = if s.binary then 'i' :: s.letter :: rest else s.letter :: rest := by
  obtain ⟨rest, hrest⟩ := List.reverse_prefix.mpr h
  refine ⟨rest, ?_⟩
  cases hb : s.binary <;> simp [← hrest, Suffix.text, hb]

theorem Parts.of_some {cs rest : List Char} {s : Suffix} (hs : s.Known)
    (eq : cs.reverse = s.text.reverse ++ rest) : Parts cs rest.reverse (some s) where
  rejoined := by
    rw [← List.reverse_reverse cs, eq, List.reverse_append, List.reverse_reverse]
    rfl
  known := by simpa using hs
  whole := nofun

theorem Parts.of_none {cs : List Char} (h : ∀ s : Suffix, s.Known → ¬ s.text <:+ cs) :
    Parts cs cs none where
  rejoined := by simp
  known := nofun
  whole _ := h

theorem split_parts (cs : List Char) : Parts cs (split cs).1 (split cs).2 := by
  unfold split
  split
  · next letter rest eq =>
    split
    · next power known => exact .of_some known eq
    · next unknown =>
      refine .of_none fun s hs h => ?_
      obtain ⟨rest', h⟩ := reverse_of_suffix h
      rw [eq] at h
      split at h
      · cases h
        cases unknown.symm.trans hs
      · rw [Suffix.Known, ← (List.cons.inj h).1] at hs
        cases hs
  · next letter rest other eq =>
    split
    · next power known => exact .of_some known eq
    · next unknown =>
      refine .of_none fun s hs h => ?_
      obtain ⟨rest', h⟩ := reverse_of_suffix h
      rw [eq] at h
      split at h <;> cases h
      · exact other _ _ rfl rfl
      · cases unknown.symm.trans hs
  · next eq =>
    rw [List.reverse_eq_nil_iff.mp eq]
    exact .of_none fun s _ => by simp [Suffix.text]

/-- There is one way to part a text. -/
theorem Parts.split_eq {text number : List Char} {suffix : Option Suffix}
    (h : Parts text number suffix) : split text = (number, suffix) := by
  cases suffix with
  | none =>
    have parts := split_parts text
    have rejoined := parts.rejoined
    cases found : (split text).2 with
    | none =>
      rw [found] at rejoined
      exact Prod.ext (by simpa using rejoined.symm.trans h.rejoined) found
    | some s =>
      rw [found] at rejoined
      exact absurd ⟨_, rejoined.symm⟩ (h.whole rfl s (parts.known s found))
  | some s =>
    have known : powers.lookup s.letter = some s.power := h.known s rfl
    obtain ⟨letter, power, binary⟩ := s
    have reverse : text.reverse =
        (Suffix.text ⟨letter, power, binary⟩).reverse ++ number.reverse := by
      rw [h.rejoined, List.reverse_append]
      rfl
    cases binary with
    | true => simp [split, reverse, Suffix.text, known]
    | false =>
      have other : letter ≠ 'i' := by
        rintro rfl
        cases known
      have : text.reverse = letter :: number.reverse := by simpa [Suffix.text] using reverse
      unfold split
      split
      · next eq => exact absurd (List.cons.inj (this.symm.trans eq)).1 other
      · next eq =>
        cases this.symm.trans eq
        simp [known]
      · next eq => cases this.symm.trans eq

/-! ## The value of a text -/

/-- What a suffix multiplies by. -/
def Suffix.value (s : Suffix) : ℚ := (if s.binary then 1024 else 1000) ^ s.power

theorem Suffix.multiplier_value (s : Suffix) :
    absValue s.multiplier.1 s.multiplier.2 = s.value := by
  have inverse : (1024 : ℚ)⁻¹ = 9765625 * 10 ^ (-10 : ℤ) := by norm_num
  have thousand : (1000 : ℚ) = 10 ^ (3 : ℤ) := by norm_num
  unfold Suffix.multiplier Suffix.value absValue
  split
  · split
    · next nonneg =>
      obtain ⟨n, hn⟩ := Int.eq_ofNat_of_zero_le nonneg
      simp [hn]
    · next neg =>
      obtain ⟨n, hn⟩ := Int.exists_eq_neg_ofNat (not_le.mp neg).le
      calc ((Nat.pow 9765625 (-s.power).toNat : ℕ) : ℚ) * 10 ^ (10 * s.power)
          = 9765625 ^ n * (10 ^ (-10 : ℤ)) ^ n := by
            rw [hn, ← zpow_natCast (10 ^ (-10 : ℤ)), ← zpow_mul]; simp
        _ = 1024⁻¹ ^ n := by rw [inverse, mul_pow]
        _ = 1024 ^ s.power := by rw [hn, zpow_neg, zpow_natCast, inv_pow]
  · rw [thousand, ← zpow_mul]; simp

theorem Suffix.multiplier_ne_zero (s : Suffix) : s.multiplier.1 ≠ 0 := by
  intro zero
  have value := s.multiplier_value
  rw [zero, absValue, Nat.cast_zero, zero_mul, Suffix.value] at value
  split at value
  all_goals exact absurd value.symm (zpow_ne_zero _ (by norm_num))

/-- The product of a literal and its suffix is not zero, and below every place that is kept. -/
def Underflows (digits : Nat) (exponent : Int) (suffix : Option Suffix) : Prop :=
  ∃ s ∈ suffix, 0 < digits ∧ absValue digits exponent * s.value < 10 ^ minExponent

/-- The number in front of a suffix, multiplied. -/
def scaled (x : Decimal) : Option Suffix → Except Trap Decimal
  | none => .ok x
  | some s => x.scale s.multiplier.1 s.multiplier.2

theorem parse_eq_ok {text : String} {value : Decimal} (h : parse text = .ok value) :
    ∃ x, ofChars? (split text.toList).1 = some x ∧ scaled x (split text.toList).2 = .ok value := by
  simp only [parse] at h
  split at h
  · cases h
  · next x hx hs =>
    rw [hs]
    cases h
    exact ⟨_, hx, rfl⟩
  · next x s hx hs =>
    refine ⟨x, hx, ?_⟩
    rw [hs]
    split at h
    · cases h
    · exact mapError_eq_ok.mp h

example : (parse "1.5Ki").toOption = some (.finite false 15360 (-1)) := by decide +kernel

theorem scaled_finite {negative : Bool} {digits : Nat} {exponent : Int} {suffix : Option Suffix}
    {value : Decimal} (h : scaled (.finite negative digits exponent) suffix = .ok value) :
    ∃ digits' exponent', value = .finite negative digits' exponent' ∧ (digits = 0 → digits' = 0) ∧
      (digits ≠ 0 → ¬ Underflows digits exponent suffix → digits' ≠ 0) := by
  cases suffix with
  | none =>
    cases h
    exact ⟨digits, exponent, rfl, id, fun hd _ => hd⟩
  | some s =>
    refine ⟨_, _, round_eq_ok h, ?_, fun hd normal => ?_⟩
    · rintro rfl
      rw [Nat.zero_mul, kept_zero]
    · refine kept_ne_zero (Nat.mul_ne_zero hd s.multiplier_ne_zero) ?_
      have product : absValue (digits * s.multiplier.1) (exponent + s.multiplier.2) =
          absValue digits exponent * s.value := by
        rw [← s.multiplier_value, absValue, absValue, absValue, zpow_add₀ (by norm_num)]
        push_cast
        ring
      rw [product]
      by_contra small
      exact normal ⟨s, rfl, Nat.pos_of_ne_zero hd, not_le.mp small⟩

end StatefulRoles.Quantity
