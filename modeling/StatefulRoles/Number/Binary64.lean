import StatefulRoles.Number.Rounding
import StatefulRoles.Text.Digit
/-!
# Binary numbers of 64 bits

A number with a fraction or an exponent is kept as the nearest binary number of 53 significant
bits, half to even.
-/
namespace StatefulRoles

/-- Plus or minus `significand * 2 ^ exponent`, an infinity, or no number. -/
inductive Binary64 where
  | finite (negative : Bool) (significand : Nat) (exponent : Int)
  | infinite (negative : Bool)
  | nan
deriving DecidableEq, Repr

namespace Binary64

/-- `num / den` in units of `2 ^ exponent`, rounded. -/
def inUnits (num den : Nat) (exponent : Int) : Nat :=
  if 0 ≤ exponent then Number.roundDiv num (den * Nat.pow 2 exponent.toNat)
  else Number.roundDiv (num * Nat.pow 2 (-exponent).toNat) den

/-- The exponent of the last bit that 53 significant bits of `num / den` leave, at least the least
there is. The first estimate may be one too great. -/
def lastBit (num den : Nat) : Int :=
  let estimate := (num.log2 : Int) - den.log2 - 52
  let isBelow := if 0 ≤ estimate then num < den * Nat.pow 2 (estimate.toNat + 52)
    else num * Nat.pow 2 (-estimate).toNat < den * Nat.pow 2 52
  max (if isBelow then estimate - 1 else estimate) (-1074)

/-- The number nearest to the quotient of two positive numbers. -/
def ofQuotient (negative : Bool) (num den : Nat) : Binary64 :=
  let last := lastBit num den
  let significand := inUnits num den last
  if 971 < last ∨ (last = 971 ∧ Nat.pow 2 53 ≤ significand) then .infinite negative
  else .finite negative significand last

/-- The number nearest to `digits * 10 ^ exponent`. Exponents far out of range are settled without
writing out their powers. -/
def ofDecimal (negative : Bool) (digits : Nat) (exponent : Int) : Binary64 :=
  if digits = 0 || exponent + Text.digitCount digits < -400 then .finite negative 0 0
  else if 400 < exponent then .infinite negative
  else if 0 ≤ exponent then ofQuotient negative (digits * Nat.pow 10 exponent.toNat) 1
  else ofQuotient negative digits (Nat.pow 10 (-exponent).toNat)

/-- The whole number that this is, if it is one. -/
def toInt? : Binary64 → Option Int
  | .finite negative significand exponent =>
    let magnitude : Option Nat :=
      if 0 ≤ exponent then some (significand * Nat.pow 2 exponent.toNat)
      else if significand % Nat.pow 2 (-exponent).toNat = 0 then
        some (significand / Nat.pow 2 (-exponent).toNat)
      else none
    magnitude.map fun n => if negative then -(n : Int) else n
  | _ => none

/-- Is the number neither infinite nor none? -/
def isFinite : Binary64 → Bool
  | .finite .. => true
  | _ => false

/-- Is the number zero? -/
def isZero : Binary64 → Bool
  | .finite _ significand _ => significand = 0
  | _ => false

end Binary64
end StatefulRoles
