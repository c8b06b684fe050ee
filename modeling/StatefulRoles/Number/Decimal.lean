import StatefulRoles.Number.Rounding
import StatefulRoles.Text.Blank
import StatefulRoles.Text.Digit
/-!
# Decimal numbers

A decimal literal keeps every digit it was written with. Arithmetic rounds to 28 digits, half to
even, between fixed exponents: a result too large is an overflow, one too small becomes zero.
-/
namespace StatefulRoles

/-- What a decimal literal writes: plus or minus `digits * 10 ^ exponent`, an infinity, or no
number. -/
inductive Decimal where
  | finite (negative : Bool) (digits : Nat) (exponent : Int)
  | infinite (negative : Bool)
  | nan (signaling : Bool)
deriving DecidableEq, Repr

namespace Decimal

/-! ## Reading -/

/-- The literal in ASCII: trimmed, without underscores, its digits those of ASCII. -/
def plain? (cs : List Char) : Option (List Char) :=
  ((Text.trim Text.isSpacing cs).filter (· ≠ '_')).mapM fun c =>
    if c.toNat < 0x80 then some c else (Text.digitValue? c).map Nat.digitChar

/-- The exponent part of a literal; it may be missing. -/
def exponent? : List Char → Option Int
  | [] => some 0
  | mark :: cs =>
    let (negative, digits) := Text.takeSign cs
    if mark.toLower = 'e' && !digits.isEmpty && digits.all Char.isDigit then
      let n : Int := Text.natOfDigits digits
      some (if negative then -n else n)
    else none

/-- An unsigned finite literal: its digits without the point, and the exponent of the last. -/
def magnitude? (cs : List Char) : Option (Nat × Int) :=
  let whole := cs.takeWhile Char.isDigit
  let (fraction, rest) := match cs.dropWhile Char.isDigit with
    | '.' :: r => (r.takeWhile Char.isDigit, r.dropWhile Char.isDigit)
    | r => ([], r)
  if whole.isEmpty && fraction.isEmpty then none
  else (exponent? rest).map fun e =>
    (Text.natOfDigits (whole ++ fraction), e - (fraction.length : Int))

/-- The bound on the exponent of a literal's first digit. -/
def literalBound : Int := 999999999999999999

/-- Literals whose exponent is out of all bounds are not read. -/
def isBounded (digits : Nat) (exponent : Int) : Bool :=
  -(2 * literalBound - 1) ≤ exponent &&
    (if digits = 0 then exponent else exponent + Text.digitCount digits - 1) ≤ literalBound

/-- Reads a decimal literal. -/
def ofChars? (cs : List Char) : Option Decimal := do
  let (negative, rest) := Text.takeSign (← plain? cs)
  let letters := rest.map Char.toLower
  if letters = "inf".toList || letters = "infinity".toList then some (.infinite negative)
  else match letters with
    | 'n' :: 'a' :: 'n' :: payload =>
      if payload.all Char.isDigit then some (.nan false) else none
    | 's' :: 'n' :: 'a' :: 'n' :: payload =>
      if payload.all Char.isDigit then some (.nan true) else none
    | _ => do
      let (digits, exponent) ← magnitude? rest
      if isBounded digits exponent then some (.finite negative digits exponent) else none

/-! ## Arithmetic -/

/-- Why an operation has no result. -/
inductive Trap where
  | overflow
  | invalidOperation
deriving DecidableEq, Repr

/-- How many digits a result has at most. -/
def precision : Int := 28

/-- The greatest exponent of a result's first digit. -/
def maxExponent : Int := 999999

/-- The least exponent of a result's last digit. -/
def minExponent : Int := -1000026

/-- The result nearest to `digits * 10 ^ exponent`: rounded once, at the last digit that the
precision and the least exponent leave. -/
def round (negative : Bool) (digits : Nat) (exponent : Int) : Except Trap Decimal :=
  let count : Int := Text.digitCount digits
  let drop := (max minExponent (exponent + count - precision) - exponent).toNat
  let kept := if count < drop then 0 else Number.roundDiv digits (Nat.pow 10 drop)
  let last := exponent + drop
  if kept ≠ 0 ∧ maxExponent < last + Text.digitCount kept - 1 then .error .overflow
  else .ok (.finite negative kept last)

/-- The product with `factor * 10 ^ shift`, where the factor is positive. -/
def scale (x : Decimal) (factor : Nat) (shift : Int) : Except Trap Decimal :=
  match x with
  | .finite negative digits exponent => round negative (digits * factor) (exponent + shift)
  | .infinite negative => .ok (.infinite negative)
  | .nan true => .error .invalidOperation
  | .nan false => .ok (.nan false)

/-- Is the number other than zero? No number at all is other than zero, unless it signals. -/
def differsFromZero : Decimal → Except Trap Bool
  | .finite _ digits _ => .ok (digits ≠ 0)
  | .infinite _ => .ok true
  | .nan true => .error .invalidOperation
  | .nan false => .ok true

end Decimal
end StatefulRoles
