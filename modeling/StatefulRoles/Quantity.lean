import StatefulRoles.Number.Decimal
/-!
# Resource quantities

A quantity is a decimal literal, perhaps with a suffix that multiplies it by a power of 1000 or,
with an `i` behind its letter, of 1024.
-/
namespace StatefulRoles.Quantity

/-- Why a text is no quantity. -/
inductive Error where
  | invalidNumber (number : String)
  | unknownSuffix (text : String)
  | trap (cause : Decimal.Trap)
deriving DecidableEq, Repr

def Error.message : Error → String
  | .invalidNumber number => s!"Invalid number format: {number}"
  | .unknownSuffix text => s!"{text} has unknown suffix"
  | .trap .overflow => "[<class 'decimal.Overflow'>]"
  | .trap .invalidOperation => "[<class 'decimal.InvalidOperation'>]"

/-- The letters of the suffixes, and the power that each stands for. -/
def powers : List (Char × Int) :=
  [('n', -3), ('u', -2), ('m', -1), ('K', 1), ('k', 1), ('M', 2), ('G', 3), ('T', 4), ('P', 5),
   ('E', 6)]

/-- A suffix: its letter, the power the letter stands for, and whether the base is 1024. -/
structure Suffix where
  letter : Char
  power : Int
  binary : Bool
deriving DecidableEq, Repr

/-- Parts a text into a number and a suffix. -/
def split (cs : List Char) : List Char × Option Suffix :=
  match cs.reverse with
  | 'i' :: letter :: rest =>
    match powers.lookup letter with
    | some power => (rest.reverse, some ⟨letter, power, true⟩)
    | none => (cs, none)
  | letter :: rest =>
    match powers.lookup letter with
    | some power => (rest.reverse, some ⟨letter, power, false⟩)
    | none => (cs, none)
  | [] => ([], none)

/-- The multiplier of a suffix, as a factor and a power of ten. A half is five tenths, so the
negative powers of 1024 are exact as well. -/
def Suffix.multiplier (s : Suffix) : Nat × Int :=
  if s.binary then
    if 0 ≤ s.power then (Nat.pow 1024 s.power.toNat, 0)
    else (Nat.pow 9765625 (-s.power).toNat, 10 * s.power)
  else (1, 3 * s.power)

/-- The value of a quantity. The suffix `ki` does not exist, though a number before it is checked
first. Mirrors `parse_quantity`. -/
def parse (text : String) : Except Error Decimal :=
  let (number, suffix) := split text.toList
  match Decimal.ofChars? number, suffix with
  | none, _ => .error (.invalidNumber (String.ofList number))
  | some x, none => .ok x
  | some x, some s =>
    if s.letter = 'k' && s.binary then .error (.unknownSuffix text)
    else (x.scale s.multiplier.1 s.multiplier.2).mapError .trap

end StatefulRoles.Quantity
