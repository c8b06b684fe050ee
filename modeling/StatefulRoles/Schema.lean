import StatefulRoles.Json
import StatefulRoles.Number.Numeral
import StatefulRoles.Quantity
import StatefulRoles.Text.Quoted
/-!
# Schemas

A schema reads values of a type from JSON and writes them as JSON. Reading is lenient where the
meaning is plain (a whole number may be written as a text) and reports every issue of a value, in
the order of its fields, each with its place. A quantity whose arithmetic traps ends the reading at
once: whatever issues came before it are not reported.
-/
namespace StatefulRoles

/-- One step from a value into a part of it. -/
inductive Issue.Step where
  | name (name : String)
  | index (index : Nat)
deriving DecidableEq, Repr

/-- What is wrong with a value. -/
inductive Issue.Cause where
  | missing
  | notObject
  | notText
  | notInteger
  | unreadableInteger
  | oversizedInteger
  | fractionalInteger
  | infiniteInteger
  | notBoolean
  | unreadableBoolean
  | notList
  | notMap
  | notListed
  | badQuantity (text : String)
  | negativeDevices
deriving DecidableEq, Repr

/-- A fault of a value and the way to where it is. -/
structure Issue where
  place : List Issue.Step
  cause : Issue.Cause
deriving DecidableEq, Repr

/-- The rule that a value breaks, in words. The causes without words are about the kind of the
value alone. -/
def Issue.Cause.message? : Issue.Cause → Option String
  | .badQuantity text => some s!"Value error, invalid resource quantity: {Text.Quoted.ofText text}"
  | .negativeDevices => some "Value error, num_devices cannot be negative"
  | _ => none

/-- The outcome of reading: a value, the issues found, or the trap that ended it. -/
inductive Checked (α : Type) where
  | ok (value : α)
  | issues (issues : List Issue)
  | trap (cause : Decimal.Trap)
deriving Repr

namespace Checked

variable {α β : Type}

/-- An outcome with one issue, at the value itself. -/
def issue (cause : Issue.Cause) : Checked α := .issues [⟨[], cause⟩]

def map (f : α → β) : Checked α → Checked β
  | .ok a => .ok (f a)
  | .issues is => .issues is
  | .trap t => .trap t

/-- Both outcomes together: their issues add up, and the first trap ends all. -/
def seq : Checked (α → β) → Checked α → Checked β
  | .ok f, x => x.map f
  | .issues is, .ok _ => .issues is
  | .issues is, .issues js => .issues (is ++ js)
  | .issues _, .trap t => .trap t
  | .trap t, _ => .trap t

instance : Applicative Checked where
  pure := .ok
  map := map
  seq f x := seq f (x ())

/-- The outcome for the whole, given the outcome for a part. -/
def within (step : Issue.Step) : Checked α → Checked α
  | .issues is => .issues (is.map fun i => { i with place := step :: i.place })
  | x => x

/-- The outcomes of a list, together. -/
def sequence : List (Checked α) → Checked (List α)
  | [] => .ok []
  | x :: xs => seq (map List.cons x) (sequence xs)

/-- A further reading of a value that was read. -/
def bind (x : Checked α) (f : α → Checked β) : Checked β :=
  match x with
  | .ok a => f a
  | .issues is => .issues is
  | .trap t => .trap t

end Checked

/-- How values of a type are read from JSON and written as JSON. The free parts of a value are
those that may be any JSON value. -/
structure Schema (α : Type) where
  read : Json → Checked α
  write : α → Json
  free : α → List Json := fun _ => []

namespace Schema

variable {α β : Type}

/-! ## Scalars -/

/-- A text. -/
def text : Schema String where
  read
    | .str s => .ok s
    | _ => .issue .notText
  write := .str

/-- Is the number one of 64 bits with a sign? -/
def isWord (n : Int) : Bool := -0x8000000000000000 ≤ n && n < 0x8000000000000000

/-- The whole number of 64 bits that a number with a fraction or an exponent is. The least one is
left out. -/
def wordOfReal? (x : Binary64) : Option Int :=
  x.toInt?.filter fun n => isWord n && n ≠ -0x8000000000000000

/-- Why a number with a fraction or an exponent is no whole number of 64 bits. -/
def realCause (x : Binary64) : Issue.Cause :=
  if !x.isFinite then .infiniteInteger
  else if x.toInt?.isSome then .oversizedInteger
  else .fractionalInteger

/-- A whole number. -/
def integer : Schema Int where
  read
    | .int n => .ok n
    | .bool b => .ok (if b then 1 else 0)
    | .real x =>
      match wordOfReal? x with
      | some n => .ok n
      | none => .issue (realCause x)
    | .str s =>
      match Numeral.read s.toList with
      | .ok n => .ok n
      | .error .oversized => .issue .oversizedInteger
      | .error .unreadable => .issue .unreadableInteger
    | _ => .issue .notInteger
  write := .int

/-- The words for the two truth values, in lower case. -/
def booleanWords : List (String × Bool) :=
  [("0", false), ("off", false), ("f", false), ("false", false), ("n", false), ("no", false),
   ("1", true), ("on", true), ("t", true), ("true", true), ("y", true), ("yes", true)]

/-- The truth value that a text names, in whatever case. -/
def booleanOfText? (s : String) : Option Bool :=
  booleanWords.lookup (String.ofList (s.toList.map Char.toLower))

/-- The truth value that a whole number stands for; beyond 64 bits it is not even taken for one. -/
def booleanOfInt (n : Int) : Checked Bool :=
  if !isWord n then .issue .notBoolean
  else if n = 0 then .ok false else if n = 1 then .ok true else .issue .unreadableBoolean

/-- A truth value. -/
def boolean : Schema Bool where
  read
    | .bool b => .ok b
    | .int n => booleanOfInt n
    | .real x =>
      match wordOfReal? x with
      | some n => booleanOfInt n
      | none => .issue .notBoolean
    | .str s =>
      match booleanOfText? s with
      | some b => .ok b
      | none => .issue .unreadableBoolean
    | _ => .issue .notBoolean
  write := .bool

/-- Any value, as it is. -/
def anything : Schema Json where
  read := .ok
  write := id
  free j := [j]

/-- The text of a quantity, kept as it is written. Mirrors `_validate_quantity`. -/
def quantity : Schema String where
  read j := (text.read j).bind fun s =>
    match Quantity.parse s with
    | .ok _ => .ok s
    | .error (.trap t) => .trap t
    | .error _ => .issue (.badQuantity s)
  write := .str

/-- One of the values of a table, by its name there. -/
def listed (table : List (String × α)) (name : α → String) : Schema α where
  read
    | .str s =>
      match table.lookup s with
      | some a => .ok a
      | none => .issue .notListed
    | _ => .issue .notListed
  write a := .str (name a)

/-! ## Composition -/

/-- A value or null. -/
def option (s : Schema α) : Schema (Option α) where
  read
    | .null => .ok none
    | j => (s.read j).map some
  write
    | none => .null
    | some a => s.write a
  free
    | none => []
    | some a => s.free a

/-- A list of values. -/
def list (s : Schema α) : Schema (List α) where
  read
    | .arr items =>
      .sequence (items.zipIdx.map fun (item, index) => (s.read item).within (.index index))
    | _ => .issue .notList
  write xs := .arr (xs.map s.write)
  free xs := xs.flatMap s.free

/-- Values by name. -/
def map (s : Schema α) : Schema (Entries α) where
  read
    | .obj members =>
      .sequence (members.map fun (name, value) =>
        ((s.read value).within (.name name)).map (name, ·))
    | _ => .issue .notMap
  write xs := .obj (xs.map fun (name, x) => (name, s.write x))
  free xs := xs.flatMap fun (_, x) => s.free x

/-- The members of an object that is being read. -/
abbrev Members := Entries Json

/-- Reads an object by its members; members that no one asks for do not matter. -/
def object (read : Members → Checked α) : Json → Checked α
  | .obj members => read members
  | _ => .issue .notObject

/-- A member that must be there. -/
def Members.required (members : Members) (name : String) (s : Schema α) : Checked α :=
  match members.lookup name with
  | some value => (s.read value).within (.name name)
  | none => .issues [⟨[.name name], .missing⟩]

/-- A member with a value to take when it is not there. -/
def Members.defaulted (members : Members) (name : String) (s : Schema α) (value : α) : Checked α :=
  match members.lookup name with
  | some value => (s.read value).within (.name name)
  | none => .ok value

/-! ## Sending -/

/-- How many levels a free part of a value may have when the value is sent. -/
def maxFreeLevels : Nat := 255

/-- A value as it is sent: as it is written, but with null for the numbers that JSON proper does
not know. A value whose free parts go too deep cannot be sent. -/
def send? (s : Schema α) (a : α) : Option Json :=
  if (s.free a).all (·.levels ≤ maxFreeLevels) then some (s.write a).withFiniteNumbers else none

end Schema
end StatefulRoles
