import StatefulRoles.Entries
import StatefulRoles.Number.Binary64
/-!
# JSON values
-/
namespace StatefulRoles

/-- A JSON value. An object keeps its members in order, each name once. -/
inductive Json where
  | null
  | bool (value : Bool)
  | int (value : Int)
  | real (value : Binary64)
  | str (value : String)
  | arr (items : List Json)
  | obj (members : List (String × Json))

/-- The two kinds of values that hold others. -/
inductive Json.Container where
  | array
  | object
deriving DecidableEq, Repr

def Json.Container.name : Container → String
  | .array => "array"
  | .object => "object"

namespace Json

/-- The member of an object with a name. -/
def get? (name : String) : Json → Option Json
  | .obj members => members.lookup name
  | _ => none

/-- Does the value count as something? Null, false, zero and what is empty do not. -/
def isTruthy : Json → Bool
  | .null => false
  | .bool b => b
  | .int n => n ≠ 0
  | .real x => !x.isZero
  | .str s => s ≠ ""
  | .arr items => !items.isEmpty
  | .obj members => !members.isEmpty

mutual

/-- How many levels a value has: one, and those of its deepest part. -/
def levels : Json → Nat
  | .arr items => levelsOfItems items + 1
  | .obj members => levelsOfMembers members + 1
  | _ => 1

def levelsOfItems : List Json → Nat
  | [] => 0
  | item :: rest => max item.levels (levelsOfItems rest)

def levelsOfMembers : List (String × Json) → Nat
  | [] => 0
  | (_, value) :: rest => max value.levels (levelsOfMembers rest)

end

mutual

/-- The value with null in the place of every number that is infinite or none. -/
def withFiniteNumbers : Json → Json
  | .real x => if x.isFinite then .real x else .null
  | .arr items => .arr (itemsWithFiniteNumbers items)
  | .obj members => .obj (membersWithFiniteNumbers members)
  | j => j

def itemsWithFiniteNumbers : List Json → List Json
  | [] => []
  | item :: rest => item.withFiniteNumbers :: itemsWithFiniteNumbers rest

def membersWithFiniteNumbers : List (String × Json) → List (String × Json)
  | [] => []
  | (name, value) :: rest => (name, value.withFiniteNumbers) :: membersWithFiniteNumbers rest

end

end Json
end StatefulRoles
