import StatefulRoles.Schema
/-!
# Places in a JSON value

A place is the way from a value to a part of it, through members of objects and items of arrays.

`part?` is what is at a place, and `put` puts something else there; `Apart` says of two places that
neither is inside the other.
-/
namespace StatefulRoles

/-- A way from a value to a part of it. -/
abbrev Place := List Issue.Step

/-- Neither place is on the way to the other. -/
def Place.Apart (p q : Place) : Prop := ¬ p <+: q ∧ ¬ q <+: p

instance (p q : Place) : Decidable (p.Apart q) :=
  inferInstanceAs (Decidable (¬ p <+: q ∧ ¬ q <+: p))

theorem Place.not_apart_nil (q : Place) : ¬ Place.Apart [] q := fun h => h.1 q.nil_prefix

theorem Place.Apart.symm {p q : Place} (h : p.Apart q) : q.Apart p := ⟨h.2, h.1⟩

theorem Place.apart_cons {step : Issue.Step} {p q : Place} :
    Place.Apart (step :: p) (step :: q) ↔ p.Apart q := by
  simp [Place.Apart]

namespace Json

/-- The part of a value at a place. -/
def part? : Place → Json → Option Json
  | [], x => some x
  | .name name :: place, .obj members => (members.lookup name).bind (part? place)
  | .index index :: place, .arr items => items[index]?.bind (part? place)
  | _, _ => none

/-- The value with another part at a place. A member that is missing at its end is made. -/
def put : Json → Place → Json → Json
  | _, [], value => value
  | .obj members, .name name :: place, value =>
    .obj (Entries.put members name (put ((members.lookup name).getD .null) place value))
  | .arr items, .index index :: place, value => .arr (items.modify index (put · place value))
  | x, _, _ => x

theorem put_ne_null {x : Json} {place : Place} (h : x ≠ .null) (h' : place ≠ []) (value : Json) :
    x.put place value ≠ .null := by
  cases place with
  | nil => exact absurd rfl h'
  | cons step place => cases step <;> cases x <;> simp_all [put]

end Json
end StatefulRoles
