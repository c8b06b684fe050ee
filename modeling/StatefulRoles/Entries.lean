/-!
# Entries by name

A list of named values in the order in which the names first came, each name once. `lookup_put`
says what a name leads to after an entry is put.
-/
namespace StatefulRoles

/-- Values by name, in order. -/
abbrev Entries (α : Type) := List (String × α)

namespace Entries

variable {α : Type}

/-- Sets the value of a name: in the place of the entry with that name, else at the end. -/
def put (entries : Entries α) (name : String) (value : α) : Entries α :=
  match entries with
  | [] => [(name, value)]
  | (n, v) :: rest => if n = name then (n, value) :: rest else (n, v) :: put rest name value

theorem lookup_cons (name other : String) (value : α) (rest : Entries α) :
    ((name, value) :: rest).lookup other = if other = name then some value else rest.lookup other := by
  by_cases h : other = name
  · rw [if_pos h, h, List.lookup_cons_self]
  · rw [if_neg h, List.lookup_cons, beq_false_of_ne h]

/-- A name leads to the value put last for it, and every other name to what it did. -/
theorem lookup_put (entries : Entries α) (name other : String) (value : α) :
    (entries.put name value).lookup other =
      if other = name then some value else entries.lookup other := by
  induction entries with
  | nil => simp [put, lookup_cons]
  | cons e rest ih =>
    obtain ⟨n, v⟩ := e
    by_cases hn : n = name
    · subst hn; grind [put, lookup_cons]
    · grind [put, lookup_cons]

end Entries
end StatefulRoles
