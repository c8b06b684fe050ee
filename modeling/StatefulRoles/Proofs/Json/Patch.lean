import StatefulRoles.Manifest.Written
import StatefulRoles.Proofs.Json.Place
/-!
# Patches of JSON documents

How a server applies a patch (RFC 6902) whose steps all add, at places that they give as pointers
(RFC 6901). A value is put in the place of the member with that name, or made a member; in an array
it is put in front of the item with that index.

Results:
* `part?_add?`: what is added is there.
* `part?_add?_apart`: all other parts of the document stay, whatever they are, if no token of the
  pointer names an item.
-/
namespace StatefulRoles.Json

/-! ## Pointers -/

/-- A token without its escapes. -/
def unescape : List Char → Option (List Char)
  | [] => some []
  | '~' :: '0' :: cs => (unescape cs).map ('~' :: ·)
  | '~' :: '1' :: cs => (unescape cs).map ('/' :: ·)
  | c :: cs => if c = '~' then none else (unescape cs).map (c :: ·)

/-- The tokens of a pointer. -/
def pointer? (text : String) : Option (List String) :=
  match text.toList with
  | [] => some []
  | '/' :: cs => (cs.splitOn '/').mapM fun token => (unescape token).map String.ofList
  | _ => none

/-- The index that a token names, which has no zero in front. -/
def index? (token : String) : Option Nat :=
  match token.toList with
  | ['0'] => some 0
  | c :: cs =>
    if c ≠ '0' && (c :: cs).all Char.isDigit then some (Text.natOfDigits (c :: cs)) else none
  | [] => none

/-- The place behind the last item of an array. -/
def endToken : String := "-"

/-- May the token lead into an array? -/
def isItemToken (token : String) : Bool := token = endToken || (index? token).isSome

/-! ## Steps -/

/-- A document with a value added at a pointer. All but the last token must lead to something. -/
def add? : List String → Json → Json → Option Json
  | [], value, _ => some value
  | [name], value, .obj members => some (.obj (Entries.put members name value))
  | [token], value, .arr items =>
    if token = endToken then some (.arr (items ++ [value]))
    else (index? token).bind fun index =>
      if index ≤ items.length then some (.arr (items.insertIdx index value)) else none
  | name :: rest, value, .obj members =>
    (members.lookup name).bind fun part =>
      (add? rest value part).map fun part => .obj (Entries.put members name part)
  | token :: rest, value, .arr items =>
    (index? token).bind fun index => items[index]?.bind fun part =>
      (add? rest value part).map fun part => .arr (items.set index part)
  | _, _, _ => none

/-- A document after one step of a patch. -/
def patchStep? (document step : Json) : Option Json :=
  match step.get? "op", step.get? "path", step.get? "value" with
  | some (.str "add"), some (.str path), some value =>
    (pointer? path).bind fun tokens => add? tokens value document
  | _, _, _ => none

/-- A document after a patch: all of its steps apply, one after the other, or none does. -/
def patch? (patch document : Json) : Option Json :=
  match patch with
  | .arr steps => steps.foldlM patchStep? document
  | _ => none

/-! ## What a step changes -/

variable {tokens : List String} {value document document' : Json}

/-- The place that a pointer leads to through objects. -/
def placeOf (tokens : List String) : Place := tokens.map .name

/-- Through objects, all but the last token name members that are there. -/
theorem add?_cons {name : String} (hname : isItemToken name = false)
    (h : add? (name :: tokens) value document = some document') :
    ∃ members part, document = .obj members ∧ document' = .obj (Entries.put members name part) ∧
      (tokens = [] ∧ part = value ∨
        ∃ before, members.lookup name = some before ∧ add? tokens value before = some part) := by
  obtain ⟨hend, hindex⟩ : name ≠ endToken ∧ index? name = none := by
    simpa [isItemToken] using hname
  cases document with
  | obj members =>
    cases tokens with
    | nil =>
      obtain rfl : .obj (Entries.put members name value) = document' := by simpa [add?] using h
      exact ⟨members, value, rfl, rfl, .inl ⟨rfl, rfl⟩⟩
    | cons token tokens =>
      obtain ⟨before, hbefore, part, hpart, rfl⟩ : ∃ before, members.lookup name = some before ∧
          ∃ part, add? (token :: tokens) value before = some part ∧
            .obj (Entries.put members name part) = document' := by
        simpa [add?, Option.bind_eq_some_iff] using h
      exact ⟨members, part, rfl, rfl, .inr ⟨before, hbefore, hpart⟩⟩
  | arr items => cases tokens <;> simp [add?, hend, hindex] at h
  | _ => cases tokens <;> simp [add?] at h

/-- What is added is there. -/
theorem part?_add? (hnames : ∀ token ∈ tokens, isItemToken token = false)
    (h : add? tokens value document = some document') :
    document'.part? (placeOf tokens) = some value := by
  induction tokens generalizing document document' with
  | nil =>
    obtain rfl : value = document' := by simpa [add?] using h
    rfl
  | cons name tokens ih =>
    obtain ⟨hname, hrest⟩ := List.forall_mem_cons.mp hnames
    obtain ⟨members, part, rfl, rfl, hpart⟩ := add?_cons hname h
    rcases hpart with ⟨rfl, rfl⟩ | ⟨before, hbefore, hpart⟩
    · simp [placeOf, part?, Entries.lookup_put]
    · have hadded := ih hrest hpart
      simpa [placeOf, part?, Entries.lookup_put] using hadded

/-- All other parts of the document stay. -/
theorem part?_add?_apart {place : Place} (hnames : ∀ token ∈ tokens, isItemToken token = false)
    (h : add? tokens value document = some document') (hplace : place.Apart (placeOf tokens)) :
    document'.part? place = document.part? place := by
  induction tokens generalizing document document' place with
  | nil => exact absurd hplace.symm (Place.not_apart_nil place)
  | cons name tokens ih =>
    obtain ⟨hname, hrest⟩ := List.forall_mem_cons.mp hnames
    obtain ⟨members, part, rfl, rfl, hpart⟩ := add?_cons hname h
    cases place with
    | nil => exact absurd hplace (Place.not_apart_nil _)
    | cons step place =>
      cases step with
      | index index => rfl
      | name other =>
        by_cases hother : other = name
        · subst hother
          have hplace : Place.Apart place (placeOf tokens) := Place.apart_cons.mp hplace
          rcases hpart with ⟨rfl, rfl⟩ | ⟨before, hbefore, hpart⟩
          · exact absurd hplace.symm (Place.not_apart_nil place)
          · simpa [part?, Entries.lookup_put, hbefore] using ih hrest hpart hplace
        · simp [part?, Entries.lookup_put, hother]

end StatefulRoles.Json
