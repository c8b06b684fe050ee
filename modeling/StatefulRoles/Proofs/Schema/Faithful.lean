import Mathlib.Data.List.Forall2
import StatefulRoles.Schema
/-!
# Schemas that read back what they write

Reading is lenient, so a value is seldom written as it was read. But what is written of a value that
was read has to be read as that value again: no leniency may work on its own result.

Results:
* `Checked.seq_eq_ok`, `Checked.sequence_eq_ok`: outcomes together are a value exactly when each of
  them is one.
* `faithful_text` to `faithful_listed`: the scalars are faithful.
* `Faithful.option`, `Faithful.list`, `Faithful.map`: so is what is put together of faithful parts.
* `Faithful.object`, with `Faithful.required` and `Faithful.defaulted` for the members: so is an
  object whose members are, if the values taken for missing members can be read themselves.
-/
namespace StatefulRoles

namespace Json

theorem withFiniteNumbers_arr {items : List Json} :
    (arr items).withFiniteNumbers = .arr items ↔ ∀ item ∈ items, item.withFiniteNumbers = item := by
  have hitems : itemsWithFiniteNumbers items = items ↔
      ∀ item ∈ items, item.withFiniteNumbers = item := by
    induction items with
    | nil => simp [itemsWithFiniteNumbers]
    | cons item items ih => simp [itemsWithFiniteNumbers, ih]
  simp [withFiniteNumbers, hitems]

theorem withFiniteNumbers_obj {members : Entries Json} :
    (obj members).withFiniteNumbers = .obj members ↔
      ∀ m ∈ members, m.2.withFiniteNumbers = m.2 := by
  have hmembers : membersWithFiniteNumbers members = members ↔
      ∀ m ∈ members, m.2.withFiniteNumbers = m.2 := by
    induction members with
    | nil => simp [membersWithFiniteNumbers]
    | cons m members ih =>
      rw [List.forall_mem_cons, ← ih]
      simp [membersWithFiniteNumbers, Prod.ext_iff]
  simp [withFiniteNumbers, hmembers]

end Json

namespace Checked

variable {α β : Type}

/-! ## Outcomes that are values -/

theorem map_eq_ok {f : α → β} {x : Checked α} {b : β} :
    x.map f = .ok b ↔ ∃ a, x = .ok a ∧ f a = b := by
  cases x <;> simp [map]

/-- Two outcomes together are a value exactly when both are. -/
theorem seq_eq_ok {f : Checked (α → β)} {x : Checked α} {b : β} :
    f <*> x = .ok b ↔ ∃ g, f = .ok g ∧ ∃ a, x = .ok a ∧ g a = b := by
  show Checked.seq f x = .ok b ↔ _
  cases f with
  | ok g => simp [seq, map_eq_ok]
  | issues is => cases x <;> simp [seq]
  | trap t => simp [seq]

/-- So the outcomes in a row that make up a value are taken apart from the last one to the first. -/
theorem exists_seq_eq_ok {f : Checked (α → β)} {x : Checked α} {P : β → Prop} :
    (∃ b, f <*> x = .ok b ∧ P b) ↔ ∃ g, f = .ok g ∧ ∃ a, x = .ok a ∧ P (g a) := by
  simp only [seq_eq_ok]
  constructor
  · rintro ⟨_, ⟨g, hg, a, ha, rfl⟩, h⟩
    exact ⟨g, hg, a, ha, h⟩
  · rintro ⟨g, hg, a, ha, h⟩
    exact ⟨_, ⟨g, hg, a, ha, rfl⟩, h⟩

theorem exists_map_eq_ok {f : α → β} {x : Checked α} {P : β → Prop} :
    (∃ b, f <$> x = .ok b ∧ P b) ↔ ∃ a, x = .ok a ∧ P (f a) := by
  show (∃ b, x.map f = .ok b ∧ P b) ↔ _
  cases x <;> simp [map]

theorem within_eq_ok {step : Issue.Step} {x : Checked α} {a : α} :
    x.within step = .ok a ↔ x = .ok a := by
  cases x <;> simp [within]

theorem bind_eq_ok {x : Checked α} {f : α → Checked β} {b : β} :
    x.bind f = .ok b ↔ ∃ a, x = .ok a ∧ f a = .ok b := by
  cases x <;> simp [bind]

/-- The outcomes of a list are a value together exactly when each of them is one. -/
theorem sequence_eq_ok {xs : List (Checked α)} {as : List α} :
    sequence xs = .ok as ↔ xs = as.map .ok := by
  induction xs generalizing as with
  | nil => cases as <;> simp [sequence]
  | cons x xs ih =>
    have hcons : sequence (x :: xs) = List.cons <$> x <*> sequence xs := rfl
    rw [hcons, seq_eq_ok, exists_map_eq_ok]
    cases as <;> simp [ih]

end Checked

namespace Schema

variable {α : Type} {s : Schema α} {a : α}

/-- The value is read again from what is written of it, and no number of it gets lost when it is
sent, if none did when it was read: infinite numbers are not sent as they are. -/
structure Again (s : Schema α) (finite : Prop) (a : α) : Prop where
  read : s.read (s.write a) = .ok a
  finite : finite → (s.write a).withFiniteNumbers = s.write a

/-- Whatever was read is read again from what is written of it. -/
def Faithful (s : Schema α) : Prop :=
  ∀ x a, s.read x = .ok a → s.Again (x.withFiniteNumbers = x) a

/-! ## Scalars -/

theorem text_read_eq_ok {x : Json} {t : String} : text.read x = .ok t ↔ x = .str t := by
  cases x <;> simp [text, Checked.issue]

theorem faithful_text : text.Faithful := fun _ _ _ => ⟨rfl, fun _ => rfl⟩

theorem faithful_integer : integer.Faithful := fun _ _ _ => ⟨rfl, fun _ => rfl⟩

theorem faithful_boolean : boolean.Faithful := fun _ _ _ => ⟨rfl, fun _ => rfl⟩

theorem faithful_anything : anything.Faithful := by
  rintro x _ ⟨⟩
  exact ⟨rfl, id⟩

/-- The text of a quantity is the text that was read. -/
theorem quantity_read_eq_ok {x : Json} {t : String} :
    quantity.read x = .ok t ↔ x = .str t ∧ ∃ q, Quantity.parse t = .ok q := by
  show (text.read x).bind _ = .ok t ↔ _
  rw [Checked.bind_eq_ok]
  constructor
  · rintro ⟨t', ht', hparse⟩
    split at hparse
    · rename_i q hq
      cases hparse
      exact ⟨text_read_eq_ok.mp ht', q, hq⟩
    · cases hparse
    · cases hparse
  · rintro ⟨rfl, q, hq⟩
    exact ⟨t, rfl, by rw [hq]⟩

theorem faithful_quantity : quantity.Faithful := fun _ _ h =>
  ⟨quantity_read_eq_ok.mpr ⟨rfl, (quantity_read_eq_ok.mp h).2⟩, fun _ => rfl⟩

/-- A table is faithful if it has every value under the value's name. -/
theorem faithful_listed {table : List (String × α)} {name : α → String}
    (h : ∀ a, table.lookup (name a) = some a) : (listed table name).Faithful := by
  intro x a _
  refine ⟨?_, fun _ => rfl⟩
  simp only [listed, h a]

/-! ## Composition -/

/-- What was read as a value was not null, and was read by the schema of the value. -/
theorem option_read_eq_some {x : Json} :
    (option s).read x = .ok (some a) ↔ x ≠ .null ∧ s.read x = .ok a := by
  have hread (hx : x ≠ .null) : (option s).read x = (s.read x).map some := by
    cases x with
    | null => exact absurd rfl hx
    | _ => rfl
  by_cases hx : x = .null
  · subst hx
    exact ⟨nofun, fun h => absurd rfl h.1⟩
  · rw [hread hx, Checked.map_eq_ok]
    simp [hx]

/-- A value must not be written as null, which is read as a missing one. -/
theorem Faithful.option (h : s.Faithful) (hnull : ∀ a, s.write a ≠ .null) :
    (Schema.option s).Faithful := by
  intro x m hm
  cases m with
  | none => exact ⟨rfl, fun _ => rfl⟩
  | some a =>
    have hagain := h x a (option_read_eq_some.mp hm).2
    exact ⟨option_read_eq_some.mpr ⟨hnull a, hagain.read⟩, hagain.finite⟩

/-- The items of a list that was read, one by one. -/
theorem list_read_eq_ok {items : List Json} {as : List α} :
    (list s).read (.arr items) = .ok as ↔ List.Forall₂ (fun x a => s.read x = .ok a) items as := by
  -- the places of the items matter for the issues alone
  have hplaces (start : Nat) : (items.zipIdx start).map
      (fun place => (s.read place.1).within (.index place.2)) = as.map .ok ↔
        List.Forall₂ (fun x a => s.read x = .ok a) items as := by
    induction items generalizing start as with
    | nil => simp
    | cons item items ih =>
      cases as with
      | nil => simp
      | cons a as => simp [List.zipIdx_cons, Checked.within_eq_ok, ih]
  exact Checked.sequence_eq_ok.trans (hplaces 0)

theorem Faithful.list (h : s.Faithful) : (Schema.list s).Faithful := by
  intro x as has
  obtain ⟨items, rfl⟩ : ∃ items, x = .arr items := by
    cases x with
    | arr items => exact ⟨items, rfl⟩
    | _ => cases has
  have hall := list_read_eq_ok.mp has
  clear has
  constructor
  · refine list_read_eq_ok.mpr ?_
    induction hall with
    | nil => exact .nil
    | cons hitem _ ih => exact .cons (h _ _ hitem).read ih
  · rw [Json.withFiniteNumbers_arr]
    intro hitems
    refine Json.withFiniteNumbers_arr.mpr ?_
    induction hall with
    | nil => exact hitems
    | cons hitem _ ih =>
      obtain ⟨hfirst, hrest⟩ := List.forall_mem_cons.mp hitems
      exact List.forall_mem_cons.mpr ⟨(h _ _ hitem).finite hfirst, ih hrest⟩

/-- The values by name that were read, one by one. -/
theorem map_read_eq_ok {members : Members} {as : Entries α} :
    (map s).read (.obj members) = .ok as ↔
      List.Forall₂ (fun m a => m.1 = a.1 ∧ s.read m.2 = .ok a.2) members as := by
  refine Checked.sequence_eq_ok.trans ?_
  induction members generalizing as with
  | nil => simp
  | cons member members ih =>
    cases as with
    | nil => simp
    | cons a as =>
      have hvalue : ((s.read member.2).within (.name member.1)).map (member.1, ·) = .ok a ↔
          member.1 = a.1 ∧ s.read member.2 = .ok a.2 := by
        rw [Checked.map_eq_ok]
        simp only [Checked.within_eq_ok, Prod.ext_iff]
        constructor
        · rintro ⟨b, hb, hname, rfl⟩
          exact ⟨hname, hb⟩
        · rintro ⟨hname, hb⟩
          exact ⟨a.2, hb, hname, rfl⟩
      simp [hvalue, ih]

theorem Faithful.map (h : s.Faithful) : (Schema.map s).Faithful := by
  intro x as has
  obtain ⟨members, rfl⟩ : ∃ members, x = .obj members := by
    cases x with
    | obj members => exact ⟨members, rfl⟩
    | _ => cases has
  have hall := map_read_eq_ok.mp has
  clear has
  constructor
  · refine map_read_eq_ok.mpr ?_
    induction hall with
    | nil => exact .nil
    | cons hmember _ ih => exact .cons ⟨rfl, (h _ _ hmember.2).read⟩ ih
  · rw [Json.withFiniteNumbers_obj]
    intro hmembers
    refine Json.withFiniteNumbers_obj.mpr ?_
    induction hall with
    | nil => exact hmembers
    | cons hmember _ ih =>
      obtain ⟨hfirst, hrest⟩ := List.forall_mem_cons.mp hmembers
      exact List.forall_mem_cons.mpr ⟨(h _ _ hmember.2).finite hfirst, ih hrest⟩

/-! ## Objects -/

section

variable {finite : Prop} {o : Members} {name : String} {d : α}

theorem required_eq_ok :
    o.required name s = .ok a ↔ ∃ x, o.lookup name = some x ∧ s.read x = .ok a := by
  unfold Members.required
  split
  · rename_i x hx
    simp [hx, Checked.within_eq_ok]
  · rename_i hnone
    simp [hnone]

theorem defaulted_eq_ok : o.defaulted name s d = .ok a ↔
    (∃ x, o.lookup name = some x ∧ s.read x = .ok a) ∨ o.lookup name = none ∧ d = a := by
  unfold Members.defaulted
  split
  · rename_i x hx
    simp [hx, Checked.within_eq_ok]
  · rename_i hnone
    simp [hnone]

/-- What is read again is read again as a member. -/
theorem Again.required (h : s.Again finite a) (hwritten : o.lookup name = some (s.write a)) :
    o.required name s = .ok a :=
  required_eq_ok.mpr ⟨_, hwritten, h.read⟩

theorem Again.defaulted (h : s.Again finite a) (hwritten : o.lookup name = some (s.write a)) :
    o.defaulted name s d = .ok a :=
  defaulted_eq_ok.mpr (.inl ⟨_, hwritten, h.read⟩)

/-- No number of the members gets lost when they are sent. -/
def Members.Finite (o : Members) : Prop := ∀ m ∈ o, m.2.withFiniteNumbers = m.2

theorem Members.Finite.lookup {x : Json} (h : o.Finite) (hx : o.lookup name = some x) :
    x.withFiniteNumbers = x := by
  obtain ⟨before, after, rfl, -⟩ := List.lookup_eq_some_iff.mp hx
  exact h (name, x) (by simp)

/-- A member that was read is read again. -/
theorem Faithful.required (h : s.Faithful) (hread : o.required name s = .ok a) :
    s.Again o.Finite a := by
  obtain ⟨x, hx, ha⟩ := required_eq_ok.mp hread
  have hagain := h x a ha
  exact ⟨hagain.read, fun ho => hagain.finite (ho.lookup hx)⟩

/-- So is one with a value to take when it is missing, if that value is read again. -/
theorem Faithful.defaulted (h : s.Faithful) (hd : s.Again True d)
    (hread : o.defaulted name s d = .ok a) : s.Again o.Finite a := by
  rcases defaulted_eq_ok.mp hread with ⟨x, hx, ha⟩ | ⟨-, rfl⟩
  · have hagain := h x a ha
    exact ⟨hagain.read, fun ho => hagain.finite (ho.lookup hx)⟩
  · exact ⟨hd.read, fun _ => hd.finite trivial⟩

end

theorem object_eq_ok {read : Members → Checked α} {x : Json} :
    object read x = .ok a ↔ ∃ o, x = .obj o ∧ read o = .ok a := by
  cases x <;> simp [object, Checked.issue]

/-- An object is read again if its members are. -/
theorem Faithful.object {read : Members → Checked α} {members : α → Members}
    (hread : s.read = Schema.object read) (hwrite : ∀ a, s.write a = .obj (members a))
    (h : ∀ o a, read o = .ok a →
      read (members a) = .ok a ∧ (o.Finite → (members a).Finite)) : s.Faithful := by
  intro x a ha
  rw [hread, object_eq_ok] at ha
  obtain ⟨o, rfl, ha⟩ := ha
  obtain ⟨hagain, hfinite⟩ := h o a ha
  refine ⟨?_, fun ho => ?_⟩
  · rw [hread, hwrite]
    exact hagain
  · rw [hwrite]
    exact Json.withFiniteNumbers_obj.mpr (hfinite (Json.withFiniteNumbers_obj.mp ho))

end Schema
end StatefulRoles
