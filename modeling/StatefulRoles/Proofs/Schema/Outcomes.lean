import StatefulRoles.Proofs.Json.Place
/-!
# Outcomes with sizes in them

A size that is given anywhere in a document is judged on its own: it is accepted, it is an issue at
its place, or its arithmetic traps and ends the reading.

Results:
* `Verdict.Decides`: a reading to which nothing but one size matters.
* `Judges.seq`: two outcomes whose issues and sizes are in different places do not disturb each
  other when they are put together.
-/
namespace StatefulRoles

/-! ## Outcomes -/

namespace Checked

variable {α β : Type}

def trap? : Checked α → Option Decimal.Trap
  | .trap t => some t
  | _ => none

theorem trap?_eq_some {x : Checked α} {t : Decimal.Trap} : x.trap? = some t ↔ x = .trap t := by
  cases x <;> simp [trap?]

/-- The causes of the issues at a place. -/
def causesAt (place : Place) : Checked α → List Issue.Cause
  | .issues is => (is.filter (·.place = place)).map (·.cause)
  | _ => []

/-- The places of the issues. -/
def places : Checked α → List Place
  | .issues is => is.map (·.place)
  | _ => []

theorem causesAt_eq_nil {place : Place} {x : Checked α} (h : place ∉ x.places) :
    x.causesAt place = [] := by
  cases x with
  | issues is =>
    have hnone : is.filter (·.place = place) = [] := by
      rw [List.filter_eq_nil_iff]
      intro i hi
      simp only [decide_eq_true_eq]
      rintro rfl
      exact h (List.mem_map_of_mem hi)
    rw [causesAt, hnone, List.map_nil]
  | _ => rfl

theorem trap?_map (f : α → β) (x : Checked α) : (f <$> x).trap? = x.trap? := by cases x <;> rfl

theorem causesAt_map (f : α → β) (x : Checked α) (place : Place) :
    (f <$> x).causesAt place = x.causesAt place := by cases x <;> rfl

theorem places_map (f : α → β) (x : Checked α) : (f <$> x).places = x.places := by cases x <;> rfl

theorem trap?_seq (f : Checked (α → β)) (x : Checked α) :
    (f <*> x).trap? = f.trap?.or x.trap? := by
  cases f <;> cases x <;> rfl

theorem causesAt_seq {f : Checked (α → β)} {x : Checked α} (hf : f.trap? = none)
    (hx : x.trap? = none) (place : Place) :
    (f <*> x).causesAt place = f.causesAt place ++ x.causesAt place := by
  cases f with
  | ok f => cases x <;> rfl
  | issues is =>
    cases x with
    | ok a => exact (List.append_nil _).symm
    | issues js =>
      show ((is ++ js).filter _).map _ = _
      simp [causesAt]
    | trap t => cases hx
  | trap t => cases hf

theorem places_seq (f : Checked (α → β)) (x : Checked α) :
    ∀ place ∈ (f <*> x).places, place ∈ f.places ∨ place ∈ x.places := by
  cases f with
  | ok f => cases x <;> simp [places, Seq.seq, seq, map]
  | issues is => cases x <;> simp [places, Seq.seq, seq]
  | trap t => simp [places, Seq.seq, seq]

theorem trap?_within (step : Issue.Step) (x : Checked α) : (x.within step).trap? = x.trap? := by
  cases x <;> rfl

theorem causesAt_within (step : Issue.Step) (place : Place) (x : Checked α) :
    (x.within step).causesAt (step :: place) = x.causesAt place := by
  cases x with
  | issues is => simp [within, causesAt, List.filter_map, Function.comp_def]
  | _ => rfl

theorem places_within (step : Issue.Step) (x : Checked α) :
    ∀ place ∈ (x.within step).places, place.head? = some step := by
  cases x <;> simp [within, places]

end Checked

/-! ## Sizes -/

/-- What becomes of a value that is given as a size. -/
inductive Verdict where
  | accepted
  | rejected (cause : Issue.Cause)
  | escaping (trap : Decimal.Trap)
deriving DecidableEq, Repr

namespace Verdict

/-- A text is judged by whether it is a quantity. -/
def ofText (text : String) : Verdict :=
  match Quantity.parse text with
  | .ok _ => .accepted
  | .error (.trap t) => .escaping t
  | .error _ => .rejected (.badQuantity text)

def trap? : Verdict → Option Decimal.Trap
  | .escaping t => some t
  | _ => none

def causes : Verdict → List Issue.Cause
  | .rejected cause => [cause]
  | _ => []

/-- A reading to which nothing but a value at a place matters goes as that value is judged. -/
inductive Decides {α : Type} (place : Place) : Verdict → Checked α → Prop where
  | accepted (a : α) : Decides place .accepted (.ok a)
  | rejected (cause : Issue.Cause) : Decides place (.rejected cause) (.issues [⟨place, cause⟩])
  | escaping (t : Decimal.Trap) : Decides place (.escaping t) (.trap t)

namespace Decides

variable {α β : Type} {verdict : Verdict} {place : Place}

theorem map {x : Checked α} (h : Decides place verdict x) (f : α → β) :
    Decides place verdict (f <$> x) := by
  cases h with
  | accepted a => exact .accepted (f a)
  | rejected cause => exact .rejected cause
  | escaping t => exact .escaping t

theorem within {x : Checked α} (h : Decides place verdict x) (step : Issue.Step) :
    Decides (step :: place) verdict (x.within step) := by
  cases h with
  | accepted a => exact .accepted a
  | rejected cause => exact .rejected cause
  | escaping t => exact .escaping t

theorem seq_ok {f : Checked (α → β)} (h : Decides place verdict f) (a : α) :
    Decides place verdict (f <*> .ok a) := by
  cases h with
  | accepted g => exact .accepted (g a)
  | rejected cause => exact .rejected cause
  | escaping t => exact .escaping t

theorem trap? {x : Checked α} (h : Decides place verdict x) : x.trap? = verdict.trap? := by
  cases h <;> rfl

theorem causesAt {x : Checked α} (h : Decides place verdict x) :
    x.causesAt place = verdict.causes := by
  cases h with
  | rejected cause => simp [Checked.causesAt, causes]
  | _ => rfl

end Decides

end Verdict

/-- A value that is given as a size. A block device may do without one, so that its size may be
null. -/
structure Size where
  place : Place
  value : Json
  nullable : Bool := false

namespace Size

/-- How a size is judged. -/
def verdict (g : Size) : Verdict :=
  match g.value with
  | .str text => .ofText text
  | .null => if g.nullable then .accepted else .rejected .notText
  | _ => .rejected .notText

/-- A size of a part, as one of the whole. -/
def under (step : Issue.Step) (g : Size) : Size := { g with place := step :: g.place }

def withValue (g : Size) (value : Json) : Size := { g with value }

end Size

/-- The sizes of a document, given where it has them. -/
abbrev Sizes := Json → List Size

namespace Sizes

/-- A document that is a size. -/
def itself (nullable : Bool) : Sizes := fun x => [⟨[], x, nullable⟩]

def inMember (name : String) (sizes : Sizes) : Sizes := fun x =>
  match x.get? name with
  | some value => (sizes value).map (·.under (.name name))
  | none => []

def orNull (sizes : Sizes) : Sizes
  | .null => []
  | x => sizes x

/-- The sizes of items, of which the first has the given index. -/
def ofItems (sizes : Sizes) (start : Nat) (items : List Json) : List Size :=
  (items.zipIdx start).flatMap fun (item, index) => (sizes item).map (·.under (.index index))

def inItems (sizes : Sizes) : Sizes
  | .arr items => sizes.ofItems 0 items
  | _ => []

end Sizes

/-! ## Judging the sizes -/

/-- The first step to a place is one of these. -/
def Behind (heads : Issue.Step → Prop) (place : Place) : Prop := ∃ step ∈ place.head?, heads step

theorem Behind.mono {heads heads' : Issue.Step → Prop} {place : Place} (h : Behind heads place)
    (hsub : ∀ step, heads step → heads' step) : Behind heads' place := by
  obtain ⟨step, hstep, hheads⟩ := h
  exact ⟨step, hstep, hsub step hheads⟩

/-- Outcomes that are apart: no first step leads to both. -/
def Apart (heads heads' : Issue.Step → Prop) : Prop := ∀ step, heads step → ¬ heads' step

theorem Behind.not {heads heads' : Issue.Step → Prop} {place : Place} (h : Behind heads place)
    (hapart : Apart heads heads') : ¬ Behind heads' place := by
  rintro ⟨step', hstep', hheads'⟩
  obtain ⟨step, hstep, hheads⟩ := h
  cases Option.mem_unique hstep hstep'
  exact hapart _ hheads hheads'

/-- An outcome in which each of the given sizes is judged on its own, and nothing else traps. All
issues and sizes are behind the given steps. -/
structure Judges {α : Type} (heads : Issue.Step → Prop) (sizes : List Size) (x : Checked α) :
    Prop where
  traps : x.trap? = sizes.findSome? (·.verdict.trap?)
  causes : x.trap? = none → ∀ g ∈ sizes, x.causesAt g.place = g.verdict.causes
  issues : ∀ place ∈ x.places, Behind heads place
  sizes : ∀ g ∈ sizes, Behind heads g.place

namespace Judges

variable {α β : Type} {heads heads' : Issue.Step → Prop} {sizes sizes' : List Size}

theorem ok (heads : Issue.Step → Prop) (a : α) : Judges heads [] (.ok a) :=
  ⟨rfl, nofun, nofun, nofun⟩

theorem issue (step : Issue.Step) (place : Place) (cause : Issue.Cause) :
    Judges (α := α) (· = step) [] (.issues [⟨step :: place, cause⟩]) where
  traps := rfl
  causes := nofun
  issues := List.forall_mem_singleton.mpr ⟨step, rfl, rfl⟩
  sizes := nofun

theorem mono {x : Checked α} (h : Judges heads sizes x) (hsub : ∀ step, heads step → heads' step) :
    Judges heads' sizes x :=
  ⟨h.traps, h.causes, fun place hplace => (h.issues place hplace).mono hsub,
    fun g hg => (h.sizes g hg).mono hsub⟩

theorem map {x : Checked α} (h : Judges heads sizes x) (f : α → β) :
    Judges heads sizes (f <$> x) where
  traps := by rw [Checked.trap?_map, h.traps]
  causes := by simpa only [Checked.trap?_map, Checked.causesAt_map] using h.causes
  issues := by simpa only [Checked.places_map] using h.issues
  sizes := h.sizes

/-- There is no issue at a place that is not behind the steps. -/
theorem causesAt_eq_nil {x : Checked α} (h : Judges heads sizes x) {place : Place}
    (hplace : ¬ Behind heads place) : x.causesAt place = [] :=
  Checked.causesAt_eq_nil fun hin => hplace (h.issues place hin)

/-- Two outcomes that are apart do not disturb each other. -/
theorem seq {f : Checked (α → β)} {x : Checked α} (hf : Judges heads sizes f)
    (hx : Judges heads' sizes' x) (hapart : Apart heads heads') :
    Judges (fun step => heads step ∨ heads' step) (sizes ++ sizes') (f <*> x) where
  traps := by rw [Checked.trap?_seq, List.findSome?_append, hf.traps, hx.traps]
  causes htrap g hg := by
    rw [Checked.trap?_seq, Option.or_eq_none_iff] at htrap
    rw [Checked.causesAt_seq htrap.1 htrap.2]
    rcases List.mem_append.mp hg with hg | hg
    · have hnone := hx.causesAt_eq_nil ((hf.sizes g hg).not hapart)
      rw [hf.causes htrap.1 g hg, hnone, List.append_nil]
    · have hnone := hf.causesAt_eq_nil ((hx.sizes g hg).not fun step h h' => hapart step h' h)
      rw [hx.causes htrap.2 g hg, hnone, List.nil_append]
  issues place hplace := by
    rcases Checked.places_seq f x place hplace with hplace | hplace
    · exact (hf.issues place hplace).mono fun _ => .inl
    · exact (hx.issues place hplace).mono fun _ => .inr
  sizes g hg := by
    rcases List.mem_append.mp hg with hg | hg
    · exact (hf.sizes g hg).mono fun _ => .inl
    · exact (hx.sizes g hg).mono fun _ => .inr

end Judges

end StatefulRoles
