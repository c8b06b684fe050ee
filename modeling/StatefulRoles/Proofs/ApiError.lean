import Mathlib.Data.List.Basic
import StatefulRoles.Proofs.Json.Grammar
import StatefulRoles.Proofs.Retry
import StatefulRoles.Proofs.Text.Utf8
/-!
# Conflicts, and objects that exist

The code 409 is shared by two kinds of answers. Which one an answer is goes by the reason that its
body states, as the last member of that name of the object that it holds, and by the phrase of the
status line if the body states none.

Results:
* `Body.reason?_eq_some_iff`: the reason of a body is what the text of the body says it is.
* `reason?_toUTF8`: a text states the same reason as its bytes.
* `told_of_readable`: of a fault that can be told, what it is, and why.
-/
namespace StatefulRoles

open ApiError

namespace ApiError

variable {e : ApiError} {body : Body} {reason : Json} {depth : Nat}

/-- A body holds an object, no deeper than said, and the last of its members called `reason` counts
as something. -/
def Body.States (depth : Nat) (body : Body) (reason : Json) : Prop :=
  ∃ written, Json.Holds depth body.chars (.object written) ∧
    written.reverse.lookup "reason" = some reason ∧ reason.isTruthy = true

/-- The reason of a body is what the text of the body says it is. -/
theorem Body.reason?_eq_some_iff :
    body.reason? depth = .ok (some reason) ↔ body.States depth reason := by
  unfold Body.reason? Body.States
  constructor
  · intro h
    cases hparse : Json.parse depth body.chars with
    | error refusal =>
      rw [hparse] at h
      cases refusal <;> cases h
    | ok j =>
      rw [hparse] at h
      obtain ⟨hget, htruthy⟩ := Option.filter_eq_some_iff.mp (Except.ok.inj h)
      cases j with
      | obj members =>
        obtain ⟨written, hholds, rfl⟩ := Json.parse_eq_obj_iff.mp hparse
        have hlast : (Entries.collect [] written).lookup "reason" = some reason := hget
        rw [Entries.lookup_collect, List.lookup_nil, Option.or_none] at hlast
        exact ⟨written, hholds, hlast, htruthy⟩
      | _ => cases hget
  · rintro ⟨written, hholds, hlast, htruthy⟩
    have hget : (Entries.collect [] written).lookup "reason" = some reason := by
      rw [Entries.lookup_collect, hlast, Option.some_or]
    rw [Json.parse_eq_obj_iff.mpr ⟨written, hholds, rfl⟩]
    exact congrArg _ (Option.filter_eq_some_iff.mpr ⟨hget, htruthy⟩)

/-- What the body states is the reason, whatever the phrase. -/
theorem reason?_of_states (hbody : e.body = some body) (h : body.States depth reason) :
    e.reason? depth = .ok (some reason) := by
  unfold ApiError.reason?
  rw [hbody]
  dsimp only
  rw [Body.reason?_eq_some_iff.mpr h]
  rfl

/-- If the body states none, the phrase is the reason. -/
theorem reason?_of_silent (hreadable : ∀ container, ¬(Fault.api e).Unreadable depth container)
    (hcode : e.hasCode 409 = true)
    (h : ∀ body reason, e.body = some body → ¬body.States depth reason) :
    e.reason? depth = .ok (e.reason.map .str) := by
  unfold ApiError.reason?
  cases hbody : e.body with
  | none => rfl
  | some body =>
    dsimp only
    cases hreason : body.reason? depth with
    | error container =>
      have hdeep := reason?_eq_error.mp hreason
      exact absurd ⟨e, body, rfl, hasCode_iff.mp hcode, hbody, hdeep⟩ (hreadable container)
    | ok stated =>
      cases stated with
      | none => rfl
      | some reason => exact absurd (Body.reason?_eq_some_iff.mp hreason) (h body reason hbody)

/-- With the code, the answer is one of the two, and the reason says which. -/
theorem told_by_reason (hcode : e.hasCode 409 = true) {reason? : Option Json}
    (hreason : e.reason? depth = .ok reason?) : ∃ present, e.isAlreadyExists depth = .ok present ∧
      e.isConflict depth = .ok (!present) ∧ (present = true ↔ reason? = some (.str "AlreadyExists")) := by
  unfold isAlreadyExists isConflict hasReason
  simp only [hcode, if_true, hreason]
  refine ⟨_, rfl, rfl, ?_⟩
  dsimp only
  split
  · rw [decide_eq_true_iff, Option.some.injEq, Json.str.injEq]
  · rename_i hother
    exact iff_of_false nofun (hother _)

/-! ## Texts and bytes -/

/-- A text states the same reason as its bytes. -/
theorem reason?_toUTF8 (depth : Nat) (e : ApiError) (text : String) :
    ApiError.reason? depth { e with body := some (.text text) } =
      ApiError.reason? depth { e with body := some (.bytes text.toUTF8.data.toList) } := by
  have hchars : Body.chars (.text text) = Body.chars (.bytes text.toUTF8.data.toList) :=
    (Text.Utf8.decode_toUTF8 text).symm
  unfold ApiError.reason? Body.reason?
  dsimp only
  rw [hchars]

end ApiError

namespace Fault

/-- What is told of a fault, and why: whether it is a conflict, and whether the object to be created
is present. -/
structure Told (depth : Nat) (f : Fault) (conflict present : Bool) : Prop where
  isConflict : f.isConflict depth = .ok conflict
  isAlreadyExists : f.isAlreadyExists depth = .ok present
  apart : ¬(conflict = true ∧ present = true)
  either : conflict = true ∨ present = true ↔ ∃ e, f = .api e ∧
    e.status.bind (·.code?) = some 409
  found : f.isNotFound = true → conflict = false ∧ present = false
  /-- what the body states decides, whatever the phrase -/
  stated : ∀ e body reason, f = .api e → e.status.bind (·.code?) = some 409 →
    e.body = some body → body.States depth reason → (present = true ↔ reason = .str "AlreadyExists")
  /-- otherwise the phrase does -/
  silent : ∀ e, f = .api e → e.status.bind (·.code?) = some 409 →
    (∀ body reason, e.body = some body → ¬body.States depth reason) →
      (present = true ↔ e.reason = some "AlreadyExists")

variable {depth : Nat}

theorem holds_of_ok {question : ApiError → Except Json.Container Bool} {e : ApiError} {b : Bool}
    (h : question e = .ok b) : holds question (.api e) = .ok b := mapError_eq_ok.mpr h

/-- A fault that is no answer with the code is neither. -/
theorem told_of_other {f : Fault}
    (h : ∀ e, f = .api e → e.status.bind (·.code?) ≠ some 409) : Told depth f false false := by
  have hneither : f.isConflict depth = .ok false ∧ f.isAlreadyExists depth = .ok false := by
    cases f with
    | api e =>
      have hcode : ¬e.hasCode 409 = true := fun hcode => h e rfl (hasCode_iff.mp hcode)
      exact ⟨holds_of_ok (if_neg hcode), holds_of_ok (if_neg hcode)⟩
    | _ => exact ⟨rfl, rfl⟩
  refine ⟨hneither.1, hneither.2, ?_, ?_, fun _ => ⟨rfl, rfl⟩, ?_, ?_⟩
  · rintro ⟨h, -⟩
    cases h
  · refine iff_of_false (by simp) ?_
    rintro ⟨e, he, hstatus⟩
    exact h e he hstatus
  · exact fun e _ _ he hstatus => absurd hstatus (h e he)
  · exact fun e he hstatus => absurd hstatus (h e he)

theorem told_of_code {e : ApiError}
    (hreadable : ∀ container, ¬(Fault.api e).Unreadable depth container)
    (hstatus : e.status.bind (·.code?) = some 409) :
    ∃ present, Told depth (.api e) (!present) present := by
  have hcode := hasCode_iff.mpr hstatus
  obtain ⟨reason?, hreason⟩ : ∃ reason?, e.reason? depth = .ok reason? := by
    by_cases h : ∃ body reason, e.body = some body ∧ body.States depth reason
    · obtain ⟨body, reason, hbody, hstates⟩ := h
      exact ⟨_, reason?_of_states hbody hstates⟩
    · refine ⟨_, reason?_of_silent hreadable hcode fun body reason hbody hstates => ?_⟩
      exact h ⟨body, reason, hbody, hstates⟩
  obtain ⟨present, hexists, hconflict, hiff⟩ := told_by_reason hcode hreason
  refine ⟨present, holds_of_ok hconflict, holds_of_ok hexists, by simp, ?_, ?_, ?_, ?_⟩
  · exact iff_of_true (by cases present <;> simp) ⟨e, rfl, hstatus⟩
  · intro hfound
    have hmissing : e.status.bind (·.code?) = some 404 := hasCode_iff.mp hfound
    simp [hstatus] at hmissing
  · rintro _ body reason ⟨⟩ - hbody hstates
    have hsome := reason?_of_states hbody hstates
    rw [hreason, Except.ok.injEq] at hsome
    rw [hiff, hsome, Option.some.injEq]
  · rintro _ ⟨⟩ - hsilent
    have hphrase := reason?_of_silent hreadable hcode hsilent
    rw [hreason, Except.ok.injEq] at hphrase
    rw [hiff, hphrase]
    cases e.reason <;> simp

/-- **Which answers are conflicts.** However deep a body may go to be read: unless its body goes
deeper, it can be told of every fault whether it is a conflict and whether it says that the object
exists, never both, one of them exactly for the code 409, and which one by the reason that the body
states or else by the phrase. A text is told from nothing that its bytes are not told from. -/
theorem told_of_readable (depth : Nat) :
    (∀ f : Fault, (∀ container, ¬f.Unreadable depth container) →
      ∃ conflict present, Told depth f conflict present) ∧
    ∀ (e : ApiError) (text : String),
      let answered (body : Body) : Fault := .api { e with body := some body }
      let inText := answered (.text text)
      let inBytes := answered (.bytes text.toUTF8.data.toList)
      inText.isConflict depth = inBytes.isConflict depth ∧
        inText.isAlreadyExists depth = inBytes.isAlreadyExists depth ∧
        inText.isNotFound = inBytes.isNotFound := by
  constructor
  · intro f hreadable
    by_cases h : ∃ e, f = .api e ∧ e.status.bind (·.code?) = some 409
    · obtain ⟨e, rfl, hstatus⟩ := h
      obtain ⟨present, htold⟩ := told_of_code hreadable hstatus
      exact ⟨_, _, htold⟩
    · exact ⟨_, _, told_of_other fun e he hstatus => h ⟨e, he, hstatus⟩⟩
  · intro e text answered inText inBytes
    have hreason := reason?_toUTF8 depth e text
    refine ⟨?_, ?_, rfl⟩
    · show (ApiError.isConflict _ _).mapError _ = (ApiError.isConflict _ _).mapError _
      unfold ApiError.isConflict hasReason
      rw [hreason]
      rfl
    · show (ApiError.isAlreadyExists _ _).mapError _ = (ApiError.isAlreadyExists _ _).mapError _
      unfold ApiError.isAlreadyExists hasReason
      rw [hreason]
      rfl

/-- The second of two reasons counts, and the phrase does not; the body goes as deep as it may. -/
theorem told_of_readable_twoReasons :
    let text :=
      "\x7b\"reason\": \"Conflict\", \"x\": [1, \x7b\x7d], \"reason\": \"AlreadyExists\"\x7d"
    let f : Fault := .api
      { status := some (.code 409), reason := some "Conflict", body := some (.text text) }
    (∀ container, ¬f.Unreadable 3 container) ∧ Told 3 f false true := by
  intro text f
  have hconflict : f.isConflict 3 = .ok false := by decide +kernel
  have hpresent : f.isAlreadyExists 3 = .ok true := by decide +kernel
  have hreadable : ∀ container, ¬f.Unreadable 3 container := by
    rw [← raised_eq_self_iff, raised, hconflict]
  obtain ⟨conflict, present, htold⟩ := (told_of_readable 3).1 f hreadable
  cases hconflict.symm.trans htold.isConflict
  cases hpresent.symm.trans htold.isAlreadyExists
  exact ⟨hreadable, htold⟩

end Fault
end StatefulRoles
