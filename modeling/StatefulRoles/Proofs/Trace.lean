import StatefulRoles.Trace
/-!
# Taking runs apart

Results:
* `Traced.result_bind_eq_ok`: a run of two parts has a value exactly when both have one.
* `Traced.bind_of_ok`, `Traced.bind_of_error`: what a run of two parts leaves.
* `Act.bind_ok`, `Act.bind_error`: what a run of two parts does, from what its parts do.
* `Act.beside_eq`, `Act.holding_eq`: what a run does that has a cell next to its state.
* `Act.Leaves.bind`: a run of two parts leaves alone what both leave alone.
-/
namespace StatefulRoles

/-- Faults told in other words have the same values. -/
theorem mapError_eq_ok {ε ε' α : Type} {f : ε → ε'} {x : Except ε α} {a : α} :
    x.mapError f = .ok a ↔ x = .ok a := by
  cases x <;> constructor <;> intro h <;> cases h <;> rfl

namespace Traced

variable {τ ε α β : Type}

@[simp] theorem result_pure (a : α) : (Pure.pure a : Traced τ ε α).result = .ok a := rfl

@[simp] theorem result_ofExcept (r : Except ε α) : (ofExcept r : Traced τ ε α).result = r := rfl

/-- A run of two parts has a value exactly when both have one. -/
theorem result_bind_eq_ok {x : Traced τ ε α} {f : α → Traced τ ε β} {b : β} :
    (x >>= f).result = .ok b ↔ ∃ a, x.result = .ok a ∧ (f a).result = .ok b := by
  show (bind x f).result = .ok b ↔ _
  unfold bind
  cases h : x.result with
  | ok a => simp
  | error e => simp

/-- A run of two parts, if the first one has a value. -/
theorem bind_of_ok {x : Traced τ ε α} {f : α → Traced τ ε β} {a : α} (h : x.result = .ok a) :
    x >>= f = ⟨x.trace ++ (f a).trace, (f a).result⟩ := by
  show bind x f = _
  simp only [bind, h]

/-- A run of two parts, if the first one fails. -/
theorem bind_of_error {x : Traced τ ε α} {f : α → Traced τ ε β} {e : ε}
    (h : x.result = .error e) : x >>= f = ⟨x.trace, .error e⟩ := by
  show bind x f = _
  simp only [bind, h]

instance : LawfulMonad (Traced τ ε) :=
  LawfulMonad.mk' (Traced τ ε) bind_pure pure_bind bind_assoc

end Traced

namespace Act

variable {σ ρ τ ε ε' α β γ : Type} {s s' s'' : σ} {t u : List τ}

/-- A run whose first part has a value goes on with the second one. -/
theorem bind_ok {x : Act σ τ ε α} {f : α → Act σ τ ε β} {a : α} {r : Except ε β}
    (h : x s = (⟨t, .ok a⟩, s')) (h' : f a s' = (⟨u, r⟩, s'')) :
    (x >>= f) s = (⟨t ++ u, r⟩, s'') := by
  show bind x f s = _
  simp only [bind, h, h']

/-- A run whose first part fails ends there. -/
theorem bind_error {x : Act σ τ ε α} {f : α → Act σ τ ε β} {e : ε}
    (h : x s = (⟨t, .error e⟩, s')) : (x >>= f) s = (⟨t, .error e⟩, s') := by
  show bind x f s = _
  simp only [bind, h]

/-- How a run of three parts is put together is no matter. -/
theorem bind_assoc (x : Act σ τ ε α) (f : α → Act σ τ ε β) (g : β → Act σ τ ε γ) :
    x >>= f >>= g = x >>= fun a => f a >>= g := by
  funext s
  rcases hx : x s with ⟨⟨t, e | a⟩, s'⟩
  · rw [bind_error (bind_error hx), bind_error hx]
  · rcases hf : f a s' with ⟨⟨u, e | b⟩, s''⟩
    · rw [bind_error (bind_ok hx hf), bind_ok hx (bind_error hf)]
    · rcases hg : g b s'' with ⟨⟨v, r⟩, s'''⟩
      rw [bind_ok (bind_ok hx hf) hg, bind_ok hx (bind_ok hf hg), List.append_assoc]

theorem attempt_eq {x : Act σ τ ε α} {r : Except ε α} (h : x s = (⟨t, r⟩, s')) :
    (x.attempt : Act σ τ ε' (Except ε α)) s = (⟨t, .ok r⟩, s') := by
  simp only [attempt, h]

theorem mapFault_eq {x : Act σ τ ε α} {f : ε → ε'} {r : Except ε α} (h : x s = (⟨t, r⟩, s')) :
    x.mapFault f s = (⟨t, r.mapError f⟩, s') := by
  simp only [mapFault, h]

theorem beside_eq {x : Act σ τ ε α} {r : Except ε α} (h : x s = (⟨t, r⟩, s')) (cell : ρ) :
    x.beside (s, cell) = (⟨t, r⟩, s', cell) := by
  simp only [beside, h]

theorem holding_eq {x : Act (σ × ρ) τ ε α} {r : Except ε α} {cell cell' : ρ}
    (h : x (s, cell) = (⟨t, r⟩, s', cell')) :
    (x.holding cell : Act σ τ ε' (ρ × Except ε α)) s = (⟨t, .ok (cell', r)⟩, s') := by
  simp only [holding, h]

theorem get_bind (f : σ → Act σ τ ε β) : (get >>= f) s = f s s := rfl

theorem modify_eq (f : σ → σ) : (modify f : Act σ τ ε Unit) s = (⟨[], .ok ()⟩, f s) := rfl

theorem pure_eq (a : α) : (Pure.pure a : Act σ τ ε α) s = (⟨[], .ok a⟩, s) := rfl

theorem emit_eq (trace : List τ) : (emit trace : Act σ τ ε Unit) s = (⟨trace, .ok ()⟩, s) := rfl

theorem fail_eq (e : ε) : (fail e : Act σ τ ε α) s = (⟨[], .error e⟩, s) := rfl

/-- A run that is tried goes on with how it ended. -/
theorem attempt_bind {x : Act σ τ ε α} {f : Except ε α → Act σ τ ε' β} {r : Except ε α}
    {q : Except ε' β} (h : x s = (⟨t, r⟩, s')) (h' : f r s' = (⟨u, q⟩, s'')) :
    (x.attempt >>= f) s = (⟨t ++ u, q⟩, s'') :=
  bind_ok (attempt_eq h) h'

/-! ## What a run leaves alone -/

/-- The run leaves as it is what can be read off the state. -/
def Leaves (read : σ → γ) (x : Act σ τ ε α) : Prop := ∀ s, read (x s).2 = read s

namespace Leaves

variable {read : σ → γ}

theorem pure (a : α) : Leaves read (Pure.pure a : Act σ τ ε α) := fun _ => rfl

theorem emit (trace : List τ) : Leaves read (Act.emit trace : Act σ τ ε Unit) := fun _ => rfl

theorem fail (e : ε) : Leaves read (Act.fail e : Act σ τ ε α) := fun _ => rfl

/-- A run of two parts leaves alone what both leave alone. -/
theorem bind {x : Act σ τ ε α} {f : α → Act σ τ ε β} (hx : Leaves read x)
    (hf : ∀ a, Leaves read (f a)) : Leaves read (x >>= f) := by
  intro s
  have hs := hx s
  rcases hrun : x s with ⟨⟨t, r⟩, s'⟩
  rw [hrun] at hs
  cases r with
  | ok a =>
    rw [bind_ok hrun rfl]
    exact (hf a s').trans hs
  | error e =>
    rw [bind_error hrun]
    exact hs

end Leaves
end Act
end StatefulRoles
