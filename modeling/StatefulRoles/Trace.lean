/-!
# Traced runs

A run gives a result or a fault, and leaves a trace of what it did on the way. `Traced` is a run on
its own; `Act` is a run that also reads and changes a state. In both, what is done after a fault is
not done at all, and the traces of two runs in a row are joined.
-/
namespace StatefulRoles

/-- What a run did, in order, and how it ended. -/
structure Traced (τ ε α : Type) where
  trace : List τ
  result : Except ε α

namespace Traced

variable {τ ε α β : Type}

def pure (a : α) : Traced τ ε α := ⟨[], .ok a⟩

/-- A run that does nothing but end with a given result. -/
def ofExcept (result : Except ε α) : Traced τ ε α := ⟨[], result⟩

/-- A run that leaves a trace. -/
def emit (trace : List τ) : Traced τ ε Unit := ⟨trace, .ok ()⟩

/-- A run, and behind it one that depends on its value. -/
def bind (x : Traced τ ε α) (f : α → Traced τ ε β) : Traced τ ε β :=
  match x.result with
  | .ok a => ⟨x.trace ++ (f a).trace, (f a).result⟩
  | .error e => ⟨x.trace, .error e⟩

instance : Monad (Traced τ ε) where
  pure := pure
  bind := bind

/-- Nothing done before a run changes nothing. -/
theorem pure_bind (a : α) (f : α → Traced τ ε β) : bind (pure a) f = f a := rfl

theorem bind_pure (x : Traced τ ε α) : bind x pure = x := by
  obtain ⟨trace, result⟩ := x
  cases result <;> simp [bind, pure]

theorem bind_assoc {γ : Type} (x : Traced τ ε α) (f : α → Traced τ ε β) (g : β → Traced τ ε γ) :
    bind (bind x f) g = bind x fun a => bind (f a) g := by
  obtain ⟨trace, result⟩ := x
  cases result with
  | error e => rfl
  | ok a => cases h : (f a).result <;> simp [bind, h]

end Traced

/-- A run that reads and changes a state. What it changed before a fault stays changed. -/
def Act (σ τ ε α : Type) := σ → Traced τ ε α × σ

namespace Act

variable {σ ρ τ ε ε' α β : Type}

def pure (a : α) : Act σ τ ε α := fun s => (.pure a, s)

/-- A run, and behind it one that depends on its value. -/
def bind (x : Act σ τ ε α) (f : α → Act σ τ ε β) : Act σ τ ε β := fun s =>
  match x s with
  | (⟨trace, .ok a⟩, s') =>
    let (y, s'') := f a s'
    (⟨trace ++ y.trace, y.result⟩, s'')
  | (⟨trace, .error e⟩, s') => (⟨trace, .error e⟩, s')

instance : Monad (Act σ τ ε) where
  pure := pure
  bind := bind

/-- A run that leaves the state alone. -/
def lift (x : Traced τ ε α) : Act σ τ ε α := fun s => (x, s)

/-- A run that does nothing but end with a given result. -/
def ofExcept (result : Except ε α) : Act σ τ ε α := lift (.ofExcept result)

/-- A run that does nothing but fail. -/
def fail (e : ε) : Act σ τ ε α := ofExcept (.error e)

/-- A run that leaves a trace. -/
def emit (trace : List τ) : Act σ τ ε Unit := lift (.emit trace)

/-- Reads the state. -/
def get : Act σ τ ε σ := fun s => (.pure s, s)

/-- Changes the state. -/
def modify (f : σ → σ) : Act σ τ ε Unit := fun s => (.pure (), f s)

/-- A run whose fault, if any, becomes its value; it cannot fail itself. -/
def attempt (x : Act σ τ ε α) : Act σ τ ε' (Except ε α) := fun s =>
  let (y, s') := x s
  (⟨y.trace, .ok y.result⟩, s')

/-- A run beside a cell that it leaves alone. -/
def beside (x : Act σ τ ε α) : Act (σ × ρ) τ ε α := fun (s, cell) =>
  let (y, s') := x s
  (y, s', cell)

/-- A run that has a cell beside the state for as long as it takes. Its value is what is in the cell
at the end, whether the run failed or not, and how it ended. -/
def holding (cell : ρ) (x : Act (σ × ρ) τ ε α) : Act σ τ ε' (ρ × Except ε α) := fun s =>
  let (y, s', cell') := x (s, cell)
  (⟨y.trace, .ok (cell', y.result)⟩, s')

/-- A run with another account of its fault. -/
def mapFault (f : ε → ε') (x : Act σ τ ε α) : Act σ τ ε' α := fun s =>
  let (y, s') := x s
  (⟨y.trace, y.result.mapError f⟩, s')

end Act
end StatefulRoles
