import StatefulRoles.Json.Parser
/-!
# Texts that go too deep

Results:
* `parse_brackets`: a text that opens more arrays inside each other than may stand there is given
  up, whatever follows.
-/
namespace StatefulRoles.Json

namespace Parser

theorem skipBlanks_bracket (n : Nat) (rest : List Char) :
    skipBlanks (List.replicate (n + 1) '[' ++ rest) = List.replicate (n + 1) '[' ++ rest := by
  have hblank : isBlank '[' = false := by decide
  rw [List.replicate_succ, List.cons_append, skipBlanks, List.dropWhile_cons]
  simp only [hblank, Bool.false_eq_true, if_false]

/-- Each bracket takes one level and two calls. -/
theorem value_brackets {fuel depth n : Nat} (hn : depth < n) (hf : 2 * depth < fuel)
    (rest : List Char) :
    value fuel depth (List.replicate n '[' ++ rest) = .error (.tooDeep .array) := by
  induction depth generalizing fuel n with
  | zero =>
    obtain ⟨n, rfl⟩ : ∃ m, n = m + 1 := ⟨n - 1, by omega⟩
    obtain ⟨fuel, rfl⟩ : ∃ m, fuel = m + 1 := ⟨fuel - 1, by omega⟩
    rfl
  | succ depth ih =>
    obtain ⟨n, rfl⟩ : ∃ m, n = m + 2 := ⟨n - 2, by omega⟩
    obtain ⟨fuel, rfl⟩ : ∃ m, fuel = m + 2 := ⟨fuel - 2, by omega⟩
    have hvalue : value fuel depth (List.replicate (n + 1) '[' ++ rest) =
        .error (.tooDeep .array) := ih (by omega) (by omega)
    have hitems : items (fuel + 1) depth [] (List.replicate (n + 1) '[' ++ rest) =
        .error (.tooDeep .array) := by
      rw [items, hvalue]
    rw [List.replicate_succ, List.cons_append, value]
    rw [skipBlanks_bracket]
    rw [List.replicate_succ, List.cons_append] at hitems ⊢
    exact hitems

end Parser

/-- A text that opens too many arrays inside each other is given up, whatever follows. -/
theorem parse_brackets {depth n : Nat} (h : depth < n) (rest : List Char) :
    parse depth (List.replicate n '[' ++ rest) = .error (.tooDeep .array) := by
  obtain ⟨m, rfl⟩ : ∃ m, n = m + 1 := ⟨n - 1, by omega⟩
  have hfuel : 2 * depth < 2 * (List.replicate (m + 1) '[' ++ rest).length + 1 := by
    rw [List.length_append, List.length_replicate]
    omega
  unfold parse
  rw [Parser.skipBlanks_bracket, Parser.value_brackets h hfuel]

end StatefulRoles.Json
