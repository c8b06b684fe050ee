import StatefulRoles.Proofs.Shell.Reading
/-!
# Texts between double quotes

Between double quotes a text is not safe as it stands: a quote ends them, `$` and a backquote begin
an expansion, and a backslash disappears in front of some characters. `Inert` says of a text that
none of this happens in it.

Results:
* `run_inert`: an inert text is read as itself, character by character.
* `run_size`: a word never stands for more characters than it is written with.
* `inert_of_run`: so a text that is read as itself is inert, since each of the things above costs a
  character that no other gives back.
-/
namespace StatefulRoles.Shell

/-- A text in which no character has a meaning of its own between double quotes. -/
structure Inert (cs : List Char) : Prop where
  plain : ∀ c ∈ cs, c ≠ '"' ∧ c ∉ activeInDouble
  backslash : ∀ d ∈ ['\\', '\n'], ¬ ['\\', d] <:+: cs

theorem inert_nil : Inert [] := ⟨nofun, by simp⟩

theorem Inert.tail {c : Char} {cs : List Char} (h : Inert (c :: cs)) : Inert cs where
  plain d hd := h.plain d (List.mem_cons_of_mem c hd)
  backslash d hd hin := h.backslash d hd (List.infix_cons hin)

/-- What a backslash quotes does not follow it in an inert text. -/
theorem Inert.escaped {d : Char} {cs : List Char} (h : Inert ('\\' :: d :: cs)) :
    d ∉ escapedInDouble := by
  have hcases : ∀ e ∈ escapedInDouble, e = '"' ∨ e ∈ activeInDouble ∨ e ∈ ['\\', '\n'] := by
    simp [escapedInDouble, activeInDouble]
  obtain ⟨hquote, hactive⟩ := h.plain d (by simp)
  intro hmem
  rcases hcases d hmem with hd | hd | hd
  · exact hquote hd
  · exact hactive hd
  · exact h.backslash d hd ⟨[], cs, rfl⟩

theorem inert_cons {c : Char} {cs : List Char} (h : Inert cs) (hquote : c ≠ '"')
    (hactive : c ∉ activeInDouble) (hnext : c = '\\' → ∀ d ∈ cs.head?, d ∉ escapedInDouble) :
    Inert (c :: cs) where
  plain := List.forall_mem_cons.mpr ⟨⟨hquote, hactive⟩, h.plain⟩
  backslash d hd hin := by
    rcases List.infix_cons_iff.mp hin with hfirst | hin
    · obtain ⟨rfl, hrest⟩ := List.cons_prefix_cons.mp hfirst
      obtain ⟨rest, rfl⟩ := hrest
      have hescaped : ∀ e ∈ ['\\', '\n'], e ∈ escapedInDouble := by simp [escapedInDouble]
      exact hnext rfl d (by simp) (hescaped d hd)
    · exact h.backslash d hd hin

/-! ## An inert text is read as itself -/

theorem run_quoted {c : Char} (w : Word) (hquote : c ≠ '"') (hactive : c ∉ activeInDouble)
    (hbackslash : c ≠ '\\') (cs : List Char) :
    run (.double w) (c :: cs) = run (.double (w ++ [.quoted c])) cs := by
  simp [run, step, hquote, hactive, hbackslash]

/-- A backslash stays one in front of a character that it does not quote. -/
theorem run_backslash {d : Char} (w : Word) (h : d ∉ escapedInDouble) (cs : List Char) :
    run (.double w) ('\\' :: d :: cs) = run (.double (w ++ [.quoted '\\'])) (d :: cs) := by
  have hd : d ≠ '$' ∧ d ≠ '`' ∧ d ≠ '"' ∧ d ≠ '\\' ∧ d ≠ '\n' := by
    simpa [escapedInDouble] using h
  have hactive : d ∉ activeInDouble := by simp [activeInDouble, hd]
  rw [run_quoted _ hd.2.2.1 hactive hd.2.2.2.1]
  simp [run, step, h, hd]

/-- An inert text is read as itself. What follows it must not be quoted by its last backslash. -/
theorem run_inert {cs rest : List Char} {d : Char} (hd : d ∉ escapedInDouble) (h : Inert cs)
    (w : Word) : run (.double w) (cs ++ d :: rest) =
      run (.double (w ++ cs.map .quoted)) (d :: rest) := by
  induction cs generalizing w with
  | nil => simp
  | cons c cs ih =>
    have hrest := ih h.tail (w ++ [.quoted c])
    rw [List.append_assoc, List.singleton_append] at hrest
    rw [List.map_cons, ← hrest]
    by_cases hc : c = '\\'
    · subst hc
      cases cs with
      | nil => exact run_backslash w hd rest
      | cons e cs => exact run_backslash w h.escaped (cs ++ d :: rest)
    · obtain ⟨hquote, hactive⟩ := h.plain c (by simp)
      exact run_quoted w hquote hactive hc _

/-! ## What a text can stand for -/

/-- How many characters a word stands for; what is expanded counts as none. -/
def Word.size (w : Word) : Nat := w.countP (·.char?.isSome)

def Token.size : Token → Nat
  | .word w => w.size
  | .descriptor w => w.size
  | .operator _ => 0

/-- How many characters the words of a list of tokens stand for. -/
def sizes : List Token → Nat
  | [] => 0
  | t :: ts => t.size + sizes ts

/-- How many characters the word being read stands for, with a backslash that may still turn out to
stand for itself. -/
def Mode.size : Mode → Nat
  | .bare w => w.size
  | .escape w => (w.getD []).size
  | .single w => w.size
  | .double w => w.size
  | .doubleEscape w => w.size + 1
  | _ => 0

theorem size_append (v w : Word) : Word.size (v ++ w) = v.size + w.size := List.countP_append

theorem size_append_le (w : Word) (g : Glyph) : Word.size (w ++ [g]) ≤ w.size + 1 := by
  rw [size_append]
  exact Nat.add_le_add_left List.countP_le_length _

theorem sizes_append (ts us : List Token) : sizes (ts ++ us) = sizes ts + sizes us := by
  induction ts with
  | nil => exact (Nat.zero_add _).symm
  | cons t ts ih => rw [List.cons_append, sizes, sizes, ih, Nat.add_assoc]

theorem extend_size (w : Word) (c : Char) : (extend w c).size ≤ w.size + 1 := by
  unfold extend
  repeat' split
  all_goals first | exact size_append_le w _ | exact Nat.le_succ _

theorem start_size (c : Char) : (start c).size ≤ 1 := by
  unfold start
  repeat' split
  all_goals first | exact Nat.zero_le _ | exact extend_size [] c

theorem finish_size (w : Word) (c : Char) : (finish w c).size = w.size := by
  unfold finish
  split <;> rfl

/-- A character adds at most one to what is stood for. -/
theorem step_size (m : Mode) (c : Char) : sizes (step m c).1 + (step m c).2.size ≤ m.size + 1 := by
  have hstart := start_size c
  cases m with
  | gap => simpa [step, sizes, Mode.size] using hstart
  | comment =>
    simp only [step]
    split <;> simp [sizes, Mode.size]
  | operator op =>
    simp only [step]
    split
    · simp [sizes, Mode.size]
    · simpa [sizes, Token.size, Mode.size] using hstart
  | bare w =>
    simp only [step]
    split
    · simpa [sizes, finish_size, Mode.size] using hstart
    · simpa [sizes, Mode.size] using extend_size w c
  | escape w =>
    simp only [step]
    split
    · cases w <;> simp [sizes, Mode.size]
    · simpa [sizes, Mode.size] using size_append_le (w.getD []) (.quoted c)
  | single w =>
    simp only [step]
    split
    · simp [sizes, Mode.size]
    · simpa [sizes, Mode.size] using size_append_le w (.quoted c)
  | double w =>
    have hactive := size_append_le w (.active c)
    have hquoted := size_append_le w (.quoted c)
    simp only [step, sizes, Nat.zero_add]
    repeat' split
    all_goals first | assumption | simp [Mode.size]
  | doubleEscape w =>
    have hquoted := size_append_le w (.quoted c)
    have htwo : Word.size (w ++ [.quoted '\\', .quoted c]) = w.size + 2 := size_append w _
    simp only [step, sizes, Nat.zero_add]
    repeat' split
    all_goals simp only [Mode.size]; omega

theorem run_size (m : Mode) (cs : List Char) :
    sizes (run m cs).1 + (run m cs).2.size ≤ m.size + cs.length := by
  induction cs generalizing m with
  | nil => simp [run, sizes]
  | cons c cs ih =>
    have hstep := step_size m c
    have hrest := ih (step m c).2
    simp only [run, sizes_append, List.length_cons]
    omega

theorem size_le_of_run {m : Mode} {v : Word} {cs : List Char} {ts : List Token}
    (h : run m cs = (ts, .double v)) : sizes ts + v.size ≤ m.size + cs.length := by
  have hrun := run_size m cs
  rwa [h] at hrun

/-- A word in which nothing is expanded stands for as many characters as its text has. -/
theorem size_of_text? {w : Word} {text : String} (h : w.text? = some text) :
    w.size = text.toList.length := by
  obtain ⟨cs, hcs, rfl⟩ := Option.map_eq_some_iff.mp h
  rw [String.toList_ofList]
  clear h
  induction w generalizing cs with
  | nil =>
    obtain rfl : [] = cs := by simpa using hcs
    rfl
  | cons g w ih =>
    obtain ⟨c, hc, ds, hds, rfl⟩ : ∃ c, g.char? = some c ∧ ∃ ds, w.mapM Glyph.char? = some ds ∧
        c :: ds = cs := by
      simpa [List.mapM_cons, Option.bind_eq_some_iff] using hcs
    have hsize : Word.size (g :: w) = Word.size w + 1 :=
      List.countP_cons_of_pos (congrArg Option.isSome hc)
    rw [hsize, ih ds hds, List.length_cons]

theorem text?_append {u v : Word} {s t : String} (hu : u.text? = some s) (hv : v.text? = some t) :
    Word.text? (u ++ v) = some (s ++ t) := by
  obtain ⟨cs, hcs, rfl⟩ := Option.map_eq_some_iff.mp hu
  obtain ⟨ds, hds, rfl⟩ := Option.map_eq_some_iff.mp hv
  simp [Word.text?, List.mapM_append, hcs, hds, String.ofList_append]

/-! ## What leaves a quote or a comment open -/

theorem run_single_open {cs : List Char} (h : '\x27' ∉ cs) (w : Word) :
    run (.single w) cs = ([], .single (w ++ cs.map .quoted)) := by
  induction cs generalizing w with
  | nil => simp [run]
  | cons c cs ih =>
    obtain ⟨hc, hcs⟩ := not_or.mp (mt List.mem_cons.mpr h)
    have hstep : step (.single w) c = ([], .single (w ++ [.quoted c])) := by
      simp [step, Ne.symm hc]
    rw [run_cons hstep (ih hcs _)]
    simp

/-- Without another quote a text between double quotes does not end. -/
theorem run_double_open {cs : List Char} (h : '"' ∉ cs) (w : Word) :
    atEnd (run (.double w) cs).2 = none ∧ atEnd (run (.doubleEscape w) cs).2 = none := by
  induction cs generalizing w with
  | nil => exact ⟨rfl, rfl⟩
  | cons c cs ih =>
    obtain ⟨hc, hcs⟩ := not_or.mp (mt List.mem_cons.mpr h)
    have ih := ih hcs
    simp only [run, step, if_neg (Ne.symm hc)]
    refine ⟨?_, ?_⟩
    · split
      · exact (ih _).2
      · split <;> exact (ih _).1
    · repeat' split
      all_goals exact (ih _).1

theorem run_comment {cs : List Char} (h : '\n' ∉ cs) : run .comment cs = ([], .comment) := by
  induction cs with
  | nil => rfl
  | cons c cs ih =>
    obtain ⟨hc, hcs⟩ := not_or.mp (mt List.mem_cons.mpr h)
    have hstep : step .comment c = ([], .comment) := by simp [step, Ne.symm hc]
    exact run_cons hstep (ih hcs)

/-! ## Only an inert text is read as itself -/

/-- A text between double quotes that loses no character is inert. -/
theorem inert_of_run {cs : List Char} {u v : Word} {d : Char} {ts : List Token}
    (h : run (.double u) (cs ++ [d]) = (ts, .double v))
    (hsize : u.size + cs.length + 1 ≤ sizes ts + v.size) : Inert cs := by
  induction cs generalizing u with
  | nil => exact inert_nil
  | cons c cs ih =>
    rw [List.length_cons] at hsize
    -- what is behind the first character cannot make up for a character that this one loses
    have hkeeps : ∀ m, step (.double u) c = ([], m) → u.size < m.size := by
      intro m hstep
      have hrest : run m (cs ++ [d]) = (ts, .double v) := by
        rw [← h, List.cons_append, run_cons hstep rfl, List.nil_append]
      have hle := size_le_of_run hrest
      rw [List.length_append, List.length_singleton] at hle
      omega
    have hquote : c ≠ '"' := by
      intro hc
      exact absurd (hkeeps (.bare u) (by simp [step, hc])) (Nat.lt_irrefl _)
    have hactive : c ∉ activeInDouble := by
      intro hc
      have hbackslash : c ≠ '\\' := by
        rintro rfl
        exact absurd hc (by decide)
      have hlost := hkeeps (.double (u ++ [.active c])) (by simp [step, hquote, hbackslash, hc])
      rw [Mode.size, size_append] at hlost
      exact absurd hlost (Nat.lt_irrefl _)
    have hsize' (g : Char) : Word.size (u ++ [.quoted g]) = u.size + 1 := size_append u _
    by_cases hc : c = '\\'
    · subst hc
      cases cs with
      | nil => exact inert_cons inert_nil hquote hactive (by simp)
      | cons e cs =>
        -- the pair of characters would give one, or none
        have he : e ∉ escapedInDouble := by
          intro he
          have hstep : ∃ w, w.size ≤ u.size + 1 ∧
              run (.double u) ('\\' :: e :: (cs ++ [d])) = run (.double w) (cs ++ [d]) := by
            by_cases hline : e = '\n'
            · exact ⟨u, Nat.le_succ _, by simp [run, step, hline]⟩
            · exact ⟨u ++ [.quoted e], Nat.le_of_eq (hsize' e), by simp [run, step, hline, he]⟩
          obtain ⟨w, hw, hrun⟩ := hstep
          have hle := size_le_of_run (hrun.symm.trans h)
          rw [Mode.size, List.length_append, List.length_singleton] at hle
          rw [List.length_cons] at hsize
          omega
        have hrest := (run_backslash u he (cs ++ [d])).symm.trans h
        have hinert := ih hrest (by rw [hsize']; omega)
        exact inert_cons hinert hquote hactive (by simpa using he)
    · have hrest := (run_quoted u hquote hactive hc (cs ++ [d])).symm.trans h
      have hinert := ih hrest (by rw [hsize']; omega)
      exact inert_cons hinert hquote hactive fun hc' => absurd hc' hc

end StatefulRoles.Shell
