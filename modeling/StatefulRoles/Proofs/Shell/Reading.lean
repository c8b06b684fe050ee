import StatefulRoles.Shell.Word
/-!
# How a shell reads a command

A POSIX shell cuts a command into tokens from left to right, one character at a time. `run` does
that: it keeps how far it is inside a token (`Mode`) and gives the tokens that are complete. Each
character of a word keeps what the shell takes it for (`Glyph`): itself, with or without quotes, or
the beginning of an expansion or of a pattern, which is not followed further.

Results:
* `run_append`: a text is read piece by piece, and what was read before does not matter.
* `run_quoteChars`: a quoted text is read as one word, which stands for that text and in which
  nothing is expanded, whatever its characters are.
* `run_quoteAll`: quoted texts in a row are read as one such word each, in order.
-/
namespace StatefulRoles.Shell

/-- A character of a word, and what the shell takes it for. -/
inductive Glyph where
  /-- itself, without quotes -/
  | bare (c : Char)
  /-- itself, by quotes or a backslash -/
  | quoted (c : Char)
  /-- the beginning of an expansion or of a pattern -/
  | active (c : Char)
deriving DecidableEq

abbrev Word := List Glyph

inductive Token where
  | word (w : Word)
  /-- the number in front of a redirection -/
  | descriptor (digits : Word)
  | operator (op : List Char)
deriving DecidableEq

/-- Where in a token the reading is. -/
inductive Mode where
  | gap
  | comment
  | operator (op : List Char)
  | bare (w : Word)
  /-- behind a backslash, in a word or between tokens -/
  | escape (w : Option Word)
  | single (w : Word)
  | double (w : Word)
  | doubleEscape (w : Word)
deriving DecidableEq

/-! ## Characters -/

def blanks : List Char := [' ', '\t']

def operatorChars : List Char := ['&', '|', ';', '<', '>', '(', ')', '\n']

/-- The operators of more than one character. -/
def longOperators : List (List Char) :=
  [['&', '&'], ['|', '|'], [';', ';'], ['<', '<'], ['>', '>'], ['<', '&'], ['>', '&'], ['<', '>'],
   ['<', '<', '-'], ['>', '|']]

/-- What begins an expansion or a pattern where there are no quotes. -/
def activeChars : List Char := ['$', '`', '*', '?', '[', '~', '{']

/-- What begins an expansion between double quotes. -/
def activeInDouble : List Char := ['$', '`']

/-- What a backslash quotes between double quotes. -/
def escapedInDouble : List Char := ['$', '`', '"', '\\', '\n']

/-! ## Steps -/

/-- A word with one more character, which is not between quotes. -/
def extend (w : Word) (c : Char) : Mode :=
  if c = '\x27' then .single w
  else if c = '"' then .double w
  else if c = '\\' then .escape (some w)
  else if c ∈ activeChars then .bare (w ++ [.active c])
  else .bare (w ++ [.bare c])

/-- The first character behind a token. -/
def start (c : Char) : Mode :=
  if c ∈ blanks then .gap
  else if c = '#' then .comment
  else if c ∈ operatorChars then .operator [c]
  else if c = '\\' then .escape none
  else extend [] c

/-- Is the glyph a digit without quotes? -/
def Glyph.isDigit : Glyph → Bool
  | .bare c => c.isDigit
  | _ => false

/-- A word that ends before a character. -/
def finish (w : Word) (c : Char) : Token :=
  if (c = '<' || c = '>') && !w.isEmpty && w.all Glyph.isDigit then .descriptor w else .word w

/-- Reads one character: the tokens that it completes, and where the reading is behind it. -/
def step (m : Mode) (c : Char) : List Token × Mode :=
  match m with
  | .gap => ([], start c)
  | .comment => ([], if c = '\n' then .operator [c] else .comment)
  | .operator op =>
    if op ++ [c] ∈ longOperators then ([], .operator (op ++ [c])) else ([.operator op], start c)
  | .bare w =>
    if c ∈ blanks ∨ c ∈ operatorChars then ([finish w c], start c) else ([], extend w c)
  | .escape w =>
    -- a line that ends in a backslash goes on in the next one
    ([], if c = '\n' then w.elim .gap .bare else .bare (w.getD [] ++ [.quoted c]))
  | .single w => ([], if c = '\x27' then .bare w else .single (w ++ [.quoted c]))
  | .double w =>
    ([], if c = '"' then .bare w
      else if c = '\\' then .doubleEscape w
      else if c ∈ activeInDouble then .double (w ++ [.active c])
      else .double (w ++ [.quoted c]))
  | .doubleEscape w =>
    ([], if c = '\n' then .double w
      else if c ∈ escapedInDouble then .double (w ++ [.quoted c])
      else .double (w ++ [.quoted '\\', .quoted c]))

/-- Reads a text from a mode: the tokens completed, and the mode behind them. -/
def run (m : Mode) : List Char → List Token × Mode
  | [] => ([], m)
  | c :: cs =>
    let (ts, m') := step m c
    let (us, m'') := run m' cs
    (ts ++ us, m'')

/-- What is complete at the end of a text; nothing is while a quote or a backslash is open. -/
def atEnd : Mode → Option (List Token)
  | .gap => some []
  | .comment => some []
  | .operator op => some [.operator op]
  | .bare w => some [.word w]
  | _ => none

/-- The tokens of a whole command. -/
def tokens? (command : String) : Option (List Token) :=
  (atEnd (run .gap command.toList).2).map ((run .gap command.toList).1 ++ ·)

/-- The word that is a text written without quotes. -/
def bareWord (text : String) : Word := text.toList.map .bare

/-! ## Piece by piece -/

theorem run_append (m : Mode) (cs ds : List Char) : run m (cs ++ ds) =
    ((run m cs).1 ++ (run (run m cs).2 ds).1, (run (run m cs).2 ds).2) := by
  induction cs generalizing m with
  | nil => rfl
  | cons c cs ih => simp only [List.cons_append, run, ih, List.append_assoc]

/-- Pieces that are read one after the other. -/
theorem run_trans {m m' m'' : Mode} {cs ds : List Char} {ts us : List Token}
    (h : run m cs = (ts, m')) (h' : run m' ds = (us, m'')) :
    run m (cs ++ ds) = (ts ++ us, m'') := by
  rw [run_append, h, h']

theorem run_append_snd {m m' : Mode} {cs : List Char} {ts : List Token} (h : run m cs = (ts, m'))
    (ds : List Char) : (run m (cs ++ ds)).2 = (run m' ds).2 := by
  rw [run_append, h]

theorem tokens?_of_run {command : String} {ts : List Token} {m : Mode}
    (h : run .gap command.toList = (ts, m)) : tokens? command = (atEnd m).map (ts ++ ·) := by
  simp only [tokens?, h]

/-- A text that ends between two tokens, and the rest of the command. -/
theorem tokens?_append {s t : String} {ts : List Token} (h : run .gap s.toList = (ts, .gap)) :
    tokens? (s ++ t) = (tokens? t).map (ts ++ ·) := by
  simp only [tokens?, String.toList_append, run_append, h, Option.map_map]
  congr 1
  funext us
  exact List.append_assoc _ _ _

example : tokens? "a 'b  c'>d" =
    some [.word (bareWord "a"), .word ("b  c".toList.map .quoted), .operator ['>'],
      .word (bareWord "d")] := by decide +kernel

theorem run_cons {m m' m'' : Mode} {c : Char} {cs : List Char} {ts us : List Token}
    (h : step m c = (ts, m')) (h' : run m' cs = (us, m'')) : run m (c :: cs) = (ts ++ us, m'') := by
  simp only [run, h, h']

/-! ## Quoted texts -/

/-- The word that a quoted text is read as. -/
def literal (cs : List Char) : Word :=
  if !cs.isEmpty && cs.all isSafe then cs.map .bare else cs.map .quoted

theorem not_mem_of_isSafe {c : Char} {special : List Char} (hc : isSafe c = true)
    (h : special.all (!isSafe ·) = true) : c ∉ special := by
  intro hm
  have hnot := List.all_eq_true.mp h c hm
  rw [hc] at hnot
  cases hnot

theorem extend_of_isSafe {c : Char} (w : Word) (hc : isSafe c = true) :
    extend w c = .bare (w ++ [.bare c]) := by
  have hquotes : c ∉ ['\x27', '"', '\\'] := not_mem_of_isSafe hc (by decide +kernel)
  have hactive : c ∉ activeChars := not_mem_of_isSafe hc (by decide +kernel)
  simp only [List.mem_cons, List.not_mem_nil, or_false, not_or] at hquotes
  rw [extend, if_neg hquotes.1, if_neg hquotes.2.1, if_neg hquotes.2.2, if_neg hactive]

theorem start_of_isSafe {c : Char} (hc : isSafe c = true) : start c = .bare [.bare c] := by
  have hblank : c ∉ blanks := not_mem_of_isSafe hc (by decide +kernel)
  have hoperator : c ∉ operatorChars := not_mem_of_isSafe hc (by decide +kernel)
  have hother : c ∉ ['#', '\\'] := not_mem_of_isSafe hc (by decide +kernel)
  simp only [List.mem_cons, List.not_mem_nil, or_false, not_or] at hother
  rw [start, if_neg hblank, if_neg hother.1, if_neg hoperator, if_neg hother.2,
    extend_of_isSafe [] hc, List.nil_append]

theorem step_bare_of_isSafe {c : Char} (w : Word) (hc : isSafe c = true) :
    step (.bare w) c = ([], .bare (w ++ [.bare c])) := by
  have hblank : c ∉ blanks := not_mem_of_isSafe hc (by decide +kernel)
  have hoperator : c ∉ operatorChars := not_mem_of_isSafe hc (by decide +kernel)
  rw [step, if_neg (not_or.mpr ⟨hblank, hoperator⟩), extend_of_isSafe w hc]

/-- Safe characters go on a word as they are. -/
theorem run_bare_of_isSafe {cs : List Char} (w : Word) (h : ∀ c ∈ cs, isSafe c = true) :
    run (.bare w) cs = ([], .bare (w ++ cs.map .bare)) := by
  induction cs generalizing w with
  | nil => simp [run]
  | cons c cs ih =>
    obtain ⟨hc, hcs⟩ := List.forall_mem_cons.mp h
    rw [run_cons (step_bare_of_isSafe w hc) (ih _ hcs)]
    simp

/-- Between single quotes every character is quoted, a single quote by a detour. -/
theorem run_single_quoteChar (w : Word) (c : Char) :
    run (.single w) (quoteChar c) = ([], .single (w ++ [.quoted c])) := by
  unfold quoteChar
  split
  · rename_i hc
    have hdetour : "'\"'\"'".toList = ['\x27', '"', '\x27', '"', '\x27'] := by decide +kernel
    rw [hdetour, hc]
    simp [run, step, extend, blanks, operatorChars, activeInDouble]
  · rename_i hc
    simp [run, step, hc]

theorem run_single (w : Word) (cs : List Char) :
    run (.single w) (cs.flatMap quoteChar ++ ['\x27']) = ([], .bare (w ++ cs.map .quoted)) := by
  induction cs generalizing w with
  | nil => simp [run, step]
  | cons c cs ih =>
    rw [List.flatMap_cons, List.append_assoc, run_trans (run_single_quoteChar w c) (ih _)]
    simp

/-- A quoted text is read as one word that stands for it. -/
theorem run_quoteChars (cs : List Char) : run .gap (quoteChars cs) = ([], .bare (literal cs)) := by
  unfold quoteChars literal
  split
  · rename_i h
    cases cs with
    | nil => simp at h
    | cons c cs =>
      have hsafe : ∀ d ∈ c :: cs, isSafe d = true := by simpa using h
      obtain ⟨hc, hcs⟩ := List.forall_mem_cons.mp hsafe
      have hstart : step .gap c = ([], .bare [.bare c]) := by rw [step, start_of_isSafe hc]
      rw [run_cons hstart (run_bare_of_isSafe _ hcs)]
      rfl
  · have hopen : step .gap '\x27' = ([], .single []) := by decide
    rw [List.cons_append, run_cons hopen (run_single [] cs)]
    rfl

/-- The character that a glyph stands for; none if it is expanded. -/
def Glyph.char? : Glyph → Option Char
  | .bare c => some c
  | .quoted c => some c
  | .active _ => none

/-- The text that a word stands for; none if something in it is expanded. -/
def Word.text? (w : Word) : Option String := (w.mapM Glyph.char?).map String.ofList

theorem text?_map {f : Char → Glyph} (hf : ∀ c, (f c).char? = some c) (cs : List Char) :
    Word.text? (cs.map f) = some (String.ofList cs) := by
  have h : (cs.map f).mapM Glyph.char? = some cs := by
    induction cs with
    | nil => rfl
    | cons c cs ih => simp [List.mapM_cons, hf, ih]
  rw [Word.text?, h, Option.map_some]

/-- A quoted text stands for itself. -/
theorem text?_literal (cs : List Char) : Word.text? (literal cs) = some (String.ofList cs) := by
  unfold literal
  split
  · exact text?_map (fun _ => rfl) cs
  · exact text?_map (fun _ => rfl) cs

/-- The words of quoted texts. -/
def literals (texts : List String) : List Word := texts.map fun t => literal t.toList

theorem text?_literals (texts : List String) :
    (literals texts).map Word.text? = texts.map some := by
  rw [literals, List.map_map]
  exact List.map_congr_left fun t _ => by simp [text?_literal]

theorem step_blank (w : Word) : step (.bare w) ' ' = ([.word w], .gap) := by
  simp [step, blanks, finish, start]

theorem run_quote (w : String) :
    run .gap ((quote w).toList ++ [' ']) = ([.word (literal w.toList)], .gap) := by
  rw [quote, String.toList_ofList]
  exact run_trans (run_quoteChars w.toList) (run_cons (step_blank _) rfl)

theorem quoteAll_cons_cons (v w : String) (ws : List String) :
    (quoteAll (v :: w :: ws)).toList ++ [' '] =
      ((quote v).toList ++ [' ']) ++ ((quoteAll (w :: ws)).toList ++ [' ']) := by
  have hblank : " ".toList = [' '] := by decide +kernel
  simp only [quoteAll, String.toList_intercalate, List.map_cons, List.intercalate_cons_cons, hblank,
    List.append_assoc]

/-- Quoted texts in a row are read as one word each, in order. -/
theorem run_quoteAll (words : List String) :
    run .gap ((quoteAll words).toList ++ [' ']) = ((literals words).map .word, .gap) := by
  induction words with
  | nil => decide +kernel
  | cons v ws ih =>
    cases ws with
    | nil =>
      have hone : quoteAll [v] = quote v := by simp [quoteAll]
      rw [hone, run_quote]
      rfl
    | cons w ws =>
      rw [quoteAll_cons_cons, run_trans (run_quote v) ih]
      rfl

end StatefulRoles.Shell
