import StatefulRoles.Proofs.Shell.Reading
/-!
# The commands of a script

`commandsFrom` cuts tokens into simple commands: at the operators that stand between commands, with
the reserved words in front of a command and all redirections left out. `copies` says what the
commands of one tool copy and where to.

Results:
* `commands_append`: what is between two operators can be looked at on its own.
* `commands_words`: words in a row belong to one command.
* `copy?_command`: a copying command copies what its words stand for, as long as none of them looks
  like an option.
-/
namespace StatefulRoles.Shell

/-- The reserved words that stand in front of a command. -/
def reserved : List Word :=
  ["if", "then", "elif", "else", "fi", "while", "until", "do", "done", "!"].map bareWord

/-- Is an operator one that redirects? All others stand between commands. -/
def isRedirection (op : List Char) : Bool := op.head? = some '<' || op.head? = some '>'

def closed (words : List Word) : List (List Word) := if words = [] then [] else [words]

/-- The commands of a list of tokens, of which the first has already some words. `target` says that
the next word is what a redirection leads to. -/
def commandsFrom (words : List Word) (target : Bool) : List Token → List (List Word)
  | [] => closed words
  | .descriptor _ :: ts => commandsFrom words target ts
  | .operator op :: ts =>
    if isRedirection op then commandsFrom words true ts
    else closed words ++ commandsFrom [] false ts
  | .word w :: ts =>
    if target then commandsFrom words false ts
    else if words = [] ∧ w ∈ reserved then commandsFrom [] false ts
    else commandsFrom (words ++ [w]) false ts

/-- The simple commands of a list of tokens, as words. -/
def commands (ts : List Token) : List (List Word) := commandsFrom [] false ts

/-! ## Copying -/

/-- What a command copies, and where to; none stands for a word in which something is expanded. -/
structure Copy where
  sources : List (Option String)
  destination : Option String
deriving DecidableEq, Repr

def Word.isOption (w : Word) : Bool := w.head? = some (.bare '-') || w.head? = some (.quoted '-')

/-- The words of a command that are not options, behind its name. No option has a word of its own
for its value. -/
def operands (command : List Word) : List Word := command.tail.filter (!·.isOption)

/-- What a command of the given name copies, if it is given any operands. -/
def copy? (tool : String) (command : List Word) : Option Copy :=
  if command.head?.bind Word.text? = some tool then
    (operands command).getLast?.map fun last =>
      ⟨(operands command).dropLast.map Word.text?, last.text?⟩
  else none

/-- What the commands of the given name copy in a script, one after the other. -/
def copies (tool script : String) : Option (List Copy) :=
  (tokens? script).map fun ts => (commands ts).filterMap (copy? tool)

/-! ## Between operators -/

theorem commandsFrom_append {op : List Char} (hop : isRedirection op = false) (words : List Word)
    (target : Bool) (ts us : List Token) :
    commandsFrom words target (ts ++ .operator op :: us) =
      commandsFrom words target ts ++ commands us := by
  induction ts generalizing words target with
  | nil => simp [commandsFrom, commands, hop]
  | cons t ts ih =>
    cases t with
    | word w =>
      simp only [List.cons_append, commandsFrom, ih]
      split
      · rfl
      · split <;> rfl
    | descriptor digits => simp only [List.cons_append, commandsFrom, ih]
    | operator op' =>
      simp only [List.cons_append, commandsFrom, ih]
      split
      · rfl
      · exact (List.append_assoc _ _ _).symm

theorem commands_append {op : List Char} (hop : isRedirection op = false) (ts us : List Token) :
    commands (ts ++ .operator op :: us) = commands ts ++ commands us :=
  commandsFrom_append hop [] false ts us

/-- A reserved word in front of a command is left out. -/
theorem commands_reserved {w : Word} (hw : w ∈ reserved) (ts : List Token) :
    commands (.word w :: ts) = commands ts := by
  simp [commands, commandsFrom, hw]

theorem commandsFrom_words {words : List Word} (h : words ≠ []) (ws : List Word)
    (ts : List Token) :
    commandsFrom words false (ws.map .word ++ ts) = commandsFrom (words ++ ws) false ts := by
  induction ws generalizing words with
  | nil => simp
  | cons w ws ih =>
    have hne : words ++ [w] ≠ [] := by simp
    simp only [List.map_cons, List.cons_append, commandsFrom, h, false_and, if_false, ih hne,
      List.append_assoc, List.nil_append, Bool.false_eq_true]

/-- Words in a row belong to one command. -/
theorem commands_words {name : Word} (h : name ∉ reserved) (args : List Word) (ts : List Token) :
    commands ((name :: args).map .word ++ ts) = commandsFrom (name :: args) false ts := by
  rw [List.map_cons, List.cons_append, commands, commandsFrom]
  simp only [h, and_false, if_false, Bool.false_eq_true, List.nil_append]
  exact commandsFrom_words (List.cons_ne_nil name []) args ts

theorem commands_command {name : Word} (h : name ∉ reserved) (args : List Word) :
    commands ((name :: args).map .word) = [name :: args] := by
  rw [← List.append_nil (List.map _ _), commands_words h]
  rfl

/-- A redirection behind a command leaves its words alone. -/
theorem commands_redirected {name : Word} (h : name ∉ reserved) (args : List Word) (file : Word) :
    commands ((name :: args).map .word ++ [.operator ['>'], .word file]) = [name :: args] := by
  rw [commands_words h]
  rfl

/-! ## What is copied -/

theorem operands_command (name : Word) {options words : List Word}
    (ho : ∀ w ∈ options, w.isOption = true) (hw : ∀ w ∈ words, w.isOption = false) :
    operands (name :: (options ++ words)) = words := by
  have hnone : options.filter (!·.isOption) = [] := by
    rw [List.filter_eq_nil_iff]
    intro w hmem
    simp [ho w hmem]
  have hall : words.filter (!·.isOption) = words := by
    rw [List.filter_eq_self]
    intro w hmem
    simp [hw w hmem]
  rw [operands, List.tail_cons, List.filter_append, hnone, hall, List.nil_append]

/-- A copying command copies what its words stand for, as long as none looks like an option. -/
theorem copy?_command {tool : String} {name destination : Word} {options sources : List Word}
    (hname : name.text? = some tool) (ho : ∀ w ∈ options, w.isOption = true)
    (hs : ∀ w ∈ sources, w.isOption = false) (hd : destination.isOption = false) :
    copy? tool (name :: (options ++ (sources ++ [destination]))) =
      some ⟨sources.map Word.text?, destination.text?⟩ := by
  have hwords : ∀ w ∈ sources ++ [destination], w.isOption = false := by
    intro w hmem
    rcases List.mem_append.mp hmem with hmem | hmem
    · exact hs w hmem
    · rw [List.mem_singleton.mp hmem]
      exact hd
  simp [copy?, operands_command name ho hwords, hname]

example : copies "cp" "if true; then cp -r /a '/b c' /d 2>&1; fi" =
    some [⟨[some "/a", some "/b c"], some "/d"⟩] := by decide +kernel

theorem copy?_other {tool : String} {name : Word} (h : name.text? ≠ some tool) (words : List Word) :
    copy? tool (name :: words) = none := by
  simp [copy?, h]

/-- A literal word looks like an option only if its text does. -/
theorem isOption_literal (cs : List Char) :
    (literal cs).isOption = true ↔ cs.head? = some '-' := by
  unfold literal Word.isOption
  cases cs with
  | nil => simp
  | cons c cs => split <;> simp

end StatefulRoles.Shell
