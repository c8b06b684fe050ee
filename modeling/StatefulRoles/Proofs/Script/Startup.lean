import StatefulRoles.Proofs.Script
import StatefulRoles.Proofs.Shell.DoubleQuotes
/-!
# What the app container runs once it is started

The script puts the service's name between the double quotes of a `sed` expression, as it is. The
directories of the copying scripts are quoted; this name is not.

Results:
* `startup_read`: the script is read as the same tokens for every inert name, which is literal text
  inside the one `sed` expression.
* `inert_of_startup`: it is read like that for no other name.

A command substitution is cut into the tokens inside it, which is finer than what a shell does, and
the same for all names.
-/
namespace StatefulRoles.Script

open Shell

/-! ## What the script is read as -/

/-- The text of the `sed` expression in front of the name. -/
def sedBefore : String := "s/^search \\([^ ]\\+\\)/search "

/-- The text of the `sed` expression behind the name. -/
def sedAfter : String := ".\\1 \\1/"

/-- The argument of `sed`, given the word that stands for the name. -/
def sedExpression (w : Word) : Word :=
  sedBefore.toList.map .quoted ++ w ++ sedAfter.toList.map .quoted

def beforeSed : List Token :=
  [word "exec", .descriptor [.bare '2'], .operator ['>', '>'],
   word "/tmp/vcluster-poststart.log", .operator [';'],
   word "set", word "-x", .operator [';'],
   word "Retries=60", .operator [';'],
   word "while", .word [.active '[', .active '['],
   .word (.active '$' :: bareWord "Retries"), .operator ['&', '&'], word "!",
   word "-s", word "/etc/resolv.conf", word "]]",
   .operator [';'], word "do", word "sleep", word "1",
   .operator [';'], .word (bareWord "Retries=" ++ [.active '$']), .operator ['('],
   word "expr", .word (.active '$' :: bareWord "Retries"), word "-",
   word "1", .operator [')'], .operator [';'], word "done",
   .operator [';'], word "sed"]

def afterSed : List Token :=
  [word "/etc/resolv.conf", .operator ['>'],
   word "/tmp/resolv.conf.new", .operator ['&', '&'],
   word "cat", word "/tmp/resolv.conf.new", .operator ['>'],
   word "/etc/resolv.conf", .operator [';'],
   word "rm", word "-f", word "/tmp/resolv.conf.new",
   .operator [';'], word "chmod", word "755", word "/run",
   .operator [';'], word "exit", word "0"]

/-- The tokens of the script, given the word that stands for the name. -/
def startupTokens (w : Word) : List Token := beforeSed ++ .word (sedExpression w) :: afterSed

/-- The commands of the script, given this word: `[[` and `]]` are cut at the operator between
them. -/
def startupCommands (w : Word) : List (List Word) :=
  commands beforeSed.dropLast ++
    [[bareWord "sed", sedExpression w, bareWord "/etc/resolv.conf"]] ++
    [["cat", "/tmp/resolv.conf.new"], ["rm", "-f", "/tmp/resolv.conf.new"],
      ["chmod", "755", "/run"], ["exit", "0"]].map (·.map bareWord)

/-! ## Pieces of the script -/

def startupBefore : String :=
  "exec 2>>" ++ startupLogFile ++ "; set -x;" ++
    "Retries=60; while [[ $Retries && ! -s /etc/resolv.conf ]]; do " ++
    "sleep 1; Retries=$(expr $Retries - 1); done; " ++ "sed \"" ++ sedBefore

def startupAfter : String :=
  "/etc/resolv.conf > /tmp/resolv.conf.new && " ++ "cat /tmp/resolv.conf.new > /etc/resolv.conf;" ++
    "rm -f /tmp/resolv.conf.new;" ++ "chmod 755 /run;" ++ "exit 0"

theorem startup_eq (service : String) :
    startup service = startupBefore ++ service ++ (sedAfter ++ "\" " ++ startupAfter) := by
  have hopen : "sed \"s/^search \\([^ ]\\+\\)/search " = "sed \"" ++ sedBefore := by rfl
  have hclose : ".\\1 \\1/\" /etc/resolv.conf > /tmp/resolv.conf.new && " =
      sedAfter ++ "\" " ++ "/etc/resolv.conf > /tmp/resolv.conf.new && " := by rfl
  delta startup startupBefore startupAfter
  simp only [hopen, hclose, toString, String.append_assoc]

theorem run_startupBefore : run .gap startupBefore.toList =
    (beforeSed, .double (sedBefore.toList.map .quoted)) := by
  delta startupBefore startupLogFile sedBefore beforeSed word bareWord
  simp only [String.toList_append]
  repeat rw [String.toList_ofList]
  decide +kernel

theorem run_startupAfter : run .gap startupAfter.toList =
    (afterSed.dropLast, .bare (bareWord "0")) := by
  delta startupAfter afterSed word bareWord
  simp only [String.toList_append]
  repeat rw [String.toList_ofList]
  decide +kernel

/-- The text of the expression behind the name, but for the dot that comes first. -/
def sedRest : List Char := ['\\', '1', ' ', '\\', '1', '/']

theorem toList_sedAfter : sedAfter.toList = '.' :: sedRest := String.toList_ofList

/-- What is behind the name and the dot. -/
def closing : List Char := (sedRest ++ ['"']) ++ ' ' :: startupAfter.toList

theorem toList_startup (service : String) : (startup service).toList =
    startupBefore.toList ++ ((service.toList ++ ['.']) ++ closing) := by
  have hquote : "\" ".toList = ['"', ' '] := String.toList_ofList
  simp only [startup_eq, String.toList_append, closing, hquote, toList_sedAfter]
  simp

theorem not_mem_startupAfter :
    '"' ∉ startupAfter.toList ∧ '\x27' ∉ startupAfter.toList ∧ '\n' ∉ startupAfter.toList := by
  delta startupAfter
  simp only [String.toList_append]
  repeat rw [String.toList_ofList]
  decide +kernel

theorem not_mem_closing : '\x27' ∉ closing ∧ '\n' ∉ closing := by
  obtain ⟨-, hsingle, hline⟩ := not_mem_startupAfter
  rw [closing, List.append_cons]
  exact ⟨List.not_mem_append (by decide) hsingle, List.not_mem_append (by decide) hline⟩

/-- Between double quotes the rest completes the expression. -/
theorem closing_double (v : Word) : run (.double v) closing =
    (.word (v ++ sedRest.map .quoted) :: afterSed.dropLast, .bare (bareWord "0")) := by
  have hsed : run (.double v) (sedRest ++ ['"']) = ([], .bare (v ++ sedRest.map .quoted)) := by
    simp [sedRest, run, step, activeInDouble, escapedInDouble]
  rw [closing, run_trans hsed (run_cons (step_blank _) run_startupAfter)]
  rfl

/-- Without quotes the double quote of the rest begins a text that does not end. -/
theorem closing_bare (v : Word) : atEnd (run (.bare v) closing).2 = none := by
  have hsed : run (.bare v) (sedRest ++ ['"']) =
      ([.word (v ++ [.quoted '1'])], .double [.quoted '1', .bare '/']) := by
    simp [sedRest, run, step, extend, start, finish, blanks, operatorChars, activeChars]
  have hquote : '"' ∉ ' ' :: startupAfter.toList := by
    rw [List.mem_cons, not_or]
    exact ⟨by decide, not_mem_startupAfter.1⟩
  rw [closing, run_append_snd hsed]
  exact (run_double_open hquote _).1

theorem closing_single (v : Word) : atEnd (run (.single v) closing).2 = none := by
  rw [run_single_open not_mem_closing.1]
  rfl

theorem closing_comment : run .comment closing = ([], .comment) := run_comment not_mem_closing.2

/-- A dot is a character of a word, or of a comment. -/
theorem step_dot (m : Mode) : (∃ v, (step m '.').2 = .double v) ∨ (∃ v, (step m '.').2 = .bare v) ∨
    (∃ v, (step m '.').2 = .single v) ∨ (step m '.').2 = .comment := by
  have hstart : start '.' = .bare [.bare '.'] := by decide
  cases m with
  | gap => exact .inr (.inl ⟨_, hstart⟩)
  | comment => exact .inr (.inr (.inr rfl))
  | operator op =>
    have hlast : ∀ long ∈ longOperators, long.getLast? ≠ some '.' := by decide
    have hshort : op ++ ['.'] ∉ longOperators := fun h => hlast _ h (by simp)
    exact .inr (.inl ⟨_, by rw [step, if_neg hshort, hstart]⟩)
  | bare w => exact .inr (.inl ⟨_, by simp [step, extend, blanks, operatorChars, activeChars]; rfl⟩)
  | escape w => exact .inr (.inl ⟨_, rfl⟩)
  | single w => exact .inr (.inr (.inl ⟨_, rfl⟩))
  | double w => exact .inl ⟨_, rfl⟩
  | doubleEscape w => exact .inl ⟨_, rfl⟩

theorem text?_quoted (text : String) : Word.text? (text.toList.map .quoted) = some text := by
  rw [text?_map (fun _ => rfl), String.ofList_toList]

theorem size_quoted (text : String) : Word.size (text.toList.map .quoted) = text.toList.length :=
  size_of_text? (text?_quoted text)

/-- So what is behind the name completes the script only between double quotes, unless all of it is
in a comment. -/
theorem closing_complete {m : Mode} {us : List Token}
    (h : atEnd (run (step m '.').2 closing).2 = some us) :
    (∃ v, (step m '.').2 = .double v ∧
      sizes (run (.double v) closing).1 + sizes us = v.size + 6 + sizes afterSed) ∨
    sizes (run (step m '.').2 closing).1 + sizes us = 0 := by
  rcases step_dot m with ⟨v, hv⟩ | ⟨v, hv⟩ | ⟨v, hv⟩ | hv <;> rw [hv] at h
  · rw [closing_double] at h
    obtain rfl : [.word (bareWord "0")] = us := by simpa [atEnd] using h
    have hlast : sizes afterSed = sizes afterSed.dropLast + sizes [.word (bareWord "0")] :=
      sizes_append afterSed.dropLast _
    have hword : Word.size (v ++ sedRest.map .quoted) = v.size + 6 := size_append v _
    refine .inl ⟨v, hv, ?_⟩
    rw [closing_double, hlast, sizes, Token.size, hword]
    omega
  · rw [closing_bare] at h
    simp at h
  · rw [closing_single] at h
    simp at h
  · rw [closing_comment] at h
    obtain rfl : [] = us := by simpa [atEnd] using h
    rw [hv, closing_comment]
    exact .inr rfl

/-! ## The whole script -/

/-- The script is read as the same tokens for every inert name, up to the word that stands for the
name. -/
theorem startup_read {service : String} (h : Inert service.toList) :
    tokens? (startup service) = some (startupTokens (service.toList.map .quoted)) := by
  have hdot : '.' ∉ escapedInDouble := by decide
  have hname : run (.double (sedBefore.toList.map .quoted)) ((service.toList ++ ['.']) ++ closing) =
      (.word (sedExpression (service.toList.map .quoted)) :: afterSed.dropLast,
        .bare (bareWord "0")) := by
    have hstep (w : Word) : run (.double w) ['.'] = ([], .double (w ++ [.quoted '.'])) := rfl
    rw [List.append_assoc, List.singleton_append, run_inert hdot h, ← List.singleton_append,
      run_trans (hstep _) (closing_double _), sedExpression, toList_sedAfter]
    simp
  have hrun := run_trans run_startupBefore hname
  rw [← toList_startup] at hrun
  rw [tokens?_of_run hrun]
  simp only [atEnd, Option.map_some, startupTokens, List.append_assoc, List.cons_append]
  rfl

theorem sizes_startupTokens (w : Word) : sizes (startupTokens w) =
    sizes beforeSed + (sedBefore.toList.length + w.size + 7 + sizes afterSed) := by
  have hafter : sedAfter.toList.length = 7 := congrArg List.length toList_sedAfter
  rw [startupTokens, sizes_append]
  simp only [sizes, Token.size, sedExpression, size_append,
    size_quoted, hafter]

/-- The name of a script that is read like that leaves the reading between double quotes, and has
kept all its characters. -/
theorem double_of_startup {service : String} {w : Word} (hw : w.text? = some service)
    (h : tokens? (startup service) = some (startupTokens w)) :
    ∃ ts v, run (.double (sedBefore.toList.map .quoted)) (service.toList ++ ['.']) =
        (ts, .double v) ∧
      sizes ts + v.size = sedBefore.toList.length + service.toList.length + 1 := by
  obtain ⟨ts, m, hread⟩ : ∃ ts m, run (.double (sedBefore.toList.map .quoted))
      (service.toList ++ ['.']) = (ts, (step m '.').2) := ⟨_, _, run_append _ _ _⟩
  have hrun := run_trans run_startupBefore (run_trans hread (Prod.eta (run _ closing)).symm)
  rw [← toList_startup] at hrun
  rw [tokens?_of_run hrun, Option.map_eq_some_iff] at h
  obtain ⟨us, hend, htokens⟩ := h
  have hsizes := congrArg sizes htokens
  rw [sizes_startupTokens, size_of_text? hw] at hsizes
  simp only [sizes_append] at hsizes hend
  rcases closing_complete hend with ⟨v, hv, hrest⟩ | hrest
  · rw [hv] at hread hsizes
    exact ⟨ts, v, hread, by omega⟩
  · -- all tokens would be complete in front of the rest, which is part of the expression
    have hle := run_size (.double (sedBefore.toList.map .quoted)) (service.toList ++ ['.'])
    rw [hread, Mode.size, size_quoted, List.length_append, List.length_singleton] at hle
    dsimp only at hle
    omega

/-- It is read like that for no other name. -/
theorem inert_of_startup {service : String} {w : Word} (hw : w.text? = some service)
    (h : tokens? (startup service) = some (startupTokens w)) : Inert service.toList := by
  obtain ⟨ts, v, hread, hsize⟩ := double_of_startup hw h
  exact inert_of_run hread (Nat.le_of_eq (by rw [hsize, size_quoted]))

/-- The script runs the same commands whatever its `sed` expression is. -/
theorem commands_startupTokens (w : Word) : commands (startupTokens w) = startupCommands w := by
  have hsemi : isRedirection [';'] = false := by decide
  have hand : isRedirection ['&', '&'] = false := by decide
  have hsplit : startupTokens w = beforeSed.dropLast.dropLast ++ .operator [';'] ::
      (([bareWord "sed", sedExpression w, bareWord "/etc/resolv.conf"].map .word ++
        [.operator ['>'], word "/tmp/resolv.conf.new"]) ++
        .operator ['&', '&'] :: afterSed.drop 4) := rfl
  have hsed : bareWord "sed" ∉ reserved := by decide +kernel
  have hbefore : commands beforeSed.dropLast.dropLast = commands beforeSed.dropLast := by
    decide +kernel
  have hafter : commands (afterSed.drop 4) = [["cat", "/tmp/resolv.conf.new"],
      ["rm", "-f", "/tmp/resolv.conf.new"], ["chmod", "755", "/run"], ["exit", "0"]].map
        (·.map bareWord) := by decide +kernel
  rw [hsplit, commands_append hsemi, commands_append hand, hbefore, hafter, word,
    commands_redirected hsed, startupCommands, List.append_assoc]

/-- The script keeps its tokens, with the name as literal text inside the one `sed` expression, for
exactly the names that are inert between double quotes; then it runs the same commands as for all of
these. -/
theorem startup_shape (service : String) :
    (Inert service.toList ↔
      ∃ w : Word, w.text? = some service ∧ tokens? (startup service) = some (startupTokens w)) ∧
    (Inert service.toList ↔
      tokens? (startup service) = some (startupTokens (service.toList.map .quoted))) ∧
    (sedExpression (service.toList.map .quoted)).text? =
      some ("s/^search \\([^ ]\\+\\)/search " ++ service ++ ".\\1 \\1/") ∧
    ∀ w, commands (startupTokens w) = startupCommands w := by
  have htext := text?_quoted service
  have hsed := text?_append (text?_append (text?_quoted sedBefore) htext) (text?_quoted sedAfter)
  refine ⟨⟨fun h => ⟨_, htext, startup_read h⟩, ?_⟩, ⟨startup_read, inert_of_startup htext⟩,
    hsed, commands_startupTokens⟩
  rintro ⟨w, hw, h⟩
  exact inert_of_startup hw h

/-- A name with a quote in it runs a command of its own. -/
theorem startup_injected : ∃ ts, tokens? (startup "\"; reboot; \"") = some ts ∧
    [bareWord "reboot"] ∈ commands ts ∧ ∀ w, ts ≠ startupTokens w := by
  have hsemi : isRedirection [';'] = false := by decide
  have hreboot : bareWord "reboot" ∉ reserved := by decide +kernel
  let before : Word := sedBefore.toList.map .quoted
  have hname : run (.double before) ("\"; reboot; \"".toList ++ ['.']) =
      ([.word before, .operator [';'], word "reboot", .operator [';']], .double [.quoted '.']) := by
    rw [String.toList_ofList]
    rfl
  have hrun := run_trans run_startupBefore (run_trans hname (closing_double _))
  rw [← toList_startup] at hrun
  have htokens : tokens? (startup "\"; reboot; \"") = some ((beforeSed ++ [.word before]) ++
      .operator [';'] :: ([bareWord "reboot"].map .word ++
        .operator [';'] :: .word (.quoted '.' :: sedRest.map .quoted) :: afterSed)) :=
    tokens?_of_run hrun
  refine ⟨_, htokens, ?_, ?_⟩
  · rw [commands_append hsemi, commands_append hsemi, commands_command hreboot]
    simp
  · rintro w h
    have hlength := congrArg List.length h
    simp [startupTokens, beforeSed, afterSed] at hlength

end StatefulRoles.Script
