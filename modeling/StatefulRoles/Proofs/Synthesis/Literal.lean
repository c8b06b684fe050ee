import StatefulRoles.Proofs.Synthesis.Persistence
/-!
# Directories in scripts

The directories kept are written into scripts that run as root. Whatever they are called, a shell
reads each of them as one literal word, and all the rest of a script as if they were not there.

Results:
* `scripts_literal`: every script that copies directories is read as the same tokens, with one
  literal word for each directory; in a stateful set that is built these words begin with a slash,
  so that none is an option.
-/
namespace StatefulRoles.Synthesis

open Shell Script

/-- A word that begins with a slash. -/
def Rooted (w : Word) : Prop := (∃ rest, w.text? = some ("/" ++ rest)) ∧ w.isOption = false

theorem rooted_literal {dir : String} {rest : List Char} (h : dir.toList = '/' :: rest) :
    Rooted (literal dir.toList) := by
  refine ⟨⟨Mounting.subPath dir, ?_⟩, Bool.eq_false_iff.mpr fun hoption => ?_⟩
  · rw [text?_literal, String.ofList_toList, Mounting.slash_subPath h]
  · rw [isOption_literal, h] at hoption
    cases hoption

/-- **No directory means anything to the shell.** Whatever the directories are, each script that
copies them is read as the same tokens, in which one literal word each stands for them, in order.
In every stateful set that is built, all these words begin with a slash. -/
theorem scripts_literal :
    (∀ dirs, ∃ words : List Word, words.map Word.text? = dirs.map some ∧
      tokens? (plainCopy dirs) = some (plainTokens words) ∧
      tokens? (rsyncCopy dirs) = some (rsyncTokens words) ∧
      tokens? (populate dirs) = some (populateTokens words)) ∧
    ∀ catalog settings cluster role status replicas native s pod init,
      (build catalog settings cluster role status replicas native).result = .ok s →
      s.spec.template = some pod → pod.init = some init →
      ∃ dirs words, init.script = populate dirs ∧ words.map Word.text? = dirs.map some ∧
        tokens? init.script = some (populateTokens words) ∧ ∀ w ∈ words, Rooted w := by
  constructor
  · intro dirs
    exact ⟨literals dirs, text?_literals dirs, plainCopy_read dirs, rsyncCopy_read dirs,
      populate_read dirs⟩
  · intro catalog settings cluster role status replicas native s pod init h hpod hinit
    obtain ⟨facts, hfacts, rfl⟩ := build_eq_ok.mp h
    obtain ⟨read, -, hgathered⟩ := gather_eq_ok.mp hfacts
    cases hpod
    obtain ⟨-, hinit⟩ := Option.ite_none_right_eq_some.mp hinit
    cases hinit
    refine ⟨facts.dirs, literals facts.dirs, rfl, text?_literals _, populate_read _, ?_⟩
    intro w hw
    obtain ⟨dir, hdir, rfl⟩ := List.mem_map.mp hw
    obtain ⟨rest, hrest⟩ := hgathered.toList_dir dir hdir
    exact rooted_literal hrest

theorem scripts_literal_storingRole :
    let run := build (plainCatalog (some ["/a b;rm *", "$(x)'\"", "-rf", ""])) (.ok {})
      { name := "c", ns := "n", uid := "u", spec := { app := "db" } } storingRole none 3 none
    ∃ s pod init words, run.result = .ok s ∧ s.spec.template = some pod ∧ pod.init = some init ∧
      tokens? init.script = some (populateTokens words) ∧ ∀ w ∈ words, Rooted w := by
  intro run
  obtain ⟨s, hs⟩ : ∃ s, run.result = .ok s := ⟨_, rfl⟩
  obtain ⟨pod, hpod⟩ : ∃ pod, s.spec.template = some pod := by
    cases hs
    exact ⟨_, rfl⟩
  obtain ⟨init, hinit⟩ : ∃ init, pod.init = some init := by
    cases hs
    cases hpod
    exact ⟨_, rfl⟩
  obtain ⟨dirs, words, -, -, hread, hrooted⟩ :=
    scripts_literal.2 _ _ _ _ _ _ _ s pod init hs hpod hinit
  exact ⟨s, pod, init, words, hs, hpod, hinit, hread, hrooted⟩

end StatefulRoles.Synthesis
