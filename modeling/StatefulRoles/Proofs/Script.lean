import StatefulRoles.Proofs.Shell.Commands
import StatefulRoles.Script
/-!
# What the init container runs

Results:
* `populate_tokens`: the script that populates a volume is read as the same tokens for all lists of
  directories, with each directory as one literal word in both copying commands.
* `populate_commands`: so it runs the same commands for all of them.
* `plainCopy_read`, `rsyncCopy_read`: each copying command is read in this way on its own as well.
* `copies_populate`: both copying commands copy exactly the directories, in order, onto the volume.
-/
namespace StatefulRoles.Script

open Shell

/-! ## What the script is read as -/

def word (text : String) : Token := .word (bareWord text)

/-- Two tests: whether `rsync` can be used, and whether the volume is populated already. -/
def tests : List Token :=
  [word "rsync", word "--log-file=./rsync-check-status-dummy.log", word "--info=progress2",
   word "--relative", word "-ax", word "--version", .operator ['>'], word "/dev/null",
   .descriptor [.bare '2'], .operator ['>', '&'], word "1", .operator [';'],
   .word (bareWord "RSYNC_CHECK_STATUS=" ++ [.active '$', .active '?']), .operator [';'],
   word "if", word "!", .word [.active '['], word "-f", word "/mnt/etc/vcluster.init", word "]",
   .operator [';'], word "then", word "if", .word [.active '['],
   .word ([.active '$', .active '{'] ++ bareWord "RSYNC_CHECK_STATUS\x7d"), word "!=", word "0",
   word "]"]

/-- The words of the copy with `cp`, in front of the directories. -/
def plainWords : List Word := ["cp", "--parents", "-ax"].map bareWord

/-- The words of the copy with `rsync`, in front of the directories. -/
def rsyncWords : List Word :=
  ["rsync", "--log-file=/mnt/var/log/vcluster/init.log", "--info=progress2", "--relative",
    "-ax"].map bareWord

def beforeCopy : List Token := tests ++ .operator [';'] :: word "then" :: plainWords.map .word

def betweenCopies : List Token :=
  word "/mnt" :: .operator [';'] :: word "else" ::
    ["mkdir", "-p", "/mnt/var/log/vcluster"].map word ++ .operator [';'] :: rsyncWords.map .word

def afterCopy : List Token :=
  [word "/mnt", .operator ['>'], word "/mnt/var/log/vcluster/init-progress.log", .operator [';'],
   word "fi", .operator [';'], word "fi", .operator [';'], word "touch",
   word "/mnt/etc/vcluster.init", .operator [';'], word "exit", word "0"]

/-- The tokens of the copy with `cp`, given the words that stand for the directories. -/
def plainTokens (dirs : List Word) : List Token :=
  (plainWords ++ dirs ++ [bareWord "/mnt"]).map .word

/-- The tokens of the copy with `rsync`, given these words. -/
def rsyncTokens (dirs : List Word) : List Token :=
  ["mkdir", "-p", "/mnt/var/log/vcluster"].map word ++
    .operator [';'] :: (rsyncWords ++ dirs ++ [bareWord "/mnt"]).map .word ++
    [.operator ['>'], word "/mnt/var/log/vcluster/init-progress.log"]

/-- The tokens of the script, given these words. -/
def populateTokens (dirs : List Word) : List Token :=
  tests ++ [.operator [';'], word "then"] ++ plainTokens dirs ++ [.operator [';'], word "else"] ++
    rsyncTokens dirs ++ afterCopy.drop 3

/-- The commands of the script, given the words that stand for the directories. -/
def populateCommands (dirs : List Word) : List (List Word) :=
  commands tests ++ [plainWords ++ dirs ++ [bareWord "/mnt"]] ++
    [["mkdir", "-p", "/mnt/var/log/vcluster"].map bareWord] ++
    [rsyncWords ++ dirs ++ [bareWord "/mnt"]] ++
    [["touch", "/mnt/etc/vcluster.init"].map bareWord, ["exit", "0"].map bareWord]

/-! ## Pieces of the script -/

def beforeText : String :=
  rsyncProbe ++ " " ++ ("if ! [ -f " ++ mountPath ++ markerFile ++ " ]; then ") ++
    "if [ $\x7bRSYNC_CHECK_STATUS\x7d != 0 ]; then " ++ "cp --parents -ax "

def betweenText : String :=
  mountPath ++ "; " ++ "else " ++ "mkdir -p " ++ mountPath ++ logDirectory ++ "; " ++
    "rsync --log-file=" ++ mountPath ++ logFile ++ " --info=progress2 " ++ "--relative -ax "

/-- The copy with `rsync`, in front of the directories. -/
def rsyncBefore : String :=
  "mkdir -p " ++ mountPath ++ logDirectory ++ "; " ++ "rsync --log-file=" ++ mountPath ++ logFile ++
    " --info=progress2 " ++ "--relative -ax "

def afterText : String :=
  mountPath ++ " " ++ "> " ++ mountPath ++ progressFile ++ "; fi; " ++ "fi; " ++ "touch " ++
    mountPath ++ markerFile ++ "; exit 0"

theorem populate_eq (dirs : List String) : populate dirs =
    beforeText ++ (quoteAll dirs ++ " ") ++ betweenText ++ (quoteAll dirs ++ " ") ++ afterText := by
  delta populate beforeText betweenText afterText plainCopy rsyncCopy
  simp only [toString, String.append_assoc]

-- Each piece is short enough to be read by evaluation, one literal at a time. The kernel is slow to
-- take a literal apart, unless it is given the characters.

theorem run_beforeText : run .gap beforeText.toList = (beforeCopy, .gap) := by
  delta beforeText rsyncProbe mountPath markerFile beforeCopy tests word bareWord
  simp only [String.toList_append]
  repeat rw [String.toList_ofList]
  decide +kernel

theorem run_rsyncBefore : run .gap rsyncBefore.toList =
    (["mkdir", "-p", "/mnt/var/log/vcluster"].map word ++
      .operator [';'] :: rsyncWords.map .word, .gap) := by
  delta rsyncBefore mountPath logDirectory logFile
  simp only [String.toList_append]
  repeat rw [String.toList_ofList]
  decide +kernel

theorem run_betweenText : run .gap betweenText.toList = (betweenCopies, .gap) := by
  have hsplit : betweenText = mountPath ++ "; else " ++ rsyncBefore := by
    rw [show "; else " = "; " ++ "else " from rfl]
    delta betweenText rsyncBefore
    simp only [String.append_assoc]
  have helse : run .gap (mountPath ++ "; else ").toList =
      ([word "/mnt", .operator [';'], word "else"], .gap) := by decide +kernel
  rw [hsplit, String.toList_append, run_trans helse run_rsyncBefore]
  rfl

theorem tokens?_afterText : tokens? afterText = some afterCopy := by
  delta tokens? afterText mountPath progressFile markerFile afterCopy word bareWord
  simp only [String.toList_append]
  repeat rw [String.toList_ofList]
  decide +kernel

/-! ## The whole script -/

theorem run_dirs (dirs : List String) :
    run .gap (quoteAll dirs ++ " ").toList = ((literals dirs).map .word, .gap) := by
  rw [String.toList_append]
  exact run_quoteAll dirs

/-- The tokens of the script depend on the directories only where these are given, and each is one
literal word there. -/
theorem populate_tokens (dirs : List String) : tokens? (populate dirs) =
    some (beforeCopy ++ (literals dirs).map .word ++ betweenCopies ++ (literals dirs).map .word ++
      afterCopy) := by
  have hbefore := run_trans run_beforeText (run_dirs dirs)
  have hbetween := run_trans (run_trans hbefore run_betweenText) (run_dirs dirs)
  simp only [← String.toList_append] at hbetween
  rw [populate_eq, tokens?_append hbetween, tokens?_afterText, Option.map_some]

/-- So the script is made of the two copies, which are read as they are on their own. -/
theorem populate_read (dirs : List String) :
    tokens? (populate dirs) = some (populateTokens (literals dirs)) := by
  rw [populate_tokens]
  simp [populateTokens, plainTokens, rsyncTokens, beforeCopy, betweenCopies, afterCopy, word]

/-- The commands of the script are the same for all directories, up to the words that stand for
these. -/
theorem populate_commands (dirs : List String) :
    (tokens? (populate dirs)).map commands = some (populateCommands (literals dirs)) := by
  have hsemi : isRedirection [';'] = false := by decide
  -- the same tokens, command by command
  have hsplit : beforeCopy ++ (literals dirs).map .word ++ betweenCopies ++
      (literals dirs).map .word ++ afterCopy =
      tests ++ .operator [';'] :: (word "then" ::
        (plainWords ++ literals dirs ++ [bareWord "/mnt"]).map .word ++
        .operator [';'] :: (word "else" :: ["mkdir", "-p", "/mnt/var/log/vcluster"].map word ++
        .operator [';'] :: ((rsyncWords ++ literals dirs ++ [bareWord "/mnt"]).map .word ++
          [.operator ['>'], word "/mnt/var/log/vcluster/init-progress.log"] ++
        .operator [';'] :: afterCopy.drop 4))) := by
    simp [beforeCopy, betweenCopies, afterCopy, word]
  have hthen : bareWord "then" ∈ reserved := by decide +kernel
  have hplain : bareWord "cp" ∉ reserved := by decide +kernel
  have hrsync : bareWord "rsync" ∉ reserved := by decide +kernel
  have hcp : commands (word "then" :: (plainWords ++ literals dirs ++ [bareWord "/mnt"]).map .word) =
      [plainWords ++ literals dirs ++ [bareWord "/mnt"]] :=
    (commands_reserved hthen _).trans (commands_command hplain _)
  have hmkdir : commands (word "else" :: ["mkdir", "-p", "/mnt/var/log/vcluster"].map word) =
      [["mkdir", "-p", "/mnt/var/log/vcluster"].map bareWord] := by decide +kernel
  have hlast : commands (afterCopy.drop 4) =
      [["touch", "/mnt/etc/vcluster.init"].map bareWord, ["exit", "0"].map bareWord] := by
    decide +kernel
  have hcopy : commands ((rsyncWords ++ literals dirs ++ [bareWord "/mnt"]).map .word ++
      [.operator ['>'], word "/mnt/var/log/vcluster/init-progress.log"]) =
      [rsyncWords ++ literals dirs ++ [bareWord "/mnt"]] := commands_redirected hrsync _ _
  rw [populate_tokens, Option.map_some, hsplit, commands_append hsemi, commands_append hsemi,
    commands_append hsemi, commands_append hsemi, hcp, hmkdir, hcopy, hlast]
  simp only [populateCommands, List.append_assoc]

/-! ## Each copy on its own -/

def rsyncAfter : String := mountPath ++ " " ++ "> " ++ mountPath ++ progressFile

theorem plainCopy_eq (dirs : List String) :
    plainCopy dirs = "cp --parents -ax " ++ (quoteAll dirs ++ " ") ++ mountPath := by
  delta plainCopy
  simp only [toString, String.append_assoc]

theorem rsyncCopy_eq (dirs : List String) :
    rsyncCopy dirs = rsyncBefore ++ (quoteAll dirs ++ " ") ++ rsyncAfter := by
  delta rsyncCopy rsyncBefore rsyncAfter
  simp only [toString, String.append_assoc]

theorem plainCopy_read (dirs : List String) :
    tokens? (plainCopy dirs) = some (plainTokens (literals dirs)) := by
  have hbefore : run .gap "cp --parents -ax ".toList = (plainWords.map .word, .gap) := by
    decide +kernel
  have hafter : tokens? mountPath = some [word "/mnt"] := by decide +kernel
  have hrun := run_trans hbefore (run_dirs dirs)
  rw [← String.toList_append] at hrun
  rw [plainCopy_eq, tokens?_append hrun, hafter, Option.map_some]
  simp [plainTokens, word]

theorem rsyncCopy_read (dirs : List String) :
    tokens? (rsyncCopy dirs) = some (rsyncTokens (literals dirs)) := by
  have hafter : tokens? rsyncAfter = some [word "/mnt", .operator ['>'],
      word "/mnt/var/log/vcluster/init-progress.log"] := by
    delta tokens? rsyncAfter mountPath progressFile
    simp only [String.toList_append]
    repeat rw [String.toList_ofList]
    decide +kernel
  have hrun := run_trans run_rsyncBefore (run_dirs dirs)
  rw [← String.toList_append] at hrun
  rw [rsyncCopy_eq, tokens?_append hrun, hafter, Option.map_some]
  simp [rsyncTokens, word]

/-! ## What is copied -/

/-- A copying command of the script copies the directories, unless one looks like an option. -/
theorem copy?_dirs {tool : String} {name : Word} {options : List Word} {dirs : List String}
    (hname : name.text? = some tool) (ho : ∀ w ∈ options, w.isOption = true)
    (hd : ∀ d ∈ dirs, d.toList.head? ≠ some '-') :
    copy? tool (name :: options ++ literals dirs ++ [bareWord "/mnt"]) =
      some ⟨dirs.map some, some "/mnt"⟩ := by
  have hmnt : (bareWord "/mnt").text? = some "/mnt" := by decide +kernel
  have hnone : (bareWord "/mnt").isOption = false := by decide +kernel
  have hliterals : ∀ w ∈ literals dirs, w.isOption = false := by
    intro w hw
    obtain ⟨d, hmem, rfl⟩ := List.mem_map.mp hw
    exact Bool.eq_false_iff.mpr fun h => hd d hmem ((isOption_literal _).mp h)
  rw [List.append_assoc, List.cons_append, copy?_command hname ho hliterals hnone,
    text?_literals, hmnt]

theorem copies_eq (tool : String) (dirs : List String) : copies tool (populate dirs) =
    some ((populateCommands (literals dirs)).filterMap (copy? tool)) := by
  have h := congrArg (Option.map (List.filterMap (copy? tool))) (populate_commands dirs)
  rwa [Option.map_map, Option.map_some] at h

/-- Both copying commands copy exactly the directories, in order, onto the volume. -/
theorem copies_populate {dirs : List String} (h : ∀ d ∈ dirs, d.toList.head? ≠ some '-') :
    copies "cp" (populate dirs) = some [⟨dirs.map some, some "/mnt"⟩] ∧
      copies "rsync" (populate dirs) = some [⟨dirs.map some, some "/mnt"⟩] := by
  have hplain : copy? "cp" (plainWords ++ literals dirs ++ [bareWord "/mnt"]) =
      some ⟨dirs.map some, some "/mnt"⟩ :=
    copy?_dirs (by decide +kernel) (by decide +kernel) h
  have hrsync : copy? "rsync" (rsyncWords ++ literals dirs ++ [bareWord "/mnt"]) =
      some ⟨dirs.map some, some "/mnt"⟩ :=
    copy?_dirs (by decide +kernel) (by decide +kernel) h
  have hplain' : copy? "rsync" (plainWords ++ literals dirs ++ [bareWord "/mnt"]) = none :=
    copy?_other (by decide +kernel) _
  have hrsync' : copy? "cp" (rsyncWords ++ literals dirs ++ [bareWord "/mnt"]) = none :=
    copy?_other (by decide +kernel) _
  -- the other commands copy nothing: the test of `rsync` has options only
  have hothers : ∀ tool ∈ ["cp", "rsync"], (commands tests).filterMap (copy? tool) = [] ∧
      copy? tool (["mkdir", "-p", "/mnt/var/log/vcluster"].map bareWord) = none ∧
      copy? tool (["touch", "/mnt/etc/vcluster.init"].map bareWord) = none ∧
      copy? tool (["exit", "0"].map bareWord) = none := by
    decide +kernel
  constructor
  · obtain ⟨htests, hmkdir, htouch, hexit⟩ := hothers "cp" List.mem_cons_self
    rw [copies_eq, populateCommands]
    simp only [List.filterMap_append, List.filterMap_cons, List.filterMap_nil, htests, hplain,
      hmkdir, hrsync', htouch, hexit, List.nil_append, List.append_nil]
  · obtain ⟨htests, hmkdir, htouch, hexit⟩ := hothers "rsync" (by simp)
    rw [copies_eq, populateCommands]
    simp only [List.filterMap_append, List.filterMap_cons, List.filterMap_nil, htests, hplain',
      hmkdir, hrsync, htouch, hexit, List.nil_append, List.append_nil]

end StatefulRoles.Script
