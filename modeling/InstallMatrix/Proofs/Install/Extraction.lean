import InstallMatrix.Install.Phase
import InstallMatrix.Proofs.Shell.Reading

/-!
# `InstallMatrix.Proofs.Install.Extraction`: what the extract step unpacks

The extract step writes the path of the archive between single quotes. Its script is read as a
shell reads it (`Shell.tokens`): up to the path it is the same for every archive
(`run_extractStart`), and between single quotes only a single quote has a meaning. So a name
without one is the single operand of the last command (`tokens_extractScript`). A name with one
never is: the first quote in it ends the quotes and is not read as a character, and no other
character makes up for it (`spelled?_ne_of_quote`).

`extraction_exact` puts the two together. `commands_of_injected_command` is an archive name that
runs a command.
-/

set_option autoImplicit false

namespace InstallMatrix.Install

open Shell

/-- The word for the directory that the archive is unpacked into. -/
def workWord : Word := .value "HOME" true :: quotedWord ("/" ++ workDir)

/-- What the extract step does before it unpacks the archive: it removes the directory, makes it
anew and goes there. -/
def preparation : List Command :=
  [[bareWord "rm", bareWord "-rf", workWord], [bareWord "mkdir", bareWord "-p", workWord],
    [bareWord "cd", workWord]]

/-- The call that unpacks an archive. -/
def unpacking (fileName : String) : Command :=
  [bareWord "unzip", bareWord "-q", bareWord "-o", quotedWord (archivePath fileName)]

/-- The script of the extract step up to the path of the archive. -/
def extractStart : String :=
  "rm -rf \"$HOME/" ++ workDir ++ "\" && mkdir -p \"$HOME/" ++ workDir ++ "\" && cd \"$HOME/"
    ++ workDir ++ "\" && unzip -q -o '"

/-- The tokens of the extract step up to the path of the archive. They are the same for every
archive, so the reading of the script comes down to the reading of the path. -/
def startTokens : List Token :=
  preparation.flatMap (fun c => c.map Token.word ++ [.operator "&&"])
    ++ [.word (bareWord "unzip"), .word (bareWord "-q"), .word (bareWord "-o")]

/-- Behind a quote that has begun a word, with nothing read into it yet. -/
def quoteOpened : Reader := ⟨[], some [], .single⟩

/-- The path of the archive stands between single quotes. -/
theorem run_extractStart :
    Reader.start.run extractStart.toList = quoteOpened.after startTokens := by
  decide +kernel

/-- The script of the extract step ends in the path of the archive and the quote that closes it.
-/
theorem toList_extractScript (fileName : String) : (extractScript fileName).toList
    = extractStart.toList ++ ((archivePath fileName).toList ++ ['\'']) := by
  have parts : extractScript fileName = extractStart ++ archivePath fileName ++ "'" := rfl
  rw [parts, String.toList_append, String.toList_append, List.append_assoc]
  rfl

/-- What follows the beginning of the script is read as if it stood alone behind a quote. -/
theorem tokens_extractScript (fileName : String) : tokens (extractScript fileName) =
    ((quoteOpened.run (archivePath fileName).toList).step '\'').finish.map (startTokens ++ ·) := by
  rw [tokens, toList_extractScript, Reader.run_append, run_extractStart, Reader.run_after,
    Reader.finish_after, Reader.run_append]
  rfl

/-- The path of an archive has a quote in it just if the file name has one. -/
theorem quote_mem_archivePath {fileName : String} :
    '\'' ∈ (archivePath fileName).toList ↔ '\'' ∈ fileName.toList := by
  have start : '\'' ∉ (Environment.artifactMount ++ "/").toList := by decide
  rw [archivePath, String.toList_append, List.mem_append]
  exact or_iff_right start

/-- The path of an archive without a quote in its name is one word, for nothing in it ends the
quotes. -/
theorem tokens_of_quote_free {fileName : String} (free : '\'' ∉ fileName.toList) :
    tokens (extractScript fileName)
      = some (startTokens ++ [.word (quotedWord (archivePath fileName))]) := by
  have reads := Reader.run_single [] [] (mt quote_mem_archivePath.mp free)
  rw [tokens_extractScript, quoteOpened, reads]
  rfl

/-- What is spelled before the path is shorter than any path. So none of these words can be taken
for the archive. -/
theorem length_lt_of_mem_startTokens {w : Word} {text : String} (mem : .word w ∈ startTokens)
    (spells : w.spelled? = some text) (fileName : String) :
    text.toList.length < (archivePath fileName).toList.length := by
  have short : ∀ t ∈ startTokens, ∀ text ∈ t.spelled?, text.toList.length < 11 := by
    decide +kernel
  have long : (archivePath fileName).toList.length = 11 + fileName.toList.length := by
    rw [archivePath, String.toList_append, List.length_append]
    rfl
  exact long ▸ Nat.lt_add_right _ (short _ mem text spells)

/-- No word of the script spells the path of an archive with a quote in its name. The words read
so far are too short, and those behind have lost at least the quote. -/
theorem spelled?_ne_of_quote {fileName : String} (quote : '\'' ∈ fileName.toList)
    {ts : List Token} (read : tokens (extractScript fileName) = some ts) {w : Word}
    (mem : .word w ∈ ts) : w.spelled? ≠ some (archivePath fileName) := by
  intro spells
  rw [tokens_extractScript] at read
  obtain ⟨later, done, rfl⟩ := Option.map_eq_some_iff.mp read
  rcases List.mem_append.mp mem with before | behind
  · exact absurd (length_lt_of_mem_startTokens before spells fileName) (Nat.lt_irrefl _)
  · -- Up to its first quote the path is spelled character by character. The quote is not.
    obtain ⟨left, right, cut, free⟩ :=
      List.eq_append_cons_of_mem (quote_mem_archivePath.mpr quote)
    have reads : quoteOpened.run (left ++ ['\''])
        = ⟨[], some (left.map (.char · true)), .bare⟩ := by
      rw [Reader.run_append, quoteOpened, Reader.run_single [] [] free]
      rfl
    have before : (⟨[], some (left.map (.char · true)), .bare⟩ : Reader).weight = left.length := by
      rw [Reader.weight, Reader.letters, Option.getD_some, letters_map_char]
      exact Nat.zero_add _
    have ended := Reader.letters_finish_quote_le _ done
    rw [cut, List.append_cons, Reader.run_append, reads] at ended
    have onward := Reader.weight_run_le ⟨[], some (left.map (.char · true)), .bare⟩ right
    have spelled := letters_le_of_mem behind
    have length := letters_of_spelled? spells
    rw [cut, List.length_append, List.length_cons] at length
    omega

/-- The commands for an archive without a quote in its name: the directory is made, and the
archive is unpacked into it under its very name. -/
theorem commands_of_quote_free {fileName : String} (free : '\'' ∉ fileName.toList) :
    commands (extractScript fileName) = some (preparation ++ [unpacking fileName]) := by
  rw [commands, tokens_of_quote_free free]
  rfl

/-- **The extract step unpacks exactly the chosen archive, if its name has no single quote.** Read
with the quoting rules of a shell, the script prepares the work directory and then calls `unzip`
with the path of the archive as the only operand, every character of it quoted. If the name has a
single quote, no command that is read has the path among its words. -/
theorem extraction_exact (i : Identity) (fileName : String) (installer : Installer)
    (testUser : String) :
    ∃ extract rest, phaseSteps i fileName installer testUser = extract :: rest ∧
      extract.name = "extract" ∧
      ('\'' ∉ fileName.toList →
        commands extract.command.script = some (preparation ++ [unpacking fileName])) ∧
      ('\'' ∈ fileName.toList → ∀ read, commands extract.command.script = some read →
        ∀ c ∈ read, ∀ w ∈ c, w.spelled? ≠ some (archivePath fileName)) := by
  refine ⟨_, _, rfl, rfl, commands_of_quote_free, fun quote read isRead c command w mem => ?_⟩
  obtain ⟨ts, isTokens, grouped⟩ := Option.bind_eq_some_iff.mp isRead
  have word := (mem_of_commandsFrom grouped command mem).resolve_left nofun
  exact spelled?_ne_of_quote quote isTokens word

/-- A name that is accepted, and is more than one word to a shell that sees no quotes around it. -/
def tangledName : String := "a $HOME;\"b\" `c`-x86_64-linux.zip"

/-- A name that is accepted, and ends the quotes around it. -/
def injectedName : String := "a';reboot;'-x86_64-linux.zip"

/-- Blanks, dollar signs, semicolons and double quotes in a name change nothing. Two single quotes
do, although they leave nothing open. -/
theorem extraction_exact_of_special_characters :
    (∃ extract rest, phaseSteps .user tangledName .default "tester" = extract :: rest ∧
      commands extract.command.script = some (preparation ++ [unpacking tangledName])) ∧
    ∃ extract rest read, phaseSteps .root injectedName .default "tester" = extract :: rest ∧
      commands extract.command.script = some read ∧
        ∀ c ∈ read, ∀ w ∈ c, w.spelled? ≠ some (archivePath injectedName) := by
  -- The first name has blanks, dollars and the like but no quote. The second has one.
  constructor
  · obtain ⟨extract, rest, steps, -, exact, -⟩ :=
      extraction_exact .user tangledName .default "tester"
    exact ⟨extract, rest, steps, exact (by decide)⟩
  · obtain ⟨extract, rest, steps, -, -, other⟩ :=
      extraction_exact .root injectedName .default "tester"
    obtain ⟨rfl, rfl⟩ := List.cons.inj steps
    obtain ⟨read, isRead⟩ : ∃ read, commands (extractScript injectedName) = some read :=
      Option.isSome_iff_exists.mp (by decide +kernel)
    exact ⟨_, _, read, rfl, isRead, other (by decide) read isRead⟩

/-- An archive may be chosen whose name adds commands to the script: what is unpacked is another
archive, and then the command in the name is run. -/
theorem commands_of_injected_command :
    Directory.resolve ⟨"dist", .ok [⟨injectedName, false⟩]⟩ none .x86_64 .glibc
        = .ok ⟨"dist/" ++ injectedName, injectedName⟩ ∧
      commands (extractScript injectedName) = some (preparation ++
        [[bareWord "unzip", bareWord "-q", bareWord "-o", quotedWord "/artifacts/a"],
          [bareWord "reboot"], [quotedWord "-x86_64-linux.zip"]]) ∧
      ∀ before, commands (extractScript injectedName)
        ≠ some (before ++ [unpacking injectedName]) := by
  have read : commands (extractScript injectedName) = some (preparation ++
      [[bareWord "unzip", bareWord "-q", bareWord "-o", quotedWord "/artifacts/a"],
        [bareWord "reboot"], [quotedWord "-x86_64-linux.zip"]]) := by decide +kernel
  refine ⟨by decide +kernel, read, fun before same => ?_⟩
  rw [read, Option.some.injEq] at same
  -- The last command read has one word, and unpacking has several.
  have last : [quotedWord "-x86_64-linux.zip"] = unpacking injectedName :=
    Option.some.inj (by simpa using congrArg List.getLast? same)
  cases congrArg List.length last

end InstallMatrix.Install
