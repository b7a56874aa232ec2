import InstallMatrix.Proofs.Install.Extraction
import InstallMatrix.Proofs.Results.Summary

/-!
# `InstallMatrix.Proofs.Install.Home`: the home that the steps of a phase work in

Every step runs under the account of its identity, in the home of that account, and is told this
home as `HOME`. The environment configured for the privileged install comes on top, row by row, and
nothing keeps `HOME` out of it (`ownHome`, `get?_home_installCommand`).

The scripts depend on it: the extract step fills `$HOME/install-matrix`, and the install step goes
to a directory below `$HOME/install-matrix`. `Enters` reads off a script and its environment where
a command goes, and `home_exact` says of every configuration where the two steps go. They share a
home just if no other one is configured; `extract_and_install_apart` is a configuration for which
they do not.
-/

set_option autoImplicit false

namespace InstallMatrix

/-- Variables are set one after the other. -/
theorem ShellCommand.foldl_withEnv (c : ShellCommand) (rows : List (String × String)) :
    rows.foldl (fun c row => c.withEnv row.1 row.2) c
      = { c with env := rows.foldl (fun t row => t.insert row.1 row.2) c.env } := by
  induction rows generalizing c with
  | nil => rfl
  | cons row rows ih =>
    rw [List.foldl_cons, ih]
    rfl

namespace Install

open Shell

variable (i : Identity) (fileName : String) (installer : Installer) (testUser : String)

/-! ### The environment -/

/-- The home configured for the install of an identity, if there is one. -/
def ownHome : Option String := Table.find "HOME" (installEnv i installer)

/-- A command of an identity, before anything else is configured for it. -/
def plainCommand (script : String) : ShellCommand :=
  (ShellCommand.of script (account i testUser).1 (account i testUser).2).withEnv "HOME"
    (account i testUser).2

/-- The command of the install step. It is told what every command is told, and what is
configured. -/
def installCommand : ShellCommand :=
  { plainCommand i testUser (installScript i installer) with
    env := (installEnv i installer).foldl (fun t row => t.insert row.1 row.2)
      (plainCommand i testUser (installScript i installer)).env }

/-- A phase has three steps. Extracting and verifying get what every command of the identity is
told, and installing gets what is configured for it besides. -/
theorem phaseSteps_eq : phaseSteps i fileName installer testUser =
    [⟨"extract", plainCommand i testUser (extractScript fileName)⟩,
      ⟨"install", installCommand i installer testUser⟩,
      ⟨"verify", plainCommand i testUser (verifyScript installer)⟩] := by
  rw [installCommand, ← ShellCommand.foldl_withEnv]
  rfl

/-- Every command is told the home of the account it is run by, unless more is configured. -/
theorem get?_home_plainCommand (script : String) :
    (plainCommand i testUser script).env.get? "HOME" = some (account i testUser).2 := by
  rw [plainCommand, ShellCommand.withEnv, Table.get?_insert, if_pos rfl]

/-- The variables of an install come in the order of their names, each of them once. -/
theorem ordered_installEnv : (installEnv i installer).Pairwise fun p q => p.1 < q.1 := by
  cases i with
  | root => exact installer.rootEnv.ordered
  | user => exact .nil

/-- What is configured comes before what every command is told. So a home that is configured is
the one the install step gets. -/
theorem get?_home_installCommand : (installCommand i installer testUser).env.get? "HOME"
    = some ((ownHome i installer).getD (account i testUser).2) := by
  rw [installCommand, Table.get?_foldl_insert (ordered_installEnv i installer),
    get?_home_plainCommand, ownHome]
  cases Table.find "HOME" (installEnv i installer) <;> rfl

/-! ### Where the scripts go -/

/-- The script of a command begins with commands of which the last one goes to the directory, with
the variables the command is given. What the script does then, it does there. -/
def Enters (c : ShellCommand) (dir : String) : Prop :=
  ∃ before w, Opens c.script (before ++ [[bareWord "cd", w]]) ∧ w.text? c.env = some dir

/-- The word for the directory of the installer. -/
def bundleWord : Word :=
  .value "HOME" true :: quotedWord ("/" ++ workDir ++ "/" ++ installer.bundleDir)

/-- The script of the extract step begins by making its directory and going there. -/
theorem opens_extractScript : Opens (extractScript fileName) preparation := by
  have reads : Reader.start.run (extractScript fileName).toList
      = (quoteOpened.run ((archivePath fileName).toList ++ ['\''])).after startTokens := by
    rw [toList_extractScript, Reader.run_append, run_extractStart, Reader.run_after]
  rw [Opens, reads, Reader.after, startTokens, List.append_assoc]
  exact ⟨_, rfl⟩

/-- The directory of the installer stands between double quotes. -/
theorem run_installStart : Reader.start.run ("cd \"$HOME/" ++ workDir ++ "/").toList =
    ⟨[.word (bareWord "cd")], some (.value "HOME" true :: quotedWord ("/" ++ workDir ++ "/")),
      .double⟩ := by
  decide +kernel

/-- The quotes around a directory end, and another command follows. -/
theorem run_directoryEnd (ts : List Token) (w : Word) :
    (⟨ts, some w, .double⟩ : Reader).run "\" && ".toList
      = Reader.start.after (ts ++ [.word w, .operator "&&"]) := by
  have read : "\" && ".toList = ['"', ' ', '&', '&', ' '] := by decide
  rw [read, Reader.after, Reader.start, List.append_nil, List.append_cons]
  rfl

/-- The script of the install step begins by going to the directory of the installer. A directory
with a character that means something between double quotes is left out. -/
theorem opens_installScript
    (harmless : ∀ c ∈ installer.bundleDir.toList, meansBetweenQuotes c = false) :
    Opens (installScript i installer) [[bareWord "cd", bundleWord installer]] := by
  have parts : (installScript i installer).toList
      = ("cd \"$HOME/" ++ workDir ++ "/").toList ++ (installer.bundleDir.toList
        ++ ("\" && ".toList ++ ("./" ++ installer.script ++ " "
          ++ Text.joined " " (flags i installer)).toList)) := by
    simp [installScript]
  have word : .value "HOME" true :: quotedWord ("/" ++ workDir ++ "/")
      ++ installer.bundleDir.toList.map (.char · true) = bundleWord installer := by
    simp [bundleWord, quotedWord]
  rw [Opens, parts, Reader.run_append, run_installStart, Reader.run_append,
    Reader.run_double _ _ harmless, Reader.run_append, run_directoryEnd, Reader.run_after, word]
  exact ⟨_, rfl⟩

/-- So the archive is unpacked below the home of the account. -/
theorem enters_extractCommand : Enters (plainCommand i testUser (extractScript fileName))
    ((account i testUser).2 ++ "/" ++ workDir) := by
  refine ⟨preparation.dropLast, workWord, opens_extractScript fileName, ?_⟩
  rw [workWord, text?_value_cons, text?_quotedWord, get?_home_plainCommand]
  simp [String.append_assoc]

/-- The installer is run below the home it is told, be this the one of the account or one that was
configured. -/
theorem enters_installCommand
    (harmless : ∀ c ∈ installer.bundleDir.toList, meansBetweenQuotes c = false) :
    Enters (installCommand i installer testUser) ((ownHome i installer).getD (account i testUser).2
      ++ "/" ++ workDir ++ "/" ++ installer.bundleDir) := by
  refine ⟨[], bundleWord installer, opens_installScript i installer harmless, ?_⟩
  rw [bundleWord, text?_value_cons, text?_quotedWord, get?_home_installCommand]
  simp [String.append_assoc]

/-- **The steps of a phase share a home unless another one is configured.** Every step runs under
the account of its identity, in its home. The first and the last step are told this home, and the
extract step fills a directory below it. The install step is told the configured home instead, if
there is one, and goes below that. So all three are told the same just if no other home is
configured. -/
theorem home_exact :
    ∃ extract install verify, phaseSteps i fileName installer testUser
        = [⟨"extract", extract⟩, ⟨"install", install⟩, ⟨"verify", verify⟩] ∧
      (∀ c ∈ [extract, install, verify], c.user = (account i testUser).1 ∧
        c.workdir = (account i testUser).2) ∧
      extract.env.get? "HOME" = some (account i testUser).2 ∧
      verify.env.get? "HOME" = some (account i testUser).2 ∧
      install.env.get? "HOME" = some ((ownHome i installer).getD (account i testUser).2) ∧
      Enters extract ((account i testUser).2 ++ "/" ++ workDir) ∧
      ((∀ c ∈ installer.bundleDir.toList, meansBetweenQuotes c = false) →
        Enters install ((ownHome i installer).getD (account i testUser).2 ++ "/" ++ workDir ++ "/"
          ++ installer.bundleDir)) ∧
      ((∀ c ∈ [extract, install, verify], c.env.get? "HOME" = some (account i testUser).2) ↔
        ∀ own ∈ ownHome i installer, own = (account i testUser).2) := by
  have home (script : String) := get?_home_plainCommand i testUser script
  have installs := get?_home_installCommand i installer testUser
  refine ⟨_, _, _, phaseSteps_eq i fileName installer testUser, ?_, home _, home _, installs,
    enters_extractCommand i fileName testUser, enters_installCommand i installer testUser, ?_⟩
  · simp [plainCommand, installCommand, ShellCommand.of, ShellCommand.withEnv]
  · -- Only the step that installs takes the variables of the installer.
    simp only [List.forall_mem_cons, home, installs, Option.some.injEq, true_and]
    cases ownHome i installer <;> simp

/-- The directory that is configured unless another one is chosen. -/
theorem harmless_default :
    ∀ c ∈ Installer.default.bundleDir.toList, meansBetweenQuotes c = false := by
  have chars : Installer.default.bundleDir.toList = ['q'] := by decide
  rw [chars]
  exact List.forall_mem_singleton.mpr (by decide)

/-- The home of the privileged account may be configured, for it is no other one. -/
theorem home_exact_of_same_home :
    ∃ extract install verify, phaseSteps .root "q-x86_64-linux.zip"
        { Installer.default with rootEnv := .ofList [("A", "1"), ("HOME", "/root")] } "tester"
        = [⟨"extract", extract⟩, ⟨"install", install⟩, ⟨"verify", verify⟩] ∧
      Enters extract "/root/install-matrix" ∧ Enters install "/root/install-matrix/q" ∧
      ∀ c ∈ [extract, install, verify], c.env.get? "HOME" = some "/root" := by
  obtain ⟨extract, install, verify, steps, -, -, -, -, fills, goes, shared⟩ :=
    home_exact .root "q-x86_64-linux.zip"
      { Installer.default with rootEnv := .ofList [("A", "1"), ("HOME", "/root")] } "tester"
  exact ⟨extract, install, verify, steps, fills, goes harmless_default,
    shared.mpr (by decide +kernel)⟩

/-- With another home configured for the privileged install, the archive is unpacked below the one
and the installer is looked for below the other. -/
theorem extract_and_install_apart :
    ∃ extract install verify, phaseSteps .root "q-x86_64-linux.zip"
        { Installer.default with rootEnv := .ofList [("HOME", "/opt")] } "tester"
        = [⟨"extract", extract⟩, ⟨"install", install⟩, ⟨"verify", verify⟩] ∧
      extract.env.get? "HOME" = some "/root" ∧ install.env.get? "HOME" = some "/opt" ∧
      Enters extract "/root/install-matrix" ∧ Enters install "/opt/install-matrix/q" :=
  ⟨_, _, _, phaseSteps_eq _ _ _ _, get?_home_plainCommand .root "tester" _,
    get?_home_installCommand .root _ "tester", enters_extractCommand .root _ "tester",
    enters_installCommand .root _ "tester" harmless_default⟩

end Install

end InstallMatrix
