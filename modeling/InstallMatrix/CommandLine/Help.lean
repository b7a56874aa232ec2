import InstallMatrix.CommandLine.Reader
import InstallMatrix.Terminal.Style

/-!
# `InstallMatrix.CommandLine.Help`: what the program says about itself

Help on a command shows its options together with those every command has, and
the variables of the environment that stand for some of them. Descriptions begin
in one column, two behind the longest option, and whatever follows a line feed in
a description begins in that column too. What is to be typed as it stands is bold
and headings are underlined as well.

Definitions: `versionText`, `helpText`, `helpOnHelpText`, `misuseText`.
-/

set_option autoImplicit false

namespace InstallMatrix.CommandLine

/-- The version of the program. -/
def versionText : String := "install-matrix 0.1.0\n"

/-- Lines with a line feed after each. -/
def block (lines : List String) : String := Text.joined "" (lines.map fun l => l ++ "\n")

/-! ### Looks -/

/-- A text between the sequences that begin each emphasis and the one that ends
them all. -/
def marked (marks : List Terminal.Emphasis) (s : String) : String :=
  Text.joined "" (marks.map fun m => Terminal.beginning [m]) ++ s ++ Terminal.reset

/-- A heading. -/
def heading (s : String) : String := marked [.bold, .underlined] s

/-- A text that is typed as it stands. -/
def literal (s : String) : String := marked [.bold] s

/-- That many spaces. -/
def spaces (n : Nat) : String := Text.repeated n " "

/-- A text whose lines behind the first begin in a column. -/
def indented (column : Nat) (s : String) : String :=
  Text.joined ("\n" ++ spaces column) (Text.split '\n' s)

/-! ### Layout -/

/-- An option as help shows it. -/
structure HelpEntry where
  /-- The letter that stands for the option. -/
  letter : Option Char
  flag : String
  /-- What stands for the value of the option. -/
  value : Option String
  description : String
  deriving DecidableEq

namespace HelpEntry

/-- An option without a value and without a letter. -/
def switch (flag description : String) : HelpEntry := ⟨none, flag, none, description⟩

/-- An option with a value. -/
def setting (flag value description : String) : HelpEntry := ⟨none, flag, some value, description⟩

/-- The value behind the flag. -/
def valueText (e : HelpEntry) : String :=
  match e.value with
  | some v => " <" ++ v ++ ">"
  | none => ""

/-- The columns of an option behind the letter. -/
def width (e : HelpEntry) : Nat := (e.flag ++ e.valueText).length

/-- The letter of an option, or room for one. -/
def letterText (e : HelpEntry) : String :=
  match e.letter with
  | some c => literal ("-" ++ String.singleton c) ++ ", "
  | none => spaces 4

/-- An option with its description beside it, in an area of `n` columns. -/
def text (n : Nat) (e : HelpEntry) : String :=
  "  " ++ e.letterText ++ literal e.flag ++ e.valueText ++ spaces (n + 2 - e.width)
    ++ indented (n + 8) e.description

end HelpEntry

/-- The columns of the longest option. -/
def longest (entries : List HelpEntry) : Nat :=
  entries.foldl (fun n e => max n e.width) 0

/-- Options with their descriptions. -/
def entryLines (entries : List HelpEntry) : List String :=
  entries.map (HelpEntry.text (longest entries))

/-! ### Options -/

/-- The note that a variable stands for an option, with its value. -/
def variableNote (name : String) (value : Option String) : String :=
  " [env: " ++ name ++ "=" ++ value.getD "" ++ "]"

/-- The note on the value an option has when it is not given. -/
def defaultNote (value : String) : String := " [default: " ++ value ++ "]"

/-- The option for the configuration file. -/
def configEntry (d : Defaults) : HelpEntry :=
  .setting "--config" "CONFIG"
    ("Configuration file (default: $XDG_CONFIG_HOME/install-matrix/config.toml)"
      ++ variableNote "INSTALL_MATRIX_CONFIG" d.config)

/-- The option for the log filter. -/
def logLevelEntry (d : Defaults) : HelpEntry :=
  .setting "--log-level" "LOG_LEVEL"
    ("Log filter, e.g. `info` or `install_orchestrator=debug`"
      ++ variableNote "INSTALL_MATRIX_LOG" d.logLevel ++ defaultNote "info")

/-- The option for log lines in JSON. -/
def logJsonEntry : HelpEntry := .switch "--log-json" "Emit logs as JSON lines"

/-- The option that asks for help. -/
def helpEntry : HelpEntry := ⟨some 'h', "--help", none, "Print help"⟩

/-- The option that asks for the version. -/
def versionEntry : HelpEntry := ⟨some 'V', "--version", none, "Print version"⟩

/-- The option for the output format. -/
def formatEntry (description : String) : HelpEntry :=
  .setting "--format" "FORMAT"
    (description ++ defaultNote "table" ++ " [possible values: table, json]")

/-- The options that narrow the matrix, with the one for the configuration file
behind the first three. -/
def filterEntries (d : Defaults) : List HelpEntry :=
  [ .setting "--distro" "DISTRIBUTIONS" "Distribution name, e.g. ubuntu",
    .setting "--version" "VERSIONS" "Distribution version, e.g. 22.04",
    .setting "--arch" "ARCHITECTURES" "Architecture: x86_64 or aarch64",
    configEntry d,
    .setting "--libc" "LIBC_VARIANTS" "libc variant: glibc or musl",
    .setting "--identity" "IDENTITY"
      ("Identities to test: root, user or both" ++ defaultNote "both"),
    logLevelEntry d ]

/-- The options of a command. -/
def entriesOf (d : Defaults) : CommandName → List HelpEntry
  | .run =>
    filterEntries d
      ++ [ .setting "--artifacts" "ARTIFACTS" "Directory holding the archives under test",
           logJsonEntry,
           .switch "--keep-containers" "Keep containers after the run for inspection",
           .setting "--parallel" "PARALLEL" "Cells to run at once",
           formatEntry "Report format",
           .setting "--results-file" "RESULTS_FILE"
             "Also write the results as JSON to this file",
           helpEntry ]
  | .list => filterEntries d ++ [formatEntry "Output format", logJsonEntry, helpEntry]
  | .definition =>
    [ .setting "--distro" "DISTRIBUTION" "Distribution name",
      .setting "--version" "VERSION" "Distribution version",
      .setting "--arch" "ARCH" ("Target architecture" ++ defaultNote "x86_64"),
      configEntry d,
      formatEntry "Output format",
      logLevelEntry d,
      logJsonEntry,
      helpEntry ]

/-! ### Help -/

/-- What a command is for. -/
def purpose : CommandName → String
  | .run => "Run the matrix"
  | .list => "List the cells a filter selects without running anything"
  | .definition => "Print the generated container definition for one release"

/-- A line that shows how the program is called, with the words behind the name of
a command. -/
def usageLine (name arguments : String) : String :=
  heading "Usage:" ++ " " ++ literal name ++ " " ++ arguments

/-- How a command is called. -/
def usage (c : CommandName) : String :=
  usageLine ("install-matrix " ++ c.name)
    (match c with
    | .run => "[OPTIONS]"
    | .list => "[OPTIONS]"
    | .definition =>
      "[OPTIONS] " ++ literal "--distro" ++ " <DISTRIBUTION> " ++ literal "--version"
        ++ " <VERSION>")

/-- What help itself is for. -/
def helpPurpose : String := "Print this message or the help of the given subcommand(s)"

/-- The commands with what they are for. -/
def commandLines : List String :=
  let rows := (CommandName.all.map fun c => (c.name, purpose c)) ++ [("help", helpPurpose)]
  rows.map fun r => "  " ++ literal r.1 ++ spaces (12 - r.1.length) ++ r.2

/-- The help on the program or on a command. -/
def helpText (d : Defaults) : Option CommandName → String
  | none =>
    block
      ([ "Test an installer archive inside containers for many distributions", "",
         usageLine "install-matrix" "[OPTIONS] <COMMAND>", "", heading "Commands:" ]
        ++ commandLines ++ ["", heading "Options:"]
        ++ entryLines [configEntry d, logLevelEntry d, logJsonEntry, helpEntry, versionEntry])
  | some c =>
    block ([purpose c, "", usage c, "", heading "Options:"] ++ entryLines (entriesOf d c))

/-- The help on asking for help. -/
def helpOnHelpText : String :=
  block [helpPurpose, "", usageLine "install-matrix help" "[COMMAND]...", "",
    heading "Arguments:", "  [COMMAND]...  Print help for the subcommand(s)"]

/-- What is said about a command line that is not understood. -/
def misuseText (reason : String) : String :=
  block ["error: " ++ reason, "", "Usage: install-matrix [OPTIONS] <COMMAND>", "",
    "For more information, try '--help'."]

end InstallMatrix.CommandLine
