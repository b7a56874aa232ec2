import InstallMatrix.CommandLine.Words

/-!
# `InstallMatrix.CommandLine.Reader`: command lines as requests

The options every command has may stand before and after the name of the command.
Where both places give a value the later one counts, and a word of the command
line counts more than a variable of the environment, which counts more than the
value used when nothing is said.

Definitions: `Level` values for every command, `settle`, `read`.
-/

set_option autoImplicit false

namespace InstallMatrix.CommandLine

/-! ### Values -/

/-- Is this a path: any text but the empty one. -/
def isPath (s : String) : Bool := s != ""

/-- A count in digits, an optional plus sign before them, below 2⁶⁴. -/
def count? (s : String) : Option Nat :=
  let ds := match s.toList with
    | '+' :: ds => ds
    | ds => ds
  if ds.isEmpty then none
  else do
    let n := Text.ofDigitValues 10 (← ds.mapM (Text.digitValue? 10))
    if n < Nat.pow 2 64 then some n else none

/-- The output format of a name. -/
def format? (s : String) : Option OutputFormat :=
  if s = "table" then some .table else if s = "json" then some .json else none

/-! ### What may be said -/

/-- The options every command has. -/
def globalOptions : List OptionSpec :=
  [ ⟨"config", .single, isPath⟩, ⟨"log-level", .single, fun _ => true⟩,
    ⟨"log-json", .flag, fun _ => true⟩ ]

/-- The options that narrow the matrix. -/
def filterOptions : List OptionSpec :=
  [ ⟨"distro", .several, fun _ => true⟩, ⟨"version", .several, fun _ => true⟩,
    ⟨"arch", .several, fun s => (Architecture.read s).toBool⟩,
    ⟨"libc", .several, fun s => (Libc.read s).toBool⟩,
    ⟨"identity", .single, fun s => (IdentityChoice.read s).toBool⟩ ]

/-- The option for the output format. -/
def formatOption : OptionSpec := ⟨"format", .single, fun s => (format? s).isSome⟩

/-- The options of a command. -/
def optionsOf : CommandName → List OptionSpec
  | .run =>
    filterOptions ++ [⟨"artifacts", .single, isPath⟩, ⟨"keep-containers", .flag, fun _ => true⟩,
      ⟨"parallel", .single, fun s => (count? s).isSome⟩, formatOption,
      ⟨"results-file", .single, isPath⟩]
  | .list => filterOptions ++ [formatOption]
  | .definition =>
    [ ⟨"distro", .single, fun _ => true⟩, ⟨"version", .single, fun _ => true⟩,
      ⟨"arch", .single, fun s => (Architecture.read s).toBool⟩, formatOption ]

/-- What may be said before the name of the command. -/
def rootLevel : Level := ⟨none, globalOptions⟩

/-- What may be said after the name of a command. -/
def commandLevel (c : CommandName) : Level := ⟨some c, optionsOf c ++ globalOptions⟩

/-! ### Options every command has -/

/-- What the environment says about the options every command has. -/
structure Defaults where
  config : Option String
  logLevel : Option String
  deriving DecidableEq

/-- Where the value of an option comes from, the least first. -/
inductive Origin
  | nowhere
  | environment
  | words
  deriving DecidableEq

/-- The rank of an origin. -/
def Origin.rank : Origin → Nat
  | .nowhere => 0
  | .environment => 1
  | .words => 2

/-- The value of an option at one place of the command line. -/
def valueAt (seen : Occurrences) (name : String) (fromEnvironment : Option String) :
    Origin × Option String :=
  match seen.value? name, fromEnvironment with
  | some v, _ => (.words, some v)
  | none, some v => (.environment, some v)
  | none, none => (.nowhere, none)

/-- The one of two values that counts. -/
def settle (outer inner : Origin × Option String) : Option String :=
  if outer.1.rank > inner.1.rank then outer.2 else inner.2

/-- The options every command has, from both places where they may stand. -/
def globalOf (defaults : Defaults) (outer inner : Occurrences) : GlobalOptions where
  config := settle (valueAt outer "config" defaults.config) (valueAt inner "config" defaults.config)
  logLevel :=
    (settle (valueAt outer "log-level" defaults.logLevel)
      (valueAt inner "log-level" defaults.logLevel)).getD "info"
  logJson := outer.has "log-json" || inner.has "log-json"

/-- Does a place use a variable of the environment that is no path. -/
def usesBadVariable (defaults : Defaults) (seen : Occurrences) : Bool :=
  !seen.has "config" && match defaults.config with
    | some path => !isPath path
    | none => false

/-! ### Options of the commands -/

/-- The narrowing of the matrix that options ask for. -/
def filterOf (o : Occurrences) : CellFilter where
  distributions := o.values "distro"
  versions := o.values "version"
  architectures := (o.values "arch").filterMap fun s => (Architecture.read s).toOption
  libcs := (o.values "libc").filterMap fun s => (Libc.read s).toOption
  identities := ((o.value? "identity").bind fun s => (IdentityChoice.read s).toOption).getD .both

/-- The output format that options ask for. -/
def formatOf (o : Occurrences) : OutputFormat := ((o.value? "format").bind format?).getD .table

/-- A command with its options, if none that it needs is missing. -/
def commandOf (o : Occurrences) : CommandName → Except Halt CommandOptions
  | .run =>
    .ok (.run
      { filter := filterOf o
        artifacts := o.value? "artifacts"
        keepContainers := o.has "keep-containers"
        parallel := (o.value? "parallel").bind count?
        format := formatOf o
        resultsFile := o.value? "results-file" })
  | .list => .ok (.list ⟨filterOf o, formatOf o⟩)
  | .definition =>
    match o.value? "distro", o.value? "version" with
    | some distribution, some version =>
      let architecture := (o.value? "arch").bind fun s => (Architecture.read s).toOption
      .ok (.definition ⟨distribution, version, architecture.getD .x86_64, formatOf o⟩)
    | _, _ => .error (.misuse "the options '--distro' and '--version' are required")

/-! ### The whole command line -/

/-- What the words after `help` ask for. -/
def helpOn : List String → Halt
  | [] => .help none
  | [word] =>
    if word = "help" then .helpOnHelp
    else
      match CommandName.ofName? word with
      | some c => .help (some c)
      | none => .misuse ("unrecognized subcommand '" ++ word ++ "'")
  | _ :: word :: _ => .misuse ("unrecognized subcommand '" ++ word ++ "'")

/-- The refusal of an environment that names no path. -/
def badVariable : Halt := .misuse "a value is required for '--config' but none was supplied"

/-- What the words of a command line, after the name of the program, ask for. -/
def read (defaults : Defaults) (words : List String) : Except Halt Request := do
  match ← readWords rootLevel words [] with
  | (_, none) => .error (.misuse "a subcommand is required")
  | (outer, some (word, rest)) =>
    if word = "help" then .error (helpOn rest)
    else
      match CommandName.ofName? word with
      | none => .error (.misuse ("unrecognized subcommand '" ++ word ++ "'"))
      | some c =>
        let (inner, _) ← readWords (commandLevel c) rest []
        -- A bad variable is reported before options of the command that are missing.
        if usesBadVariable defaults inner then .error badVariable
        else
          let command ← commandOf inner c
          if usesBadVariable defaults outer then .error badVariable
          else .ok ⟨globalOf defaults outer inner, command⟩

end InstallMatrix.CommandLine
