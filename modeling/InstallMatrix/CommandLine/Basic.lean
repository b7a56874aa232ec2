import InstallMatrix.Catalog.Basic
import InstallMatrix.Terminal.Printout

/-!
# `InstallMatrix.CommandLine.Basic`: what can be asked for on the command line

A command line names one of three commands, with options for the command and
options every command has. Instead of a command it may ask for help or for the
version of the program.

Definitions: `GlobalOptions`, `RunOptions`, `ListOptions`, `DefinitionOptions`,
`CommandOptions`, `Request`, `Halt`.
-/

set_option autoImplicit false

namespace InstallMatrix

/-- The commands of the program. -/
inductive CommandName
  | run
  | list
  | definition
  deriving DecidableEq

namespace CommandName

/-- Every command. -/
def all : List CommandName := [.run, .list, .definition]

/-- The name of a command. -/
def name : CommandName → String
  | .run => "run"
  | .list => "list"
  | .definition => "definition"

/-- The command with a name. -/
def ofName? (s : String) : Option CommandName := all.find? fun c => c.name == s

end CommandName

/-- The options of every command. -/
structure GlobalOptions where
  /-- The configuration file to read instead of the usual one. -/
  config : Option String
  /-- The log filter. -/
  logLevel : String
  /-- Write log lines as JSON. -/
  logJson : Bool
  deriving DecidableEq

/-- The options of `run`. -/
structure RunOptions where
  filter : CellFilter
  /-- The directory of the archives. -/
  artifacts : Option String
  /-- Leave containers running. -/
  keepContainers : Bool
  /-- Cells to run at once. -/
  parallel : Option Nat
  format : OutputFormat
  /-- A file to write the results to as well. -/
  resultsFile : Option String
  deriving DecidableEq

/-- The options of `list`. -/
structure ListOptions where
  filter : CellFilter
  format : OutputFormat
  deriving DecidableEq

/-- The options of `definition`. -/
structure DefinitionOptions where
  distribution : String
  version : String
  architecture : Architecture
  format : OutputFormat
  deriving DecidableEq

/-- A command with its options. -/
inductive CommandOptions
  | run (options : RunOptions)
  | list (options : ListOptions)
  | definition (options : DefinitionOptions)
  deriving DecidableEq

/-- What a command line asks for. -/
structure Request where
  global : GlobalOptions
  command : CommandOptions
  deriving DecidableEq

/-- Why there is no command to carry out. -/
inductive Halt
  /-- Help on the program or on a command was asked for. -/
  | help (topic : Option CommandName)
  /-- Help on asking for help was asked for. -/
  | helpOnHelp
  /-- The version of the program was asked for. -/
  | version
  /-- The command line is not understood. -/
  | misuse (reason : String)
  deriving DecidableEq

end InstallMatrix
