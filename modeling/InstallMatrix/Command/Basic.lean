import InstallMatrix.Catalog.Builtin
import InstallMatrix.Command.Host
import InstallMatrix.Config.Reader

/-!
# `InstallMatrix.Command.Basic`: how a command can end

A command ends with an exit status, or with an error that is shown to the user
and makes the program exit as one that could not do its work.

Definitions: `ExitStatus`, `CommandError`, `CommandResult`, `catalogOf`.
-/

set_option autoImplicit false

namespace InstallMatrix

/-- What the exit code of the program says. -/
inductive ExitStatus
  | success
  /-- At least one cell failed. -/
  | cellFailure
  /-- The program could not do its work. -/
  | unable
  /-- The run was interrupted. -/
  | interrupted
  deriving DecidableEq

/-- The exit code. -/
def ExitStatus.code : ExitStatus → Nat
  | .success => 0
  | .cellFailure => 1
  | .unable => 2
  | .interrupted => 130

/-- Why a command could not do its work. -/
inductive CommandError
  | config (e : ConfigError)
  | catalog (e : CatalogError)
  | gateway (e : GatewayError)
  | unknownRelease (distribution version : String)
  | unsupported (slug : String) (architecture : Architecture)
  | unwritable (path reason : String)
  | logFilter (filter : String)
  deriving DecidableEq

namespace CommandError

/-- The wording of an error. -/
def message : CommandError → String
  | .config e => e.message
  | .catalog e => e.message
  | .gateway e => e.message
  | .unknownRelease distribution version =>
    distribution ++ " " ++ version ++ " is not in the catalog (try `install-matrix list`)"
  | .unsupported slug architecture => slug ++ " does not support " ++ architecture.name
  | .unwritable path _ => "failed to write results file " ++ path
  | .logFilter filter => "invalid log filter '" ++ filter ++ "': not a list of directives"

/-- What led to an error, where its wording does not say so. -/
def causes : CommandError → List String
  | .unwritable _ reason => [reason]
  | _ => []

end CommandError

/-- How a command ends. -/
abbrev CommandResult := Except CommandError ExitStatus

/-- The catalog of a configuration. -/
def Configuration.catalog (c : Configuration) : Except CommandError Catalog :=
  (Catalog.withExtra c.releases).mapError .catalog

end InstallMatrix
