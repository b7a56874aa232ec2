import InstallMatrix.Config.Basic
import InstallMatrix.Data.Toml.Reader
import InstallMatrix.Engine.Gateway
import InstallMatrix.Text.Utf8

/-!
# `InstallMatrix.Config.Reader`: configuration files

A configuration file is a TOML document in UTF-8. A file that is no text counts
as one that cannot be read; a text that is no TOML document, or does not say what
a configuration says, is malformed.

Definitions: `ConfigError`, `Configuration.ofText`, `Configuration.ofFile`,
`EngineSettings.engineConfig`.
-/

set_option autoImplicit false

namespace InstallMatrix

/-- Why a configuration file is refused. -/
inductive ConfigError
  | unreadable (path reason : String)
  | malformed (path reason : String)
  deriving DecidableEq

namespace ConfigError

/-- The wording of a refusal. -/
def message : ConfigError → String
  | .unreadable path reason => "cannot read config file " ++ path ++ ": " ++ reason
  | .malformed path reason => "invalid config file " ++ path ++ ": " ++ reason

end ConfigError

namespace Configuration

/-- The configuration a text says, or what is wrong with the text. -/
def ofText (text : String) : Except String Configuration :=
  match Toml.read text with
  | none => .error "not a TOML document"
  | some d =>
    match ofData? .lenient d with
    | none => .error "a value is missing or not of the expected kind"
    | some c => .ok c

/-- The configuration of a file from what reading the file came to. -/
def ofFile (path : String) : Except String Text.Octets → Except ConfigError Configuration
  | .error reason => .error (.unreadable path reason)
  | .ok octets =>
    match Text.Utf8.decode octets with
    | .error _ => .error (.unreadable path "stream did not contain valid UTF-8")
    | .ok text =>
      match ofText text with
      | .error reason => .error (.malformed path reason)
      | .ok c => .ok c

end Configuration

/-- How the engine's program is called in a run with this id. -/
def EngineSettings.engineConfig (s : EngineSettings) (runId : String) : EngineConfig where
  binary := s.binary
  commandTimeout := s.commandTimeout * 1000
  execTimeout := s.execTimeout * 1000
  buildTimeout := s.buildTimeout * 1000
  logTailLines := 40
  runId := runId

end InstallMatrix
