import InstallMatrix.Catalog.Builtin
import InstallMatrix.Codec.Environment
import InstallMatrix.Codec.Matrix
import InstallMatrix.Logging.Filter

/-!
# `InstallMatrix.Config.Basic`: what a configuration file says

A `Configuration` holds the settings of a run, the engine settings and further
releases for the catalog. Every part may be left out of a file.

Definitions: `EngineSettings`, `Configuration`, and their readers and writers.
-/

set_option autoImplicit false

namespace InstallMatrix

open Schema

/-- How the engine's command is called. -/
structure EngineSettings where
  /-- The program to call instead of the engine's own. -/
  binary : Option String
  /-- Seconds a short command may take. -/
  commandTimeout : Nat
  /-- Seconds one command inside a container may take. -/
  execTimeout : Nat
  /-- Seconds an image build may take. -/
  buildTimeout : Nat
  deriving DecidableEq

namespace EngineSettings

/-- The engine settings used without configuration. -/
def default : EngineSettings := ⟨none, 60, 300, 1800⟩

/-- Engine settings as their fields. -/
def toData (s : EngineSettings) : Data :=
  .record
    [ ("binary", ofOption .text s.binary),
      ("command_timeout_secs", .nat s.commandTimeout),
      ("exec_timeout_secs", .nat s.execTimeout),
      ("build_timeout_secs", .nat s.buildTimeout) ]

/-- Reads engine settings; what is left out is as without configuration. -/
def ofData? : Reader EngineSettings := fun how d => do
  let fs ← fieldsOf
    ["binary", "command_timeout_secs", "exec_timeout_secs", "build_timeout_secs"] how d
  return {
    binary := ← fs.optional "binary" text
    commandTimeout := ← fs.defaulted "command_timeout_secs" nat64 default.commandTimeout
    execTimeout := ← fs.defaulted "exec_timeout_secs" nat64 default.execTimeout
    buildTimeout := ← fs.defaulted "build_timeout_secs" nat64 default.buildTimeout }

end EngineSettings

/-- What a configuration file says. -/
structure Configuration where
  run : RunSettings
  engine : EngineSettings
  /-- Releases added to the built-in ones. -/
  releases : List Release
  deriving DecidableEq

namespace Configuration

/-- The configuration used without a file. -/
def default : Configuration := ⟨.default, .default, []⟩

/-- A configuration as its fields. -/
def toData (c : Configuration) : Data :=
  .record
    [ ("orchestrator", c.run.toData),
      ("engine", c.engine.toData),
      ("distribution", .list (c.releases.map Release.toData)) ]

/-- Reads a configuration; what is left out is as without a file. -/
def ofData? : Reader Configuration := fun how d => do
  let fs ← fieldsOf ["orchestrator", "engine", "distribution"] how d
  return ⟨← fs.defaulted "orchestrator" RunSettings.ofData? default.run,
    ← fs.defaulted "engine" EngineSettings.ofData? default.engine,
    ← fs.defaulted "distribution" (list Release.ofData?) []⟩

end Configuration

/-! ### Log settings -/

namespace LogSettings

/-- Log settings as their fields. -/
def toData (s : LogSettings) : Data :=
  .record
    [ ("level", .text s.level), ("format", .text s.format.name),
      ("with_target", .bool s.withTarget) ]

/-- Reads log settings; every field may be left out. -/
def ofData? : Reader LogSettings := fun how d => do
  let fs ← fieldsOf ["level", "format", "with_target"] how d
  return ⟨← fs.defaulted "level" text default.level,
    ← fs.defaulted "format" (word (named Logging.LogFormat.all Logging.LogFormat.name))
      default.format,
    ← fs.defaulted "with_target" bool default.withTarget⟩

end LogSettings

end InstallMatrix
