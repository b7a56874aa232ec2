import InstallMatrix.Command.Inspect
import InstallMatrix.Command.Run
import InstallMatrix.CommandLine.Help
import InstallMatrix.Logging.Filter
import InstallMatrix.Terminal.Escape

/-!
# `InstallMatrix.Command.Dispatch`: the whole program

Reads the command line, checks the log filter, reads the configuration and
carries the command out. Errors are shown as one line and make the program exit
with the status of one that could not do its work.

Definitions: `loadConfiguration`, `carryOutCommand`, `program`.
-/

set_option autoImplicit false

namespace InstallMatrix.Command

open Terminal

/-- The configuration of a file. -/
def readConfiguration (path : String) : HostProgram (Except CommandError Configuration) := do
  return (Configuration.ofFile path (← Program.question (HostQuestion.readFile path))).mapError
    .config

/-- Where the configuration is if nobody says so. -/
def usualConfigFile : HostProgram (Option String) := do
  return (← Host.configDirectory).map fun dir =>
    Path.join (Path.join dir "install-matrix") "config.toml"

/-- The configuration of the given file, or of the usual one if it is there. -/
def loadConfiguration : Option String → HostProgram (Except CommandError Configuration)
  | some path => readConfiguration path
  | none => do
    match ← usualConfigFile with
    | none => return .ok .default
    | some path =>
      if ← Program.question (HostQuestion.isFile path) then readConfiguration path
      else return .ok .default

/-- Prints what a command that only looks has found. -/
def shown : Except CommandError Printout → HostProgram CommandResult
  | .error e => pure (.error e)
  | .ok p => do
    Host.print p
    return .ok .success

/-- Carries a command out. -/
def carryOutCommand (colour : Bool) (c : Configuration) :
    CommandOptions → HostProgram CommandResult
  | .run o => run colour c o
  | .list o => shown (listing colour c o)
  | .definition o => shown (definition colour c o)

/-- Carries out what a command line asks for. -/
def carryOutRequest (colour : Bool) (r : Request) : HostProgram CommandResult := do
  let log := LogSettings.of r.global.logLevel r.global.logJson
  let filter ← Host.getVariable "RUST_LOG"
  if log.isUsable filter then
    match ← loadConfiguration r.global.config with
    | .ok c => carryOutCommand colour c r.command
    | .error e => return .error e
  else return .error (.logFilter log.level)

/-- Prints a help text, without its looks where they are not shown. -/
def printHelp (text : String) : HostProgram ExitStatus := do
  let styled ← Host.stylesHelp
  Host.print [⟨.results, if styled then text else withoutEscapes text⟩]
  return .success

/-- Prints what is said when there is no command to carry out. -/
def stopped (defaults : CommandLine.Defaults) : Halt → HostProgram ExitStatus
  | .help topic => printHelp (CommandLine.helpText defaults topic)
  | .helpOnHelp => printHelp CommandLine.helpOnHelpText
  | .version => do
    Host.print [⟨.results, CommandLine.versionText⟩]
    return .success
  | .misuse reason => do
    Host.print [⟨.remarks, CommandLine.misuseText reason⟩]
    return .unable

/-- What the environment says about the options every command has. -/
def optionDefaults : HostProgram CommandLine.Defaults := do
  let config ← Host.getVariable "INSTALL_MATRIX_CONFIG"
  let logLevel ← Host.getVariable "INSTALL_MATRIX_LOG"
  return ⟨config, logLevel⟩

/-- The program, given the words of its command line. -/
def program (words : List String) : HostProgram ExitStatus := do
  let defaults ← optionDefaults
  match CommandLine.read defaults words with
  | .error halt => stopped defaults halt
  | .ok request =>
    let colour ← Host.showsColour
    match ← carryOutRequest colour request with
    | .ok status => return status
    | .error e =>
      Host.print [complaint colour e.message]
      return .unable

end InstallMatrix.Command
