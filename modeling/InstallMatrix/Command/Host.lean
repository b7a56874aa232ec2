import InstallMatrix.Archive.Directory
import InstallMatrix.Engine.Gateway
import InstallMatrix.Terminal.Printout

/-!
# `InstallMatrix.Command.Host`: what the program asks of the machine it runs on

The commands are programs over `HostQuestion`: files, sockets, variables of the
environment, the clock, what is printed, and the engine's program. Whoever
answers the questions carries a command out.

Definitions: `HostQuestion`, `HostAnswer`, `HostProgram`, one function per
question, and the directories the environment tells.
-/

set_option autoImplicit false

namespace InstallMatrix

/-- What the program asks. -/
inductive HostQuestion
  | print (p : Printed)
  /-- The value of a variable of the environment. -/
  | variable (name : String)
  /-- Is standard output shown on a terminal. -/
  | isTerminal
  /-- Is there a file that is no directory. -/
  | isFile (path : String)
  | readFile (path : String)
  | writeFile (path contents : String)
  | listDirectory (path : String)
  /-- Is there anything at the path. -/
  | isThere (path : String)
  /-- Does an engine answer at the socket. -/
  | answersPing (socket : String)
  /-- Nanoseconds since the beginning of 1970. -/
  | clock
  /-- A new id for a run. -/
  | runId
  | engine (q : EngineQuestion)
  /-- Was the program asked to stop while the last question was open. -/
  | wasInterrupted

/-- The answers to each question. -/
@[reducible]
def HostAnswer : HostQuestion → Type
  | .print _ => Unit
  | .variable _ => Option String
  | .isTerminal => Bool
  | .isFile _ => Bool
  | .readFile _ => Except String Text.Octets
  | .writeFile _ _ => Except String Unit
  | .listDirectory _ => Except String (List DirectoryEntry)
  | .isThere _ => Bool
  | .answersPing _ => Bool
  | .clock => Nat
  | .runId => String
  | .engine q => EngineAnswer q
  | .wasInterrupted => Bool

/-- A computation that uses the machine. -/
abbrev HostProgram (α : Type) : Type := Program HostAnswer α

namespace Host

/-- Prints texts one after the other. -/
def print : Printout → HostProgram Unit
  | [] => pure ()
  | p :: rest => do
    Program.question (HostQuestion.print p)
    print rest

/-- The value of a variable of the environment. -/
def getVariable (name : String) : HostProgram (Option String) :=
  Program.question (HostQuestion.variable name)

/-- Carries out a program that drives an engine. -/
def driveEngine {α : Type} (p : EngineProgram α) : HostProgram α :=
  Program.perform (fun q => Program.question (HostQuestion.engine q)) p

/-- The value of a variable, if it is an absolute path. -/
def absolutePath (name : String) : HostProgram (Option String) := do
  return (← getVariable name).filter Path.isAbsolute

/-- The directory of the user, if the environment tells. -/
def homeDirectory : HostProgram (Option String) := do
  return (← getVariable "HOME").filter fun dir => dir != ""

/-- The directory of configuration files. -/
def configDirectory : HostProgram (Option String) := do
  match ← absolutePath "XDG_CONFIG_HOME" with
  | some dir => return some dir
  | none => return (← homeDirectory).map fun home => Path.join home ".config"

/-- The directory of sockets and the like that last as long as the session. -/
def runtimeDirectory : HostProgram (Option String) := absolutePath "XDG_RUNTIME_DIR"

/-- Are colours shown. A user who forces or refuses colour is heard first, the
terminal decides otherwise. -/
def showsColour : HostProgram Bool := do
  let wished := fun (v : Option String) => v.map fun s => s != "0"
  let forced ← getVariable "CLICOLOR_FORCE"
  let refused ← getVariable "NO_COLOR"
  if wished forced = some true then return true
  else if refused.isSome then return false
  else
    let allowed ← getVariable "CLICOLOR"
    let terminal ← Program.question HostQuestion.isTerminal
    return (wished allowed).getD true && terminal

/-- Is a variable of the environment there and not empty. -/
def isFilled (name : String) : HostProgram Bool := do
  return (← getVariable name).any fun s => s != ""

/-- Does the terminal understand escape sequences, by its name. -/
def hasCapableTerminal : HostProgram Bool := do
  return (← getVariable "TERM").any fun s => s != "dumb"

/-- Are the looks of help shown. A user who refuses colour is heard before one who
forces it, and only then does it count what reads the text. -/
def stylesHelp : HostProgram Bool := do
  if ← isFilled "NO_COLOR" then return false
  else if ← isFilled "CLICOLOR_FORCE" then return true
  else
    let allowed := (← getVariable "CLICOLOR").map fun s => s != "0"
    if allowed = some false then return false
    else if ← Program.question HostQuestion.isTerminal then
      let capable ← hasCapableTerminal
      let building ← getVariable "CI"
      return capable || allowed = some true || building.isSome
    else return false

end Host

end InstallMatrix
