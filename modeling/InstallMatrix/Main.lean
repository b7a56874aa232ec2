import InstallMatrix.Command.Dispatch

/-!
# `InstallMatrix.Main`: the program on a real machine

Answers the questions of the program with files, variables and streams of the
machine. Sockets and other programs are out of reach here, so to a run no engine
ever responds; `list` and `definition` need none.
-/

set_option autoImplicit false

namespace InstallMatrix.Machine

/-- The wording of an error of the file system. -/
def reasonOf : IO.Error → String
  | .noFileOrDirectory _ _ _ => "No such file or directory (os error 2)"
  | .permissionDenied _ _ _ => "Permission denied (os error 13)"
  | .inappropriateType _ _ _ => "Is a directory (os error 21)"
  | e => toString e

/-- The result of an action, or the wording of its error. -/
def attempt {α : Type} (action : IO α) : IO (Except String α) := do
  try return .ok (← action) catch e => return .error (reasonOf e)

/-- Is there a file at the path, readable or not. -/
def isFile (path : String) : IO Bool := do
  try
    let _ ← IO.FS.readBinFile path
    return true
  catch
    | .permissionDenied _ _ _ => return true
    | _ => return false

/-- What is said of programs that cannot be called. -/
def outOfReach : String := "programs cannot be called here"

/-- Answers a question about an engine's program, none of which can be called. -/
def answerEngine : (q : EngineQuestion) → EngineAnswer q
  | .invoke _ _ => .unstartable outOfReach
  | .writeContext _ => .error outOfReach
  | .suffix => "00000000"
  | .lock _ => 0
  | .hold _ => ()

/-- Answers a question of the program. -/
def answer : (q : HostQuestion) → IO (HostAnswer q)
  | .print p => do
    let stream ← match p.stream with
      | .results => IO.getStdout
      | .remarks => IO.getStderr
    stream.putStr p.text
    stream.flush
  | .variable name => IO.getEnv name
  | .isTerminal => do (← IO.getStdout).isTty
  | .isFile path => isFile path
  | .readFile path => do
    return (← attempt (IO.FS.readBinFile path)).map fun bytes => bytes.toList
  | .writeFile path contents => attempt (IO.FS.writeFile path contents)
  | .listDirectory _ => return .error outOfReach
  | .isThere _ => return false
  | .answersPing _ => return false
  | .clock => IO.monoNanosNow
  | .runId => return "00000000000000000000000000000000"
  | .engine q => return answerEngine q
  | .wasInterrupted => return false

end InstallMatrix.Machine

/-- Carries out what the words of the command line ask for. -/
def main (words : List String) : IO UInt32 := do
  let status ← (InstallMatrix.Command.program words).perform InstallMatrix.Machine.answer
  return status.code.toUInt32
