import InstallMatrix.Command.FileTree
import InstallMatrix.Command.Host
import InstallMatrix.Engine.Scripted

/-!
# `InstallMatrix.Command.Scripted`: a machine kept in memory

A stand-in for the machine a command runs on: files, directories and sockets are
kept in a tree, an engine follows a script, and what is printed is collected. Its
clock stands still.

Definitions: `ScriptedMachine`, `ScriptedMachine.engineHost`,
`ScriptedMachine.answer`.
-/

set_option autoImplicit false

namespace InstallMatrix

/-- A machine with all that a command can ask of it. -/
structure ScriptedMachine where
  /-- Where paths begin that are not absolute. -/
  here : FileTree.Place
  tree : FileTree
  environment : List (String × String)
  /-- The program of the scripted engine; no other can be started. -/
  engineProgram : String
  /-- Where build contexts are written. -/
  contextDir : String
  /-- The end of every container name. -/
  suffix : String
  engine : ScriptedEngine
  /-- The id of every run. -/
  runId : String
  /-- What was printed so far. -/
  printed : Printout

namespace ScriptedMachine

/-- The surroundings of the engine. -/
def engineHost (m : ScriptedMachine) : ScriptedEngine.Host where
  unstartable program :=
    if program = m.engineProgram then none else some (m.tree.whyUnstartable m.here program)
  contextDir := m.contextDir
  suffix := m.suffix

/-- Is there a file at the path. -/
def isFile (m : ScriptedMachine) (path : String) : Bool :=
  match m.tree.find m.here path with
  | .ok (_, .file _) => true
  | _ => false

/-- The most octets the path of a socket may have. -/
def socketPathLimit : Nat := 107

/-- Does an engine answer at the socket with this path. -/
def answersPing (m : ScriptedMachine) (path : String) : Bool :=
  (Text.Utf8.encode path).length ≤ socketPathLimit
    && match m.tree.find m.here path with
      | .ok (_, .socket answers) => answers
      | _ => false

/-- Answers a question of a command. -/
def answer (q : HostQuestion) (m : ScriptedMachine) : HostAnswer q × ScriptedMachine :=
  match q with
  | .print p => ((), { m with printed := m.printed ++ [p] })
  | .variable name => ((m.environment.find? fun v => v.1 == name).map Prod.snd, m)
  | .isTerminal => (false, m)
  | .isFile path => (m.isFile path, m)
  | .readFile path => (m.tree.read m.here path, m)
  | .writeFile path contents =>
    let (done, tree) := m.tree.write m.here path contents
    (done, { m with tree })
  | .listDirectory path => (m.tree.list m.here path, m)
  | .isThere path => ((m.tree.find m.here path).isOk, m)
  | .answersPing path => (m.answersPing path, m)
  | .clock => (0, m)
  | .runId => (m.runId, m)
  | .engine q =>
    let (a, engine) := ScriptedEngine.answer m.engineHost q m.engine
    (a, { m with engine })
  | .wasInterrupted =>
    (m.engine.interrupted, { m with engine := { m.engine with interrupted := false } })

end ScriptedMachine

end InstallMatrix
