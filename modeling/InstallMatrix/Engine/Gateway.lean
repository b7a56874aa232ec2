import InstallMatrix.Engine.Detection
import InstallMatrix.Engine.Process
import InstallMatrix.Gateway.Call
import InstallMatrix.Program
import InstallMatrix.Text.Mark
import InstallMatrix.Text.Printable

/-!
# `InstallMatrix.Engine.Gateway`: the gateway over an engine's program

Every gateway call becomes one or more calls of the engine's program. The calls
are questions of an `EngineProgram`, so any behaviour of the engine can answer
them.

Whether a command inside a container was started at all is told by a sentinel
line that is printed to its standard error before the script: without the
sentinel the command never ran, whatever the exit code. Containers started by the
gateway are tracked until they are removed or left running on purpose.

Definitions: `EngineConfig`, `EngineQuestion`, `EngineGateway`, `Tracked`, and the
calls `EngineGateway.verify`, `buildImage`, `startContainer`, `exec`, `logs`,
`removeContainer`, `removeAll`.
-/

set_option autoImplicit false

namespace InstallMatrix

/-- How the engine's program is called. Times are in milliseconds, and each kind of call has a
limit of its own. -/
structure EngineConfig where
  /-- The program to call instead of the engine's own. -/
  binary : Option String
  commandTimeout : Nat
  execTimeout : Nat
  buildTimeout : Nat
  /-- Lines of build output and logs that are kept. -/
  logTailLines : Nat
  /-- Stamped on every container of the run. -/
  runId : String
  deriving DecidableEq

/-- What the gateway asks of its surroundings. Everything it does to an engine goes through the
engine's program. -/
inductive EngineQuestion
  /-- Call a program. -/
  | invoke (program : String) (call : Invocation)
  /-- Write files into a fresh directory. -/
  | writeContext (files : List (String × String))
  /-- Eight random hexadecimal digits. -/
  | suffix
  /-- The lock of a tag. A tag that has none is given a new one. -/
  | lock (tag : ImageTag)
  /-- Wait until no other build holds the lock, and hold it until this one ends. -/
  | hold (lock : Nat)

/-- The answers to each question. A program that could not be started is an answer too. -/
@[reducible]
def EngineAnswer : EngineQuestion → Type
  | .invoke _ _ => Invocation.Result
  | .writeContext _ => Except String String
  | .suffix => String
  | .lock _ => Nat
  | .hold _ => Unit

/-- A computation that drives an engine. What it does depends on nothing but the answers it is
given. -/
abbrev EngineProgram (α : Type) : Type := Program EngineAnswer α

/-- An engine with the way its program is called. This does not change during a run. -/
structure EngineGateway where
  engine : DetectedEngine
  config : EngineConfig
  deriving DecidableEq

/-- The containers a gateway has started and neither removed nor left running. The final sweep
removes these and no other. -/
abbrev Tracked := List Container

namespace EngineGateway

/-- Printed by every command inside a container before its script. If it is seen, the script was
reached. -/
def sentinel : String := "__install_matrix_exec_started__"

/-- The program that is called: the configured one, or the one named like the engine. -/
def program (r : EngineGateway) : String := r.config.binary.getD r.engine.kind.name

/-- Calls the engine's program with a time limit. The arguments that point at the engine's socket
come first. -/
def invoke (r : EngineGateway) (arguments : List String) (limit : Nat) :
    EngineProgram Invocation.Result :=
  Program.question
    (EngineQuestion.invoke r.program
      ⟨r.engine.kind.hostArguments r.engine.socket, arguments, limit⟩)

/-- Calls the engine's program and waits for its end. Running over the limit and not starting are
errors, but any exit is an output to look at. -/
def command (r : EngineGateway) (arguments : List String) :
    EngineProgram (Except GatewayError ProcessOutput) := do
  match ← r.invoke arguments r.config.commandTimeout with
  | .ended output => return .ok output
  | .overdue _ _ =>
    return .error (.timeout (r.engine.kind.name ++ " " ++ Text.joined " " arguments))
  | .unstartable reason => return .error (.inputOutput reason)

/-- Standard error without the blanks around it. This is what messages quote of a failed call. -/
def complaint (o : ProcessOutput) : String := Text.trim (Text.Utf8.decodeLossy o.stderr)

/-! ### The engine's program -/

/-- A character as it stands between quotes in a message. One that is not
printable, or that would merge with the character before it, is written by its
number. -/
def shownChar (c : Char) : List Char :=
  if c = '"' then ['\\', '"']
  else if c = '\\' then ['\\', '\\']
  else if c = '\n' then ['\\', 'n']
  else if c = '\r' then ['\\', 'r']
  else if c = '\t' then ['\\', 't']
  else if c.toNat = 0 then ['\\', '0']
  else if Text.isGraphemeExtender c || !Text.isPrintable c then
    ['\\', 'u', '\x7b'] ++ Nat.toDigits 16 c.toNat ++ ['\x7d']
  else [c]

/-- A path between quotes, as it is shown in messages. Characters that cannot be seen are written
by their numbers. -/
def shown (path : String) : String :=
  "\"" ++ String.ofList (path.toList.flatMap shownChar) ++ "\""

/-- Checks that the engine's program can be called. A run begins with this, so that a bad
configuration is not reported once for every cell. -/
def verify (r : EngineGateway) : EngineProgram (Except GatewayError Unit) := do
  match ← r.command ["version"] with
  | .error e => return .error (.unavailable (shown r.program ++ ": " ++ e.message))
  | .ok output =>
    if output.ending.success then return .ok ()
    else
      return .error (.unavailable (shown r.program ++ " version failed: " ++ complaint output))

/-! ### Images -/

/-- The arguments of a build with its context in `dir`. Progress is asked for line by line where
the engine knows the option. -/
def buildArguments (r : EngineGateway) (d : Definition) (dir : String) : List String :=
  ["build", "--platform", d.platform, "-t", d.imageTag.text, "-f", dir ++ "/Containerfile"]
    ++ (if r.engine.kind.printsPlainProgress then ["--progress", "plain"] else [])
    ++ [dir]

/-- Reads lines one after the other into the tail. The first line that is no text
ends the reading. -/
def readLines (tail : OutputTail) : List OctetLine → Except Text.Utf8.Fault OutputTail
  | [] => .ok tail
  | line :: rest =>
    match line.read with
    | .ok text => readLines (tail.push text) rest
    | .error fault => .error fault

/-- What a build comes to. Only complete lines of a build that is still running
have been read. -/
def buildOutcome (logTailLines : Nat) (tag : ImageTag) :
    Invocation.Result → Except GatewayError ImageTag
  | .unstartable reason => .error (.inputOutput reason)
  | .overdue stdout stderr =>
    -- Only whole lines had been read when the time was up.
    let lines := (octetLines stdout ++ octetLines stderr).filter OctetLine.complete
    match readLines (.empty logTailLines) lines with
    | .error fault => .error (.inputOutput fault.message)
    | .ok _ => .error (.timeout ("build of " ++ tag.text))
  | .ended output =>
    let lines := octetLines output.stdout ++ octetLines output.stderr
    match readLines (.empty logTailLines) lines with
    | .error fault => .error (.inputOutput fault.message)
    | .ok tail =>
      if output.ending.success then .ok tag
      else
        .error (.buildFailed tag.text ("engine exited with " ++ output.ending.text) tail.text)

/-- Builds the image of a definition, its context being in `dir`. What the build comes to is read
from its output. -/
def buildIn (r : EngineGateway) (d : Definition) (dir : String) :
    EngineProgram (Except GatewayError ImageTag) := do
  let result ← r.invoke (r.buildArguments d dir) r.config.buildTimeout
  return buildOutcome r.config.logTailLines d.imageTag result

/-- Builds the image of a definition in a fresh directory. Without the directory there is no
build. -/
def buildMissing (r : EngineGateway) (d : Definition) :
    EngineProgram (Except GatewayError ImageTag) := do
  match ← Program.question (EngineQuestion.writeContext d.context) with
  | .error reason => return .error (.inputOutput reason)
  | .ok dir => r.buildIn d dir

/-- Builds the image of a definition unless the engine has it. The engine is asked for it by its
tag. -/
def findOrBuild (r : EngineGateway) (d : Definition) :
    EngineProgram (Except GatewayError ImageTag) := do
  match ← r.command ["image", "inspect", d.imageTag.text] with
  | .error e => return .error e
  | .ok output => if output.ending.success then return .ok d.imageTag else r.buildMissing d

/-- Builds the image of a definition unless the engine has it, holding the lock of
its tag. -/
def buildImage (r : EngineGateway) (d : Definition) :
    EngineProgram (Except GatewayError ImageTag) := do
  let lock ← Program.question (EngineQuestion.lock d.imageTag)
  Program.question (EngineQuestion.hold lock)
  r.findOrBuild d

/-! ### Containers -/

/-- Is this the engine's complaint about a container that is not there. Any text with one of three
phrases is taken for it, in any case of letters. -/
def isMissing (stderr : String) : Bool :=
  let lower := Text.lower stderr
  Text.contains lower "no such container" || Text.contains lower "no container with"
    || Text.contains lower "not found"

/-- Removes a container by id or name. One that is gone counts as removed, by what the engine
complains of. -/
def removeByName (r : EngineGateway) (target : String) :
    EngineProgram (Except GatewayError Unit) := do
  match ← r.command ["rm", "--force", target] with
  | .error e => return .error e
  | .ok output =>
    if output.ending.success || isMissing (Text.Utf8.decodeLossy output.stderr) then
      return .ok ()
    else return .error (.commandFailed "rm" (complaint output))

/-- Characters that may not stand in a container name become hyphens. The length stays the same.
-/
def sanitized (raw : String) : String :=
  String.ofList (raw.toList.map fun c =>
    if c.isAlphanum || c == '_' || c == '.' || c == '-' then c else '-')

/-- The name of a container for a cell. The suffix tells two containers of one cell apart. -/
def containerName (cell suffix : String) : String :=
  sanitized ("install-matrix-" ++ cell ++ "-" ++ suffix)

/-- The arguments that start a container. It goes on by itself, and is labelled with the run it
belongs to. -/
def startArguments (r : EngineGateway) (name : String) (image : ImageTag)
    (options : StartOptions) : List String :=
  ["run", "--detach", "--name", name, "--label", "install-matrix.run=" ++ r.config.runId]
    ++ (options.platform.toList.flatMap fun p => ["--platform", p])
    ++ (options.labels.toList.flatMap fun l => ["--label", l.1 ++ "=" ++ l.2])
    ++ (options.mounts.flatMap fun m => ["--volume", m.volume])
    ++ [image.text]

/-- The id a start printed: its last line without the blanks around it. What stands in lines
before it is passed over. -/
def printedId (stdout : Text.Octets) : String :=
  Text.trim ((Text.lines (Text.Utf8.decodeLossy stdout)).getLast?.getD "")

/-- The id of the started container, or why there is none. A start that succeeds without printing
an id counts as failed. -/
def startedId : Except GatewayError ProcessOutput → Except GatewayError String
  | .error e => .error e
  | .ok output =>
    if !output.ending.success then .error (.commandFailed "run" (complaint output))
    else
      let id := printedId output.stdout
      if id = "" then .error (.commandFailed "run" "engine returned no container id")
      else .ok id

/-- The tracked containers with one more. One with the same id is replaced. -/
def track (tracked : Tracked) (c : Container) : Tracked :=
  tracked.filter (fun t => t.id != c.id) ++ [c]

/-- The tracked containers without one id. Nothing changes if none has it. -/
def untrack (tracked : Tracked) (id : String) : Tracked :=
  tracked.filter fun t => t.id != id

/-- Starts a container. Whatever a failed start may have left behind is removed
by its name. -/
def startContainer (r : EngineGateway) (tracked : Tracked) (image : ImageTag)
    (options : StartOptions) : EngineProgram (Except GatewayError Container × Tracked) := do
  let suffix ← Program.question EngineQuestion.suffix
  let name := containerName options.cell suffix
  let output ← r.command (r.startArguments name image options)
  match startedId output with
  | .ok id =>
    let container : Container := ⟨id, name, image, options.cell⟩
    return (.ok container, track tracked container)
  -- The engine may have made the container all the same, so it is removed by its name.
  | .error e =>
    let _ ← r.removeByName name
    return (.error e, tracked)

/-- Removes a container and stops tracking it. One that could not be removed stays
tracked. -/
def removeContainer (r : EngineGateway) (tracked : Tracked) (c : Container) :
    EngineProgram (Except GatewayError Unit × Tracked) := do
  match ← r.removeByName c.id with
  | .ok () => return (.ok (), untrack tracked c.id)
  | .error e => return (.error e, tracked)

/-- Removes the listed containers one by one and counts those removed. A removal that fails leaves
its container tracked and the others to come. -/
def removeEach (r : EngineGateway) (tracked : Tracked) :
    List Container → EngineProgram (Nat × Tracked)
  | [] => return (0, tracked)
  | c :: rest => do
    let (removed, tracked) ← r.removeContainer tracked c
    let (count, tracked) ← r.removeEach tracked rest
    return (match removed with | .ok () => count + 1 | .error _ => count, tracked)

/-- Removes every tracked container and says how many could be removed. It never fails as a whole.
-/
def removeAll (r : EngineGateway) (tracked : Tracked) : EngineProgram (Nat × Tracked) :=
  r.removeEach tracked tracked

/-! ### Commands inside a container -/

/-- The arguments that run a script inside a container. The script is handed to a login shell,
behind a command that prints the sentinel. -/
def execArguments (c : Container) (command : ShellCommand) : List String :=
  ["exec", "--user", command.user, "--workdir", command.workdir]
    ++ (command.env.toList.flatMap fun v => ["--env", v.1 ++ "=" ++ v.2])
    ++ [c.id, "sh", "-lc", "echo " ++ sentinel ++ " >&2\n" ++ command.script]

/-- Lines without the first one that is the sentinel, if there is one. A second one stays. -/
def dropSentinel : List String → Option (List String)
  | [] => none
  | line :: rest =>
    if Text.trim line = sentinel then some rest else (dropSentinel rest).map (line :: ·)

/-- Standard error without the sentinel, and `none` if the sentinel is not there. Lines are joined
again, without a line feed at the end. -/
def stripSentinel (stderr : String) : Option String :=
  (dropSentinel (Text.lines stderr)).map (Text.joined "\n")

/-- What a command inside a container comes to. Only a program that exited is a command with an
output, and only if the sentinel shows. -/
def execOutcome (c : Container) (command : ShellCommand) :
    Invocation.Result → Except GatewayError CommandOutput
  | .unstartable reason => .error (.inputOutput reason)
  | .overdue _ _ => .error (.timeout ("exec in " ++ c.name ++ ": " ++ command.script))
  | .ended output =>
    let raw := Text.Utf8.decodeLossy output.stderr
    -- Without the sentinel the command is taken not to have run, whatever the exit code.
    match stripSentinel raw with
    | none => .error (.commandFailed ("exec " ++ c.name) (Text.trim raw))
    | some stderr =>
      match output.ending with
      | .exited code =>
        .ok ⟨code, Text.Utf8.decodeLossy output.stdout, stderr, output.elapsed⟩
      | .killed _ =>
        .error (.commandFailed ("exec " ++ c.name)
          ("terminated by signal (" ++ output.ending.text ++ ")"))

/-- Runs a script inside a container. Its exit code is not judged here. -/
def exec (r : EngineGateway) (c : Container) (command : ShellCommand) :
    EngineProgram (Except GatewayError CommandOutput) := do
  return execOutcome c command (← r.invoke (execArguments c command) r.config.execTimeout)

/-- The end of what a container printed, standard output before standard error. No more lines are
asked for than are kept of a build. -/
def logs (r : EngineGateway) (c : Container) : EngineProgram (Except GatewayError String) := do
  match ← r.command ["logs", "--tail", toString r.config.logTailLines, c.id] with
  | .error e => return .error e
  | .ok output =>
    let stderr := Text.Utf8.decodeLossy output.stderr
    if output.ending.success then
      return .ok (Text.Utf8.decodeLossy output.stdout ++ stderr)
    else if isMissing stderr then return .error (.containerNotFound c.id)
    else return .error (.commandFailed "logs" (Text.trim stderr))

/-! ### The gateway -/

/-- Serves a gateway call. Only starting, removing and retaining a container change what is
tracked. -/
def serve (r : EngineGateway) (tracked : Tracked) :
    (c : Call) → EngineProgram (c.Reply × Tracked)
  | .build d => do return (← r.buildImage d, tracked)
  | .start image options => r.startContainer tracked image options
  | .exec c command => do return (← r.exec c command, tracked)
  | .logs c => do return (← r.logs c, tracked)
  | .remove c => r.removeContainer tracked c
  | .retain c => return ((), untrack tracked c.id)

end EngineGateway

end InstallMatrix
