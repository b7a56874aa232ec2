import InstallMatrix.Gateway.Outcome

/-!
# `InstallMatrix.Gateway.Memory`: a gateway without an engine

A gateway that only keeps books. It builds every image at once, starts containers
with running numbers, answers commands by rules on their script, and notes every
call, so that a whole run can be followed without an engine.

Definitions: `ScriptedReply`, `CommandRule`, `MemoryBehaviour`, `MemoryGateway`,
`MemoryGateway.serve` (one call), `MemoryGateway.sweep` (removal of all live
containers).
-/

set_option autoImplicit false

namespace InstallMatrix

/-- What a rule answers. The last way holds the cell up until its run is cancelled. -/
inductive ScriptedReply
  /-- The command ran. -/
  | ran (exitCode : Int) (stdout stderr : String)
  /-- The command did not start. -/
  | notDispatched (message : String)
  /-- The command runs until it is given up. -/
  | hang
  deriving DecidableEq

/-- An answer to the commands whose script holds a text and, if one is named,
whose user is the one named. -/
structure CommandRule where
  pattern : String
  user : Option String
  reply : ScriptedReply
  deriving DecidableEq

/-- How the gateway is to behave. A command that no rule speaks of goes well. -/
structure MemoryBehaviour where
  rules : List CommandRule
  /-- Message every build fails with. -/
  buildFailure : Option String
  /-- Message every start fails with. -/
  startFailure : Option String
  /-- Does a build take its time. -/
  slowBuild : Bool
  deriving DecidableEq

/-- One noted command. Commands that do not run are noted too, as long as their container is live.
-/
structure CommandEntry where
  container : String
  cell : String
  user : String
  script : String
  deriving DecidableEq

/-- The gateway with its books. It has no engine behind it, so the books are all there is to
containers. -/
structure MemoryGateway where
  behaviour : MemoryBehaviour
  /-- Number of containers started so far. -/
  started : Nat
  /-- Tag of every build asked for. -/
  buildRequests : List ImageTag
  /-- Tags built, each once. -/
  images : List ImageTag
  created : List Container
  /-- Mounts of each container, in the order of `created`. -/
  mounts : List (List Mount)
  /-- Ids of removed containers. -/
  removed : List String
  /-- Ids of containers left running. -/
  retained : List String
  /-- Ids of containers neither removed nor left running. -/
  live : List String
  commands : List CommandEntry
  deriving DecidableEq

namespace MemoryGateway

/-- The gateway before its first call: no images, no containers, nothing noted. -/
def fresh (behaviour : MemoryBehaviour) : MemoryGateway where
  behaviour := behaviour
  started := 0
  buildRequests := []
  images := []
  created := []
  mounts := []
  removed := []
  retained := []
  live := []
  commands := []

/-- Does a rule speak of this command. The script has to contain the pattern, and the account has
to agree if the rule names one. -/
def speaksOf (command : ShellCommand) (rule : CommandRule) : Bool :=
  Text.contains command.script rule.pattern &&
    match rule.user with
    | some user => user == command.user
    | none => true

/-- The answer of the first rule that speaks of the command; without one the
command runs and prints nothing. -/
def replyTo (b : MemoryBehaviour) (command : ShellCommand) : ScriptedReply :=
  match b.rules.find? (speaksOf command) with
  | some rule => rule.reply
  | none => .ran 0 "" ""

/-- A build that was asked for, and has not been finished. The request is noted even if nothing
comes of it. -/
def requestBuild (g : MemoryGateway) (d : Definition) : MemoryGateway :=
  { g with buildRequests := g.buildRequests ++ [d.imageTag] }

/-- A build brought to its end. An image that was built before is not entered again. -/
def finishBuild (g : MemoryGateway) (d : Definition) :
    Except GatewayError ImageTag × MemoryGateway :=
  let tag := d.imageTag
  match g.behaviour.buildFailure with
  | some message =>
    (.error (.buildFailed tag.text message ("step failed: " ++ message)), g)
  | none => (.ok tag, { g with images := if tag ∈ g.images then g.images else g.images ++ [tag] })

/-- Starts a container from a built image. Containers are numbered in the order in which they are
started. -/
def start (g : MemoryGateway) (image : ImageTag) (options : StartOptions) :
    Except GatewayError Container × MemoryGateway :=
  match g.behaviour.startFailure with
  | some message => (.error (.commandFailed "run" message), g)
  | none =>
    if image ∈ g.images then
      let id := "mock-" ++ toString (g.started + 1)
      let container : Container := ⟨id, "install-matrix-" ++ options.cell, image, options.cell⟩
      (.ok container,
        { g with
          started := g.started + 1
          created := g.created ++ [container]
          mounts := g.mounts ++ [options.mounts]
          live := g.live ++ [id] })
    else (.error (.commandFailed "run" ("image " ++ image.text ++ " not built")), g)

/-- The reply to a command that is not held up. Every command that runs takes a millisecond. -/
def commandReply (container : Container) :
    ScriptedReply → Option (Except GatewayError CommandOutput)
  | .ran exitCode stdout stderr => some (.ok ⟨exitCode, stdout, stderr, 1000000⟩)
  | .notDispatched message => some (.error (.commandFailed ("exec " ++ container.name) message))
  | .hang => none

/-- Runs a command in a live container. The command is noted before it is known what comes of it.
-/
def exec (g : MemoryGateway) (container : Container) (command : ShellCommand) :
    Option (Except GatewayError CommandOutput) × MemoryGateway :=
  if container.id ∈ g.live then
    (commandReply container (replyTo g.behaviour command),
      { g with
        commands := g.commands
          ++ [⟨container.id, container.cell, command.user, command.script⟩] })
  else (some (.error (.containerNotFound container.id)), g)

/-- Removes a container. The removal is entered even if the container was not live. -/
def remove (g : MemoryGateway) (container : Container) : MemoryGateway :=
  { g with
    live := g.live.filter (· != container.id)
    removed := g.removed ++ [container.id] }

/-- Leaves a container running. It is entered as retained and is not live any more for the sweep.
-/
def retain (g : MemoryGateway) (container : Container) : MemoryGateway :=
  { g with
    live := g.live.filter (· != container.id)
    retained := g.retained ++ [container.id] }

/-- Serves one call, `cancelled` telling whether its run was cancelled before. A
slow build does not come to its end in a cancelled run. -/
def serve (g : MemoryGateway) (cancelled : Bool) : (c : Call) → Outcome c × MemoryGateway
  | .build d =>
    let requested := g.requestBuild d
    if g.behaviour.slowBuild && cancelled then (.held, requested)
    else
      let (reply, g) := requested.finishBuild d
      (.replied reply, g)
  | .start image options =>
    let (reply, g) := g.start image options
    (.replied reply, g)
  | .exec container command =>
    match g.exec container command with
    | (some reply, g) => (.replied reply, g)
    | (none, g) => (.held, g)
  | .logs container => (.replied (.ok ("mock logs for " ++ container.name)), g)
  | .remove container => (.replied (.ok ()), g.remove container)
  | .retain container => (.replied (), g.retain container)

/-- Removes every live container and says how many there were. They are entered in the order in
which they were started. -/
def sweep (g : MemoryGateway) : Nat × MemoryGateway :=
  (g.live.length, { g with live := [], removed := g.removed ++ g.live })

end MemoryGateway

end InstallMatrix
