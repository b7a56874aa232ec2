import InstallMatrix.Environment.Definition

/-!
# `InstallMatrix.Gateway.Basic`: what passes between a run and an engine

The run talks to a container engine through a gateway. This module holds the
values that pass through it: `Mount`, `StartOptions`, `Container`, `ShellCommand`
and `CommandOutput`, and `GatewayError`, the reasons for which the gateway itself
may fail. A command that ran and exited with a code other than zero is no such
failure; its code is part of `CommandOutput`.
-/

set_option autoImplicit false

namespace InstallMatrix

/-- A host path bound into a container. Paths are text here: a directory whose
name is not valid UTF-8 is left out. -/
structure Mount where
  source : String
  target : String
  readOnly : Bool
  deriving DecidableEq

namespace Mount

/-- A mount the container cannot write to. Archives are mounted so. -/
def sealed (source target : String) : Mount := ⟨source, target, true⟩

/-- The mount as engines read it: source, target and, if it is read only, `ro`,
with colons between. -/
def volume (m : Mount) : String :=
  m.source ++ ":" ++ m.target ++ (if m.readOnly then ":ro" else "")

end Mount

/-- How a container is to be started. What runs in it is up to the image. -/
structure StartOptions where
  /-- Label of the cell the container is for. -/
  cell : String
  platform : Option String
  mounts : List Mount
  labels : Table String
  deriving DecidableEq

/-- A running container. The engine knows it by its id, and people by its name. -/
structure Container where
  /-- The name the engine knows it by. -/
  id : String
  name : String
  image : ImageTag
  /-- Label of the cell it belongs to. -/
  cell : String
  deriving DecidableEq

/-- A shell script to run inside a container, with the account it runs under and where it starts.
-/
structure ShellCommand where
  script : String
  user : String
  workdir : String
  env : Table String
  deriving DecidableEq

namespace ShellCommand

/-- A command without environment. Variables are set on it one by one. -/
def of (script user workdir : String) : ShellCommand := ⟨script, user, workdir, .empty⟩

/-- The command with one environment variable set. An earlier value of it is replaced. -/
def withEnv (c : ShellCommand) (key value : String) : ShellCommand :=
  { c with env := c.env.insert key value }

end ShellCommand

/-- What a command left behind. Any exit code is an output: only a command that did not run has
none. -/
structure CommandOutput where
  exitCode : Int
  stdout : String
  stderr : String
  /-- Running time in nanoseconds. -/
  duration : Nat
  deriving DecidableEq

namespace CommandOutput

/-- Did the command exit with code zero. This alone decides whether a step has passed. -/
def success (o : CommandOutput) : Bool := o.exitCode == 0

/-- The running time in whole milliseconds, which is rounded down. -/
def milliseconds (o : CommandOutput) : Nat := o.duration / 1000000 % Nat.pow 2 64

end CommandOutput

/-- Why the gateway could not do what it was asked for. A command that ran in a container and
exited with an error is none of these. -/
inductive GatewayError
  | unavailable (reason : String)
  | buildFailed (tag message output : String)
  | commandFailed (command message : String)
  | containerNotFound (id : String)
  | timeout (action : String)
  | cancelled (action : String)
  | inputOutput (reason : String)
  deriving DecidableEq

namespace GatewayError

/-- The wording of a gateway failure. The output of a failed build is not part of it. -/
def message : GatewayError → String
  | .unavailable reason => "no container engine reachable: " ++ reason
  | .buildFailed tag message _ => "image build failed for " ++ tag ++ ": " ++ message
  | .commandFailed command message =>
    "engine command failed: " ++ command ++ " - " ++ message
  | .containerNotFound id => "container not found: " ++ id
  | .timeout action => "timed out: " ++ action
  | .cancelled action => "cancelled: " ++ action
  | .inputOutput reason => "I/O error: " ++ reason

/-- Was the call given up because the run was cancelled. Such a cell counts as cancelled and not
as broken. -/
def isCancelled : GatewayError → Bool
  | .cancelled _ => true
  | _ => false

end GatewayError

end InstallMatrix
