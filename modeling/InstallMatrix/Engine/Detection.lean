import InstallMatrix.Gateway.Basic
import InstallMatrix.Text.Path

/-!
# `InstallMatrix.Engine.Detection`: which container engine is used

Three engines are known. Each listens on certain sockets, some of them below
directories that only the environment tells. The candidates are tried in a fixed
order, Docker before Finch before Podman, and the first socket that exists and
answers decides.

Definitions: `EngineKind`, `SocketCandidate`, `DetectedEngine`,
`candidates`, `detect`.
-/

set_option autoImplicit false

namespace InstallMatrix

/-- The container engines a run can use. All are driven by programs that take the same commands.
-/
inductive EngineKind
  | docker
  | finch
  | podman
  deriving DecidableEq

namespace EngineKind

/-- Every engine, in the order of preference. The search for a socket keeps to this order. -/
def all : List EngineKind := [.docker, .finch, .podman]

/-- The name of an engine, which is also the name of its program. -/
def name : EngineKind → String
  | .docker => "docker"
  | .finch => "finch"
  | .podman => "podman"

/-- The arguments that point the program at a socket. Finch always talks to its
own machine. -/
def hostArguments (k : EngineKind) (socket : String) : List String :=
  match k with
  | .docker => ["--host", "unix://" ++ socket]
  | .podman => ["--url", "unix://" ++ socket]
  | .finch => []

/-- Does `build` of the engine know how to print its progress line by line. An engine that does
not is called without the option. -/
def printsPlainProgress : EngineKind → Bool
  | .docker => true
  | .finch => true
  | .podman => false

end EngineKind

/-- A socket that may belong to an engine. It may not be there, and if it is there it may not
answer. -/
structure SocketCandidate where
  engine : EngineKind
  path : String
  deriving DecidableEq

/-- The engine a run uses, with the socket at which it answered. -/
structure DetectedEngine where
  kind : EngineKind
  socket : String
  deriving DecidableEq

namespace Engine

/-- The socket of a Docker host setting, if it names one. A host on the network is not considered.
-/
def socketOfHost? (host : String) : Option String :=
  (Text.after? "unix://".toList host.toList).map String.ofList

/-- The candidates in the order in which they are tried. A directory that is not set leaves out
the sockets below it. -/
def candidates (dockerHost runtimeDir home : Option String) : List SocketCandidate :=
  let below (engine : EngineKind) (dir? : Option String) (name : String) :
      List SocketCandidate :=
    dir?.toList.map fun dir => ⟨engine, Path.join dir name⟩
  -- The sockets of one engine stand together: docker's, then finch's, then podman's.
  ((dockerHost.bind socketOfHost?).toList.map fun path => ⟨.docker, path⟩)
    ++ [⟨.docker, "/var/run/docker.sock"⟩]
    ++ below .docker runtimeDir "docker.sock"
    ++ below .docker home ".docker/run/docker.sock"
    ++ [ ⟨.finch, "/run/finch/finch.sock"⟩,
         ⟨.finch, "/var/run/finch/finch.sock"⟩,
         ⟨.finch, "/Applications/Finch/lima/data/finch/sock/finch.sock"⟩ ]
    ++ below .podman runtimeDir "podman/podman.sock"
    ++ [⟨.podman, "/run/podman/podman.sock"⟩]

/-- The failure to find an engine, naming everything that was tried. A reader can see from it
which setting was passed over. -/
def noneResponded (tried : List SocketCandidate) : GatewayError :=
  .unavailable
    ("none of the known sockets responded; tried "
      ++ Text.joined ", " (tried.map fun c => c.engine.name ++ " (" ++ c.path ++ ")"))

section

variable {m : Type → Type} [Monad m]

/-- The first candidate whose socket exists and answers. The ones behind it are not looked at. -/
def firstResponding (isThere answers : String → m Bool) :
    List SocketCandidate → m (Option SocketCandidate)
  | [] => pure none
  | c :: rest => do
    if ← isThere c.path then
      if ← answers c.path then return some c
    firstResponding isThere answers rest

/-- The engine of the first candidate whose socket exists and answers. There is no second choice
among sockets that answer. -/
def detect (isThere answers : String → m Bool) (tried : List SocketCandidate) :
    m (Except GatewayError DetectedEngine) := do
  match ← firstResponding isThere answers tried with
  | some c => return .ok ⟨c.engine, c.path⟩
  | none => return .error (noneResponded tried)

end

end Engine

end InstallMatrix
