import InstallMatrix.Matrix.Cell
import InstallMatrix.Table
import InstallMatrix.Timestamp

/-!
# `InstallMatrix.Results.Basic`: what is known about a cell afterwards

A `CellResult` tells what became of one cell: its verdict, the stages it went
through, every command that ran, and why it failed or was skipped.

Definitions: `CellStatus`, `Stage`, `FailureKind`, `Failure`, `StepRecord`,
`PhaseRecord`, `CellResult`, `CellResult.reason?`, `CellResult.failedSteps`.
-/

set_option autoImplicit false

namespace InstallMatrix

/-- The verdict on a cell. A skipped cell neither passed nor failed. -/
inductive CellStatus
  | pass
  | fail
  | skipped
  deriving DecidableEq

namespace CellStatus

/-- Every verdict, in the order of the constructors. Readers of a verdict look it up here by its
name. -/
def all : List CellStatus := [.pass, .fail, .skipped]

/-- The name of a verdict, as data and reports have it. -/
def name : CellStatus → String
  | .pass => "pass"
  | .fail => "fail"
  | .skipped => "skipped"

end CellStatus

/-- The stages of a cell's way through a run. All but the last are in the order in which they are
reached. -/
inductive Stage
  | pending
  | artifactResolved
  | imageBuilt
  | containerRunning
  | rootPhase
  | userPhase
  | completed
  | failed
  deriving DecidableEq

namespace Stage

/-- Every stage, in the order of the constructors. Readers of a stage look it up here by its name.
-/
def all : List Stage :=
  [.pending, .artifactResolved, .imageBuilt, .containerRunning, .rootPhase, .userPhase,
    .completed, .failed]

/-- The name of a stage, as data and reports have it. -/
def name : Stage → String
  | .pending => "pending"
  | .artifactResolved => "artifact_resolved"
  | .imageBuilt => "image_built"
  | .containerRunning => "container_running"
  | .rootPhase => "root_phase"
  | .userPhase => "user_phase"
  | .completed => "completed"
  | .failed => "failed"

/-- The stage a success leads to. The last two lead nowhere, since a cell that has come to one of
them is over. -/
def next : Stage → Stage
  | .pending => .artifactResolved
  | .artifactResolved => .imageBuilt
  | .imageBuilt => .containerRunning
  | .containerRunning => .rootPhase
  | .rootPhase => .userPhase
  | .userPhase => .completed
  | .completed => .completed
  | .failed => .failed

end Stage

/-- Why a cell failed, by what went wrong and not by where: the stage is given beside it. -/
inductive FailureKind
  | artifactMissing
  | artifactAmbiguous
  | buildError
  /-- The container could not be started. -/
  | startError
  | rootInstallError
  | userInstallError
  /-- The engine could not be driven, whatever the installer would have done. -/
  | infrastructureError
  | cancelled
  deriving DecidableEq

namespace FailureKind

/-- Every kind of failure, in the order of the constructors. Readers of a kind look it up here by
its name. -/
def all : List FailureKind :=
  [.artifactMissing, .artifactAmbiguous, .buildError, .startError, .rootInstallError,
    .userInstallError, .infrastructureError, .cancelled]

/-- The name of a kind, as data and reports have it. A failed start goes by the name of the
runtime. -/
def name : FailureKind → String
  | .artifactMissing => "ArtifactMissing"
  | .artifactAmbiguous => "ArtifactAmbiguous"
  | .buildError => "BuildError"
  | .startError => "RuntimeError"
  | .rootInstallError => "RootInstallError"
  | .userInstallError => "UserInstallError"
  | .infrastructureError => "InfrastructureError"
  | .cancelled => "Cancelled"

/-- A step of this identity's phase exited with a code other than zero. Each identity has a kind
of its own. -/
def install : Identity → FailureKind
  | .root => .rootInstallError
  | .user => .userInstallError

end FailureKind

/-- A failure with the stage that was being attempted. The message is for a reader, the kind for a
program. -/
structure Failure where
  kind : FailureKind
  stage : Stage
  message : String
  /-- Build output, container logs or the like. -/
  diagnostics : Option String
  deriving DecidableEq

/-- One command of a phase as it ran: script, account, both outputs and the time it took. -/
structure StepRecord where
  name : String
  command : String
  user : String
  /-- Absent when the command never started. -/
  exitCode : Option Int
  stdout : String
  stderr : String
  durationMs : Nat
  deriving DecidableEq

/-- The commands run under one identity, in the order in which they ran. The last one may have
failed. -/
structure PhaseRecord where
  identity : Identity
  steps : List StepRecord
  deriving DecidableEq

/-- What became of one cell. Archive, image and container are given as far as the cell came. -/
structure CellResult where
  cell : Cell
  status : CellStatus
  startedAt : Timestamp
  durationMs : Nat
  /-- File name of the archive. -/
  artifact : Option String
  image : Option String
  /-- Name of the container. -/
  container : Option String
  trace : List Stage
  phases : List PhaseRecord
  failure : Option Failure
  skipReason : Option String
  deriving DecidableEq

namespace CellResult

/-- The result of a cell that was not run. It has a reason, and nothing of the way. -/
def skipped (cell : Cell) (reason : String) (now : Timestamp) : CellResult where
  cell := cell
  status := .skipped
  startedAt := now
  durationMs := 0
  artifact := none
  image := none
  container := none
  trace := []
  phases := []
  failure := none
  skipReason := some reason

/-- The result of a cell that failed outside its own stages. The run makes it up when a task ends
without one. -/
def failed (cell : Cell) (failure : Failure) (now : Timestamp) : CellResult :=
  { skipped cell "" now with
    status := .fail
    failure := some failure
    skipReason := none }

/-- Why the cell did not pass. A failure comes before a skip reason, and a cell that passed has
neither. -/
def reason? (r : CellResult) : Option String :=
  match r.failure with
  | some f => some (f.kind.name ++ ": " ++ f.message)
  | none => r.skipReason

/-- The steps that did not exit with code zero, each with its phase. A command that never started
counts among them. -/
def failedSteps (r : CellResult) : List (PhaseRecord × StepRecord) :=
  r.phases.flatMap fun p =>
    (p.steps.filter fun s => s.exitCode != some 0).map fun s => (p, s)

end CellResult

end InstallMatrix
