import InstallMatrix.Catalog.Basic
import InstallMatrix.Install.Phase
import InstallMatrix.Run.Question

/-!
# `InstallMatrix.Run.Pipeline`: the way of one cell

A cell goes through the stages pending, artifact resolved, image built, container
running, root phase, user phase and completed. Every step may end in failure
instead, and a failed or completed cell stays so. A state holds exactly what has
been acquired, so a container that has to be released is always at hand.

Definitions: `CellState`, `Pipeline`, `Pipeline.advance` (one step),
`Pipeline.drive` (all steps), `Pipeline.result`, `Pipeline.release`, and
`Pipeline.task`, the whole life of a cell once it may run.
-/

set_option autoImplicit false

namespace InstallMatrix

/-- What all cells of a run share and no cell changes: the releases to build from, the archives
that were found, and the settings. -/
structure RunContext where
  catalog : Catalog
  artifacts : Directory
  settings : RunSettings

/-- Where a cell stands, with what it holds there. Each state carries just what the next step
needs, so a container is at hand as soon as one is running. -/
inductive CellState
  | pending
  | artifactResolved (artifact : Artifact)
  | imageBuilt (artifact : Artifact) (image : ImageTag)
  | containerRunning (artifact : Artifact) (container : Container)
  | rootPhase (artifact : Artifact) (container : Container)
  | userPhase (artifact : Artifact) (container : Container)
  | completed (container : Container)
  | failed (failure : Failure) (container : Option Container)
  deriving DecidableEq

namespace CellState

/-- The stage of a state, which is the state without what it holds. This is what the trace of a
result lists. -/
def stage : CellState → Stage
  | .pending => .pending
  | .artifactResolved _ => .artifactResolved
  | .imageBuilt _ _ => .imageBuilt
  | .containerRunning _ _ => .containerRunning
  | .rootPhase _ _ => .rootPhase
  | .userPhase _ _ => .userPhase
  | .completed _ => .completed
  | .failed _ _ => .failed

/-- Is this the end of the way. From here on a step changes nothing, and a cancellation comes too
late. -/
def isTerminal : CellState → Bool
  | .completed _ => true
  | .failed _ _ => true
  | _ => false

/-- The container the state holds. A failed cell may hold one too, since it is given up only after
the result is in. -/
def container? : CellState → Option Container
  | .containerRunning _ c => some c
  | .rootPhase _ c => some c
  | .userPhase _ c => some c
  | .completed c => some c
  | .failed _ c => c
  | _ => none

/-- The greatest number of steps still ahead. Every step of an unfinished cell lowers it, so that
six steps are enough for any cell. -/
def remaining : CellState → Nat
  | .pending => 6
  | .artifactResolved _ => 5
  | .imageBuilt _ _ => 4
  | .containerRunning _ _ => 3
  | .rootPhase _ _ => 2
  | .userPhase _ _ => 1
  | .completed _ => 0
  | .failed _ _ => 0

end CellState

/-- A cell on its way, with what is known for its result. The state says where it stands, the
other fields are what it has collected. -/
structure Pipeline where
  cell : Cell
  state : CellState
  /-- The stages visited so far. -/
  trace : List Stage
  phases : List PhaseRecord
  /-- File name of the archive. -/
  artifact : Option String
  image : Option ImageTag
  /-- Clock reading at the beginning. -/
  startedAt : Nat
  deriving DecidableEq

namespace Pipeline

/-- A cell at the beginning of its way. The stage it starts in is already part of its trace. -/
def create (cell : Cell) (clock : Nat) : Pipeline where
  cell := cell
  state := .pending
  trace := [.pending]
  phases := []
  artifact := none
  image := none
  startedAt := clock

/-- The cell in a state. The stage is added to the trace when it differs from the present one, so
no stage is listed twice in a row. -/
def enter (p : Pipeline) (s : CellState) : Pipeline :=
  { p with
    state := s
    trace := if s.stage = p.state.stage then p.trace else p.trace ++ [s.stage] }

/-- The cell failed, holding what it held. The stage is the one that was attempted and not the one
that was reached. -/
def failWith (p : Pipeline) (kind : FailureKind) (stage : Stage) (message : String)
    (diagnostics : Option String) (container : Option Container) : Pipeline :=
  p.enter (.failed ⟨kind, stage, message, diagnostics⟩ container)

/-! ### Steps -/

/-- Chooses the archive for the cell's architecture and C library. Several candidates are a
failure of their own kind; none, and a directory that cannot be read, are another. -/
def resolve (ctx : RunContext) (p : Pipeline) : Pipeline :=
  match ctx.artifacts.resolve ctx.settings.installer.archiveName p.cell.architecture
      p.cell.libc with
  | .ok artifact =>
    { p with artifact := some artifact.fileName }.enter (.artifactResolved artifact)
  | .error e =>
    let kind := match e with
      | .ambiguous _ _ _ _ => FailureKind.artifactAmbiguous
      | _ => FailureKind.artifactMissing
    p.failWith kind .artifactResolved e.message none none

/-- What becomes of the cell once its image was asked for. The tag is noted for the result even if
the cell fails later on. -/
def afterBuild (p : Pipeline) (artifact : Artifact) :
    Except GatewayError ImageTag → Pipeline
  | .ok image => { p with image := some image }.enter (.imageBuilt artifact image)
  -- Of all errors, only that of a build that ran has output to show.
  | .error (.buildFailed _ message output) =>
    p.failWith .buildError .imageBuilt message (some output) none
  | .error e =>
    p.failWith (if e.isCancelled then .cancelled else .buildError) .imageBuilt e.message none
      none

/-- Builds the image of the cell's release. The release is looked up in the catalog again, and a
cell without one fails before the gateway is asked. -/
def build (ctx : RunContext) (p : Pipeline) (artifact : Artifact) : CellProgram Pipeline :=
  match ctx.catalog.find? p.cell.distribution p.cell.version with
  | none =>
    pure (p.failWith .buildError .imageBuilt
      (p.cell.distribution ++ "-" ++ p.cell.version ++ " is not in the catalog") none none)
  | some release => do
    let definition := Environment.recipe ctx.settings.testUser release p.cell.architecture
    return p.afterBuild artifact (← CellProgram.call (.build definition))

/-- How the cell's container is started: the directory of the archive is mounted
where the environment expects it. -/
def startOptions (cell : Cell) (artifact : Artifact) : StartOptions where
  cell := cell.label
  platform := some cell.architecture.platform
  mounts := [Mount.sealed (Path.parent artifact.path) Environment.artifactMount]
  labels := .ofList
    [("install-matrix.cell", cell.label), ("install-matrix.identity", cell.identity.name)]

/-- What becomes of the cell once its container was asked for. Nothing of a failed start is kept,
as there is no container to give up. -/
def afterStart (p : Pipeline) (artifact : Artifact) :
    Except GatewayError Container → Pipeline
  | .ok container => p.enter (.containerRunning artifact container)
  | .error e =>
    p.failWith (if e.isCancelled then .cancelled else .startError) .containerRunning e.message
      none none

/-- Starts the container from the image, with the directory of the archive mounted. Its labels
name the cell and the identity. -/
def start (p : Pipeline) (artifact : Artifact) (image : ImageTag) : CellProgram Pipeline := do
  return p.afterStart artifact
    (← CellProgram.call (.start image (startOptions p.cell artifact)))

/-- How the steps of a phase ended: all passed, one exited with another code than zero, or one did
not run at all. The last two end the phase. -/
inductive PhaseEnd
  | passed
  /-- A step exited with a code other than zero. -/
  | exited (step : String) (code : Int)
  /-- A step did not run; the container's logs, if they could be had. -/
  | undispatched (step : String) (error : GatewayError) (logs : Option String)

/-- The record of a command that ran, whatever its exit code. The record of a command that did not
start has none. -/
def ranRecord (step : PhaseStep) (o : CommandOutput) : StepRecord where
  name := step.name
  command := step.command.script
  user := step.command.user
  exitCode := some o.exitCode
  stdout := o.stdout
  stderr := o.stderr
  durationMs := o.milliseconds

/-- The record of a command that did not run. The error stands where its output would stand, and
the time is what the attempt took. -/
def undispatchedRecord (step : PhaseStep) (e : GatewayError) (durationMs : Nat) :
    StepRecord where
  name := step.name
  command := step.command.script
  user := step.command.user
  exitCode := none
  stdout := ""
  stderr := e.message
  durationMs := durationMs

/-- Runs steps one after the other until one does not exit with code zero. A step that did not run
is followed by a call for the container's logs. -/
def runSteps (container : Container) :
    List PhaseStep → CellProgram (List StepRecord × PhaseEnd)
  | [] => pure ([], .passed)
  | step :: rest => do
    let before ← CellProgram.observe
    match ← CellProgram.call (.exec container step.command) with
    | .ok output =>
      if output.exitCode = 0 then
        let (records, ending) ← runSteps container rest
        return (ranRecord step output :: records, ending)
      else return ([ranRecord step output], .exited step.name output.exitCode)
    | .error e =>
      -- The command may have run or not. The logs are all there is to see of it, and an
      -- error in their place is dropped.
      let after ← CellProgram.observe
      let logs ← CellProgram.call (.logs container)
      return ([undispatchedRecord step e (millisecondsBetween before.clock after.clock)],
        .undispatched step.name e logs.toOption)

/-- The stage of an identity's phase. A failure in the phase is reported at this stage. -/
def phaseStage : Identity → Stage
  | .root => .rootPhase
  | .user => .userPhase

/-- The state after an identity's phase that passed. The phase of root leads on to that of the
user account, which is passed through by a cell of root. -/
def afterPhase (i : Identity) (artifact : Artifact) (container : Container) : CellState :=
  match i with
  | .root => .rootPhase artifact container
  | .user => .userPhase artifact container

/-- What becomes of the cell once the steps of its phase have ended. The records are kept in each
case, and a failed cell keeps its container for the closing. -/
def endPhase (p : Pipeline) (i : Identity) (artifact : Artifact) (container : Container)
    (records : List StepRecord) (ending : PhaseEnd) : Pipeline :=
  let p := { p with phases := p.phases ++ [PhaseRecord.mk i records] }
  match ending with
  | .passed => p.enter (afterPhase i artifact container)
  | .exited step code =>
    p.failWith (.install i) (phaseStage i)
      (i.name ++ " " ++ step ++ " step exited with " ++ toString code) none (some container)
  | .undispatched step e logs =>
    p.failWith (if e.isCancelled then .cancelled else .infrastructureError) (phaseStage i)
      (i.name ++ " " ++ step ++ " step: " ++ e.message) logs (some container)

/-- Runs the phase of an identity. The phase of the other identity is passed
through without a call. -/
def runPhase (ctx : RunContext) (p : Pipeline) (i : Identity) (artifact : Artifact)
    (container : Container) : CellProgram Pipeline :=
  if p.cell.identity = i then do
    let (records, ending) ← runSteps container
      (Install.phaseSteps i artifact.fileName ctx.settings.installer ctx.settings.testUser)
    return p.endPhase i artifact container records ending
  else pure (p.enter (afterPhase i artifact container))

/-! ### The whole way -/

/-- One step. A cancelled run ends the way, and what the cell holds stays with
it. -/
def advance (ctx : RunContext) (p : Pipeline) : CellProgram Pipeline := do
  let moment ← CellProgram.observe
  -- A cell that has come to its end is not aborted any more.
  if moment.cancelled && !p.state.isTerminal then
    return p.failWith .cancelled p.state.stage.next "run aborted" none p.state.container?
  else
    match p.state with
    | .pending => return p.resolve ctx
    | .artifactResolved artifact => p.build ctx artifact
    | .imageBuilt artifact image => p.start artifact image
    | .containerRunning artifact container => p.runPhase ctx .root artifact container
    | .rootPhase artifact container => p.runPhase ctx .user artifact container
    | .userPhase _ container => return p.enter (.completed container)
    | .completed _ => return p
    | .failed _ _ => return p

/-- Up to `steps` steps, fewer when the way ends. The bound only makes the recursion plain:
`drive` gives more than a cell can use. -/
def driveFor (ctx : RunContext) : Nat → Pipeline → CellProgram Pipeline
  | 0, p => pure p
  | steps + 1, p =>
    if p.state.isTerminal then pure p
    else do
      let p ← p.advance ctx
      driveFor ctx steps p

/-- Steps until the way ends. The bound is what remains of the way, which no cell exceeds. -/
def drive (ctx : RunContext) (p : Pipeline) : CellProgram Pipeline :=
  driveFor ctx p.state.remaining p

/-- Verdict and failure that a state stands for. A cell that stopped on its way would count as
failed; no cell that was driven does. -/
def verdict : CellState → CellStatus × Option Failure
  | .completed _ => (.pass, none)
  | .failed failure _ => (.fail, some failure)
  | s =>
    (.fail, some ⟨.infrastructureError, s.stage,
      "pipeline stopped before reaching a terminal state", none⟩)

/-- The cell's result at a clock reading. Image and container are named as far as the cell came,
also when it failed. -/
def result (p : Pipeline) (clock : Nat) : CellResult where
  cell := p.cell
  status := (verdict p.state).1
  startedAt := .ofNanoseconds p.startedAt
  durationMs := millisecondsBetween p.startedAt clock
  artifact := p.artifact
  image := p.image.map ImageTag.text
  container := p.state.container?.map Container.name
  trace := p.trace
  phases := p.phases
  failure := (verdict p.state).2
  skipReason := none

/-- Gives the container up, if there is one: it is left running when the settings say so, and
removed otherwise. What the removal comes to is not looked at. -/
def release (ctx : RunContext) (p : Pipeline) : CellProgram Unit :=
  match p.state.container? with
  | none => pure ()
  | some container =>
    if ctx.settings.retainContainers then CellProgram.call (.retain container)
    else do
      -- A removal that fails is left to the final sweep.
      let _ ← CellProgram.call (.remove container)
      return ()

/-- Why a cell was not run when its run was cancelled before it had a permit. The result gives it
as the reason of the skip. -/
def abortReason : String := "run aborted"

/-- The life of a cell that may run: it goes its way, hands in its result, and
only then releases its container. In a cancelled run it is skipped. -/
def task (ctx : RunContext) (cell : Cell) : CellProgram Unit := do
  let moment ← CellProgram.observe
  if moment.cancelled then
    CellProgram.record (.skipped cell abortReason (.ofNanoseconds moment.clock))
  else
    let p ← (create cell moment.clock).drive ctx
    let last ← CellProgram.observe
    -- Handed in before the release, the result outlives a release that breaks off.
    CellProgram.record (p.result last.clock)
    p.release ctx

end Pipeline

end InstallMatrix
