import InstallMatrix.Command.Basic
import InstallMatrix.CommandLine.Basic
import InstallMatrix.Report.Basic
import InstallMatrix.Run.Execution

/-!
# `InstallMatrix.Command.Run`: running the matrix

`run` plans the cells, looks for an engine, and carries the run out over the
engine's program. The first interruption cancels the run; its report is still
printed. Nothing is asked of an engine before the filter was found to select
something.

Definitions: `settingsOf`, `EngineDesk`, `answerRun`, `saveResults`, `run`.
-/

set_option autoImplicit false

namespace InstallMatrix.Command

open Terminal

/-- The settings of a configuration with what the command line changes. An option that is not
given leaves the setting as it is. -/
def settingsOf (s : RunSettings) (o : RunOptions) : RunSettings :=
  { s with
    artifactDir := o.artifacts.getD s.artifactDir
    maxParallel := match o.parallel with
      | some n => max n 1
      | none => s.maxParallel
    retainContainers := s.retainContainers || o.keepContainers }

/-! ### Calls of a run -/

/-- What is remembered between the calls of a run: the containers to remove in the end, and
whether the user was told of the stop. -/
structure EngineDesk where
  tracked : Tracked
  /-- Was the program asked to stop. -/
  interrupted : Bool
  deriving DecidableEq

/-- A computation that serves a run. -/
abbrev DeskProgram (α : Type) : Type := StateT EngineDesk HostProgram α

/-- Was the program asked to stop just now. The first time there is a warning, and after that it
goes without saying. -/
def noticeInterruption (colour : Bool) : DeskProgram Bool := do
  if ← (Program.question HostQuestion.wasInterrupted : HostProgram Bool) then
    let desk ← get
    if !desk.interrupted then
      Host.print [warning colour "Interrupted, stopping running cells and removing containers..."]
      set { desk with interrupted := true }
    return true
  else return false

/-- Serves a call. One that ends with the run's cancellation is not begun in a
cancelled run, and is given up when the program is asked to stop meanwhile. -/
def serveCall (colour : Bool) (r : EngineGateway) (cancelled : Bool) (c : Call) :
    DeskProgram (Served c) := do
  match cancelled, c.interrupted? with
  | true, some reply => return ⟨false, .replied reply⟩
  | _, interruption => do
    let desk ← get
    let (reply, tracked) ← Host.driveEngine (r.serve desk.tracked c)
    set { desk with tracked }
    if ← noticeInterruption colour then
      return ⟨true, if interruption.isSome then .held else .replied reply⟩
    else return ⟨false, .replied reply⟩

/-- Answers a question of a run by asking the machine. The final sweep removes what is still
tracked. -/
def answerRun (colour : Bool) (r : EngineGateway) : (q : RunQuestion) → DeskProgram (RunAnswer q)
  | .clock => (Program.question HostQuestion.clock : HostProgram Nat)
  | .serve cancelled c => serveCall colour r cancelled c
  | .sweep => do
    let desk ← get
    let (removed, tracked) ← Host.driveEngine (r.removeAll desk.tracked)
    set { desk with tracked }
    return ⟨← noticeInterruption colour, .ok removed⟩

/-! ### The command -/

/-- Writes the results to a file, in the form of the JSON report. The command fails if it cannot
be written. -/
def saveResults (path : String) (s : ResultSet) : HostProgram (Except CommandError Unit) := do
  return (← Program.question (HostQuestion.writeFile path (Report.contents s))).mapError
    (CommandError.unwritable path)

/-- The engine this machine has, found by the sockets that its environment names and by the usual
ones. -/
def detectEngine : HostProgram (Except GatewayError DetectedEngine) := do
  let dockerHost ← Host.getVariable "DOCKER_HOST"
  let runtimeDir ← Host.runtimeDirectory
  let home ← Host.homeDirectory
  Engine.detect (fun path => Program.question (HostQuestion.isThere path))
    (fun path => Program.question (HostQuestion.answersPing path))
    (Engine.candidates dockerHost runtimeDir home)

/-- What is planned, told before the run, so that a reader knows how much is to come. -/
def announcement (colour : Bool) (settings : RunSettings) (plan : List PlannedCell) : Printout :=
  info colour ("Running " ++ toString (plan.countP PlannedCell.isRun) ++ " of "
      ++ toString plan.length ++ " cell(s) with artifacts from " ++ settings.artifactDir)
    :: (if settings.retainContainers then
      [warning colour "Containers will be kept after the run"] else [])

/-- The exit status of a finished run. An interruption goes before what the results say. -/
def statusOf (s : ResultSet) (interrupted : Bool) : ExitStatus :=
  if interrupted then .interrupted
  else if s.exitCode = 0 then .success else .cellFailure

/-- Carries a planned run out on an engine that can be called, and reports. Failed cells, an
interruption and a file that cannot be written all show in the exit status. -/
def carryOut (colour : Bool) (o : RunOptions) (settings : RunSettings) (catalog : Catalog)
    (plan : List PlannedCell) (r : EngineGateway) : HostProgram CommandResult := do
  Host.print (announcement colour settings plan)
  let listing ← Program.question (HostQuestion.listDirectory settings.artifactDir)
  let clock ← Program.question HostQuestion.clock
  let start := RunState.launch ⟨catalog, ⟨settings.artifactDir, listing⟩, settings⟩ plan false
    clock
  let (final, desk) ← (Program.perform (answerRun colour r) start.execute).run ⟨[], false⟩
  Host.print (Report.printout colour o.format final.results)
  -- The report is out before the file is written, so a failure there does not lose it.
  let saved ← match o.resultsFile with
    | some path => saveResults path final.results
    | none => pure (.ok ())
  return saved.map fun () => statusOf final.results (final.cancelled || desk.interrupted)

/-- Runs the cells a filter selects: plan, engine, run, report. Each step is only taken if the one
before succeeded. -/
def run (colour : Bool) (c : Configuration) (o : RunOptions) : HostProgram CommandResult := do
  let settings := settingsOf c.run o
  let planned : Except CommandError (Catalog × List PlannedCell) := do
    let catalog ← c.catalog
    return (catalog, ← (catalog.plan o.filter).mapError .catalog)
  -- Nothing is asked of an engine before there is a plan.
  match planned with
  | .error e => return .error e
  | .ok (catalog, plan) =>
    match ← detectEngine with
    | .error e => return .error (.gateway e)
    | .ok engine =>
      Host.print [info colour ("Using " ++ engine.kind.name ++ " at " ++ engine.socket)]
      let runId ← Program.question HostQuestion.runId
      let gateway : EngineGateway := ⟨engine, c.engine.engineConfig runId⟩
      match ← Host.driveEngine gateway.verify with
      | .error e => return .error (.gateway e)
      | .ok () => carryOut colour o settings catalog plan gateway

end InstallMatrix.Command
