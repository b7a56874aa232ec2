import InstallMatrix.Results.Summary
import InstallMatrix.Run.Pipeline

/-!
# `InstallMatrix.Run.State`: many cells at once

A run takes up the entries of its plan one by one. It holds one task per cell that
is to be run and lets as many of them go at once as it has permits.
`RunState.step` says which `RunEvent`s may happen in a state and what each of them
does; a run is any sequence of events the states allow, so every interleaving of
the cells with each other and with the taking up of the plan, every answer of the
gateway, every panic and every moment of cancellation is one such sequence. The
journal lists what has happened.

A token reading and the call it guards are one event: a task that has been
answered stands at its next question, and a call it stands at has begun.

Definitions: `Task`, `RunState`, `RunState.start`, `RunState.launch`, `RunEvent`,
`RunState.step`, `RunState.Reaches`.
-/

set_option autoImplicit false

namespace InstallMatrix

/-- How far a task has come. A task that broke off has let go of its permit as well. -/
inductive TaskStatus
  /-- It has no permit yet. -/
  | waiting
  /-- It holds a permit and has this left to do. -/
  | running (rest : CellProgram Unit)
  | done
  /-- It broke off in the middle of a call. -/
  | panicked

/-- One cell that is to be run. Tasks are known by the order in which they were taken up. -/
structure Task where
  cell : Cell
  status : TaskStatus

namespace Task

/-- Does the task hold a permit. It does so from the grant to its end. -/
def isRunning (t : Task) : Bool :=
  match t.status with
  | .running _ => true
  | _ => false

/-- Has the task come to an end, with its program or by breaking off. -/
def isEnded (t : Task) : Bool :=
  match t.status with
  | .done => true
  | .panicked => true
  | _ => false

end Task

/-- What has happened in a run. Tasks are given by their place in the plan's list
of cells to run. -/
inductive RunEntry
  | answered (task : Nat) (call : Call) (reply : call.Reply)
  /-- A result was recorded, by a task or by the run itself. -/
  | recorded (task : Option Nat) (result : CellResult)
  | panicked (task : Nat) (call : Call)
  | cancelled
  | swept (removed : Except GatewayError Nat)

/-- A run under way. The results are what the run returns, and the journal is what proofs read the
history from. -/
structure RunState where
  context : RunContext
  /-- Was the run cancelled. -/
  cancelled : Bool
  /-- The entries of the plan that are still to be taken up. -/
  planned : List PlannedCell
  tasks : List Task
  results : ResultSet
  journal : List RunEntry
  /-- Have the containers left behind been removed and the results completed. -/
  finished : Bool

/-- What may happen next in a run. The tasks go on one event at a time, in any order. -/
inductive RunEvent
  /-- The next entry of the plan is taken up, at a clock reading. -/
  | take (clock : Nat)
  /-- A waiting task takes a free permit. -/
  | grant (task : Nat)
  /-- A waiting task of a cancelled run gives up, at a clock reading. -/
  | abort (task : Nat) (clock : Nat)
  /-- A task looks at the run at a clock reading, or hands in its result. -/
  | proceed (task : Nat) (clock : Nat)
  /-- The call of a task is answered. -/
  | reply (task : Nat) (answer : (c : Call) → c.Reply)
  /-- In a cancelled run, a task gives up the build it waits for. -/
  | abandon (task : Nat)
  /-- A task breaks off in its call. -/
  | panic (task : Nat)
  /-- The run is cancelled. -/
  | cancel
  /-- The whole plan has been taken up and all tasks have ended; what they left
  behind is removed, and the results are completed, at a clock reading. -/
  | finish (removed : Except GatewayError Nat) (clock : Nat)

namespace RunState

/-- A run before anything of its plan has been taken up. It may have been cancelled already. -/
def start (context : RunContext) (plan : List PlannedCell) (cancelled : Bool) : RunState where
  context := context
  cancelled := cancelled
  planned := plan
  tasks := []
  results := .empty
  journal := []
  finished := false

/-- The number of tasks that hold a permit. A waiting task gets one only while it is below the
limit. -/
def inUse (s : RunState) : Nat := s.tasks.countP Task.isRunning

/-- Changes the status of one task. The others stay as they are. -/
def setStatus (s : RunState) (task : Nat) (status : TaskStatus) : RunState :=
  { s with tasks := s.tasks.modify task fun t => { t with status } }

/-- The status of a task with this left to do. With nothing left it is done. -/
def statusOf : CellProgram Unit → TaskStatus
  | .pure () => .done
  | .ask q next => .running (.ask q next)

/-- Adds an entry to the journal. Nothing is ever taken out of it. -/
def note (s : RunState) (e : RunEntry) : RunState := { s with journal := s.journal ++ [e] }

/-- Records a result, and notes in the journal whose it is. -/
def record (s : RunState) (task : Option Nat) (r : CellResult) : RunState :=
  { s with results := s.results.record r }.note (.recorded task r)

/-- Takes an entry of the plan up: a cell that is to be run waits for a permit, any
other is recorded at once. -/
def takeUp (s : RunState) (clock : Nat) : PlannedCell → RunState
  | .run cell => { s with tasks := s.tasks ++ [⟨cell, .waiting⟩] }
  | .skip cell reason => s.record none (.skipped cell reason (.ofNanoseconds clock))

/-- A run whose whole plan was taken up at one clock reading, before any task got a
permit. -/
def launch (context : RunContext) (plan : List PlannedCell) (cancelled : Bool) (clock : Nat) :
    RunState :=
  plan.foldl (fun s entry => s.takeUp clock entry) (start context [] cancelled)

/-- The failure of a cell whose task broke off before its result. It says nothing of where the
task was. -/
def unreported : Failure :=
  ⟨.infrastructureError, .pending, "cell task terminated without a result", none⟩

/-- The cells that were to be run and whose label no result carries. They are compared by label
and not by cell. -/
def unrecorded (s : RunState) : List Cell :=
  let labels := s.results.results.map fun r => r.cell.label
  (s.tasks.map Task.cell).filter fun c => !labels.contains c.label

/-- What an event makes of a state, if it may happen there. There is one clause for each kind of
event, and it names what the event waits for. -/
def step (s : RunState) : RunEvent → Option RunState
  | .take clock =>
    match s.planned with
    | [] => none
    | entry :: planned => some ({ s with planned }.takeUp clock entry)
  | .grant i =>
    match s.tasks[i]? with
    | some ⟨cell, .waiting⟩ =>
      if s.inUse < s.context.settings.permits then
        some (s.setStatus i (statusOf (Pipeline.task s.context cell)))
      else none
    | _ => none
  | .abort i clock =>
    match s.tasks[i]? with
    | some ⟨cell, .waiting⟩ =>
      if s.cancelled then
        some ((s.record (some i)
          (.skipped cell Pipeline.abortReason (.ofNanoseconds clock))).setStatus i .done)
      else none
    | _ => none
  | .proceed i clock =>
    match s.tasks[i]? with
    | some ⟨_, .running (.ask .observe next)⟩ =>
      -- What the task sees of the cancellation is what it is at this very event.
      some (s.setStatus i (statusOf (next ⟨s.cancelled, clock⟩)))
    | some ⟨_, .running (.ask (.record r) next)⟩ =>
      some ((s.record (some i) r).setStatus i (statusOf (next ())))
    | _ => none
  | .reply i answer =>
    match s.tasks[i]? with
    | some ⟨_, .running (.ask (.call c) next)⟩ =>
      some ((s.note (.answered i c (answer c))).setStatus i (statusOf (next (answer c))))
    | _ => none
  | .abandon i =>
    match s.tasks[i]? with
    | some ⟨_, .running (.ask (.call (.build d)) next)⟩ =>
      if s.cancelled then
        let reply : Except GatewayError ImageTag := .error (.cancelled ("build of " ++ d.name))
        some ((s.note (.answered i (.build d) reply)).setStatus i (statusOf (next reply)))
      else none
    | _ => none
  | .panic i =>
    match s.tasks[i]? with
    | some ⟨_, .running (.ask (.call c) _)⟩ =>
      some ((s.note (.panicked i c)).setStatus i .panicked)
    | _ => none
  | .cancel => some ({ s with cancelled := true }.note .cancelled)
  | .finish removed clock =>
    if s.planned.isEmpty && s.tasks.all Task.isEnded && !s.finished then
      -- Labels tell which cells are left out, so the sweep and its answer do not matter here.
      let swept := s.note (.swept removed)
      let completed := swept.unrecorded.foldl
        (fun s cell => s.record none (.failed cell unreported (.ofNanoseconds clock))) swept
      some { completed with finished := true }
    else none

/-- `Reaches s events t`: the events may happen in this order from `s` on, and
then the state is `t`. -/
inductive Reaches : RunState → List RunEvent → RunState → Prop
  | here (s : RunState) : Reaches s [] s
  | step {s t u : RunState} {e : RunEvent} {events : List RunEvent} (first : s.step e = some t)
      (rest : Reaches t events u) : Reaches s (e :: events) u

end RunState

end InstallMatrix
