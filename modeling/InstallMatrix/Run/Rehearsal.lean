import InstallMatrix.Gateway.Memory
import InstallMatrix.Run.Execution

/-!
# `InstallMatrix.Run.Rehearsal`: a run on a gateway without an engine

A `Rehearsal` is a run whose calls are served by a `MemoryGateway`. `Rehearsal.step`
says what may happen in it. Before a call reaches the gateway, it may be answered with
an error in the gateway's place, or its task may break off. The gateway may hold a
command or a build; a held build may come to its end later, and what is still held when
the run is cancelled is given up.

The final sweep of the gateway is one event with the end of the run. It may be made to
fail, and then the gateway does not see it.

Definitions: `Rehearsal`, `Rehearsal.start`, `RehearsalEvent`, `Rehearsal.step`,
`Rehearsal.Reaches`.
-/

set_option autoImplicit false

namespace InstallMatrix

/-- A run and the gateway that serves its calls. Both change together, one event at a time. -/
structure Rehearsal where
  run : RunState
  gateway : MemoryGateway
  /-- The tasks whose call the gateway holds. -/
  held : List Nat

/-- What may happen next in a rehearsal. Errors and panics strike in front of the gateway, which
then does not see the call. -/
inductive RehearsalEvent
  /-- Something happens in the run that is between the run and its tasks alone. -/
  | inner (event : RunEvent)
  /-- The gateway serves the call of a task. -/
  | serve (task : Nat)
  /-- A slow build is asked for. -/
  | begin (task : Nat)
  /-- A slow build comes to its end. -/
  | complete (task : Nat)
  /-- In a cancelled run, a held call or any build is given up. -/
  | giveUp (task : Nat)
  /-- The call of a task is answered with an error before the gateway sees it. -/
  | fail (task : Nat) (error : GatewayError)
  /-- A task breaks off before the gateway sees its call. -/
  | panic (task : Nat)
  /-- The gateway removes what is live, and the run is finished at a clock reading. -/
  | sweep (clock : Nat)
  /-- As `sweep`, with an error in the place of the gateway. -/
  | sweepFails (error : GatewayError) (clock : Nat)

/-- Does the event leave the calls of the run alone. Such an event has no part in the gateway. -/
def RunEvent.isInner : RunEvent → Bool
  | .take _ => true
  | .grant _ => true
  | .abort _ _ => true
  | .proceed _ _ => true
  | .cancel => true
  | _ => false

/-- The call a task stands at, if it stands at one. -/
def RunState.callOf? (s : RunState) (task : Nat) : Option Call :=
  match s.tasks[task]? with
  | some ⟨_, .running (.ask (.call c) _)⟩ => some c
  | _ => none

namespace Rehearsal

/-- A rehearsal before anything has happened. The gateway is fresh, and no call is held. -/
def start (context : RunContext) (plan : List PlannedCell) (cancelled : Bool)
    (behaviour : MemoryBehaviour) : Rehearsal :=
  ⟨.start context plan cancelled, .fresh behaviour, []⟩

/-- The rehearsal after an event of its run. The gateway and the held calls stay as they are. -/
def stepRun (r : Rehearsal) (e : RunEvent) : Option Rehearsal :=
  (r.run.step e).map fun run => { r with run }

/-- May the call of a task be given up once the run is cancelled. A build looks at the
cancellation before it is asked for; a command has to be held. -/
def waits (r : Rehearsal) (task : Nat) : Bool :=
  match r.run.callOf? task with
  | some (.build _) => true
  | some _ => r.held.contains task
  | none => false

/-- What an event makes of a rehearsal, if it may happen there. A call that is held is not served
again. -/
def step (r : Rehearsal) : RehearsalEvent → Option Rehearsal
  | .inner e => if e.isInner then r.stepRun e else none
  | .serve i =>
    match r.run.callOf? i with
    | some c =>
      if r.held.contains i then none
      else
        -- The gateway learns of the cancellation as it is when the call comes in.
        let (outcome, gateway) := r.gateway.serve r.run.cancelled c
        let (run, held) := r.run.afterServe r.held i c ⟨false, outcome⟩
        some ⟨run, gateway, held⟩
    | none => none
  | .begin i =>
    match r.run.callOf? i with
    | some (.build d) =>
      if r.gateway.behaviour.slowBuild && !r.held.contains i then
        some { r with gateway := r.gateway.requestBuild d, held := r.held ++ [i] }
      else none
    | _ => none
  | .complete i =>
    match r.run.callOf? i with
    | some (.build d) =>
      if r.held.contains i then
        let (reply, gateway) := r.gateway.finishBuild d
        stepRun { r with gateway, held := r.held.erase i }
          (.reply i ((Call.build d).answering reply))
      else none
    | _ => none
  | .giveUp i =>
    if r.run.cancelled && r.waits i then
      (r.run.resume? i).bind fun e => stepRun { r with held := r.held.erase i } e
    else none
  | .fail i error =>
    match r.run.callOf? i with
    -- Retaining a container has no error to be answered with.
    | some (.retain _) => none
    | some c =>
      if r.held.contains i then none else r.stepRun (.reply i (c.answering (c.failed error)))
    | none => none
  | .panic i => if r.held.contains i then none else r.stepRun (.panic i)
  | .sweep clock =>
    let (count, gateway) := r.gateway.sweep
    stepRun { r with gateway } (.finish (.ok count) clock)
  | .sweepFails error clock => r.stepRun (.finish (.error error) clock)

/-- `Reaches r events q`: the events may happen in this order from `r` on, and then the
rehearsal is `q`. -/
inductive Reaches : Rehearsal → List RehearsalEvent → Rehearsal → Prop
  | here (r : Rehearsal) : Reaches r [] r
  | step {r q u : Rehearsal} {e : RehearsalEvent} {events : List RehearsalEvent}
      (first : r.step e = some q) (rest : Reaches q events u) : Reaches r (e :: events) u

end Rehearsal

end InstallMatrix
