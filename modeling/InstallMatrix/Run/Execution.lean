import InstallMatrix.Gateway.Outcome
import InstallMatrix.Run.State

/-!
# `InstallMatrix.Run.Execution`: carrying a run out

`execute` carries a run out by choosing events one after the other and asking for
what the events need: clock readings, served calls and the final sweep. A task
goes on as far as it can before another one gets a permit; a task whose call is
held makes room for the next. Every choice is an event `RunState.step` allows.
-/

set_option autoImplicit false

namespace InstallMatrix

/-- What carrying out a run needs from its surroundings. The run itself decides what happens next.
-/
inductive RunQuestion
  /-- A clock reading. -/
  | clock
  /-- Serve a call of a run that is or is not cancelled. -/
  | serve (cancelled : Bool) (c : Call)
  /-- Remove what the run left behind. -/
  | sweep

/-- The answers to each question. A call may be answered, held up or broken off. -/
@[reducible]
def RunAnswer : RunQuestion → Type
  | .clock => Nat
  | .serve _ c => Served c
  | .sweep => Swept

/-- A computation that carries out a run. It is one of the ways in which the run could go. -/
abbrev RunProgram (α : Type) : Type := Program RunAnswer α

namespace RunState

/-- The state after an event, or the same state if the event may not happen. What carries a run
out only has events happen that may. -/
def happen (s : RunState) (e : RunEvent) : RunState := (s.step e).getD s

/-- The first task that passes the test, with its place. Tasks are served in this order. -/
def firstTask (s : RunState) (test : Nat → Task → Bool) : Option (Nat × Task) :=
  ((List.range s.tasks.length).zip s.tasks).find? fun p => test p.1 p.2

/-- Is the task waiting for a permit. Only such a task is granted one or gives up. -/
def isWaiting (t : Task) : Bool :=
  match t.status with
  | .waiting => true
  | _ => false

/-- The event that answers a held call of a cancelled run. Nothing else ends the wait. -/
def resume? (s : RunState) (i : Nat) : Option RunEvent :=
  match s.tasks[i]? with
  | some ⟨_, .running (.ask (.call (.build _)) _)⟩ => some (.abandon i)
  | some ⟨_, .running (.ask (.call c) _)⟩ =>
    c.interrupted?.map fun reply => .reply i (c.answering reply)
  | _ => none

/-- The state after a call was served, and the held tasks. A call that is held leaves the state as
it is. -/
def afterServe (s : RunState) (held : List Nat) (i : Nat) (c : Call) (served : Served c) :
    RunState × List Nat :=
  let s := if served.cancels then s.happen .cancel else s
  match served.outcome with
  | .replied reply => (s.happen (.reply i (c.answering reply)), held)
  | .panicked => (s.happen (.panic i), held)
  | .held => (s, held ++ [i])

/-- Carries a run on for up to `fuel` events, `held` being the tasks whose calls
are held. -/
def executeFor : Nat → RunState → List Nat → RunProgram RunState
  | 0, s, _ => pure s
  | fuel + 1, s, held =>
    -- A task whose call is held cannot go on by itself and is passed over.
    match s.firstTask fun i t => t.isRunning && !held.contains i with
    | some (i, ⟨_, .running (.ask (.call c) _)⟩) => do
      let served ← Program.question (RunQuestion.serve s.cancelled c)
      let (s, held) := s.afterServe held i c served
      executeFor fuel s held
    | some (i, _) => do
      let clock ← Program.question RunQuestion.clock
      executeFor fuel (s.happen (.proceed i clock)) held
    | none =>
      match s.firstTask fun _ t => isWaiting t with
      | some (i, _) =>
        if s.cancelled then do
          let clock ← Program.question RunQuestion.clock
          executeFor fuel (s.happen (.abort i clock)) held
        else if s.inUse < s.context.settings.permits then
          executeFor fuel (s.happen (.grant i)) held
        else pure s
      | none =>
        -- Nothing is left but held calls, and these are answered in a cancelled run only.
        match held with
        | i :: held =>
          match s.resume? i with
          | some e => if s.cancelled then executeFor fuel (s.happen e) held else pure s
          | none => pure s
        | [] => do
          let swept ← Program.question RunQuestion.sweep
          let s := if swept.cancels then s.happen .cancel else s
          let clock ← Program.question RunQuestion.clock
          return s.happen (.finish swept.removed clock)

/-- More events than any run of these tasks has. The bound only makes the recursion plain. -/
def eventBound (s : RunState) : Nat := 64 * s.tasks.length + 1

/-- Carries a run out, up to and with its final sweep. -/
def execute (s : RunState) : RunProgram RunState := executeFor s.eventBound s []

end RunState

end InstallMatrix
