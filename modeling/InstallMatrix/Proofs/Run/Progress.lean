import InstallMatrix.Proofs.Run.Journal
import Mathlib.Algebra.GroupWithZero.Nat

/-!
# `InstallMatrix.Proofs.Run.Progress`: every run comes to its end

A run stops for two reasons only: it is finished, or nobody answers a call. The two
main statements are:

* `exists_move`: in a state that is not finished some event may happen, and that
  without cancelling the run. Here a free permit matters: there is at least one.
* `moves_le`: a run of a plan with `n` entries has at most `61 * n + 1` events, not
  counting cancellations.

The second rests on `potential_lt`: every event but a cancellation lowers the
`potential` of the state. A task that runs counts for the height of what it has left
to do, and `within_task` bounds that height for all cells.
-/

set_option autoImplicit false

namespace InstallMatrix

open CellProgram
open Program (Within height height_le height_answer_lt)

namespace Pipeline

variable {ctx : RunContext}

/-! ### The length of a life -/

/-- Each step of a phase takes a look and a call, and the last one a look and a call
more. -/
theorem within_runSteps (container : Container) (steps : List PhaseStep) :
    Within (2 * steps.length + 2) (runSteps container steps) := by
  induction steps with
  | nil => exact (Within.pure _).mono (Nat.zero_le _)
  | cons step rest ih =>
    have bound : 2 * (step :: rest).length + 2 = 1 + (1 + (2 * rest.length + 2)) := by
      rw [List.length_cons]
      omega
    rw [bound]
    refine (Within.question CellQuestion.observe).bind fun before => ?_
    refine (Within.question (CellQuestion.call _)).bind fun reply => ?_
    cases reply with
    | ok output =>
      -- Only after a command that exited with zero do the others follow.
      simp only
      split
      · exact ih.bind fun _ => .pure _
      · exact (Within.pure _).mono (Nat.zero_le _)
    | error e =>
      refine Within.mono (m := 1 + (1 + 0)) ?_ (by omega)
      refine (Within.question CellQuestion.observe).bind fun after => ?_
      exact (Within.question (CellQuestion.call _)).bind fun logs => .pure _

/-- A phase has at most three commands with a look before each, and at its end a look and a call
for the logs. -/
theorem within_runPhase (p : Pipeline) (i : Identity) (artifact : Artifact)
    (container : Container) : Within 8 (p.runPhase ctx i artifact container) := by
  unfold runPhase
  split
  · exact (within_runSteps container _).bind fun _ => .pure _
  · exact (Within.pure _).mono (Nat.zero_le _)

/-- A build is one question. -/
theorem within_build (p : Pipeline) (artifact : Artifact) : Within 1 (p.build ctx artifact) := by
  unfold build
  split
  · exact (Within.pure _).mono (Nat.zero_le _)
  · exact (Within.question (CellQuestion.call _)).bind fun _ => .pure _

/-- A start is one question. -/
theorem within_start (p : Pipeline) (artifact : Artifact) (image : ImageTag) :
    Within 1 (p.start artifact image) :=
  (Within.question (CellQuestion.call _)).bind fun _ => .pure _

/-- An advance is a look and what the state calls for, of which a phase is the longest. -/
theorem within_advance (p : Pipeline) : Within 9 (p.advance ctx) := by
  refine (Within.question CellQuestion.observe).bind (n := 8) fun moment => ?_
  have still (q : Pipeline) : Within 8 (pure q : CellProgram Pipeline) :=
    (Within.pure q).mono (Nat.zero_le _)
  -- The longest step is a phase. A step without one makes a single call at most.
  split
  · exact still _
  · split
    case h_1 => exact still _
    case h_2 artifact _ => exact (within_build p artifact).mono (by omega)
    case h_3 artifact image _ => exact (within_start p artifact image).mono (by omega)
    case h_4 => exact within_runPhase p _ _ _
    case h_5 => exact within_runPhase p _ _ _
    case h_6 => exact still _
    case h_7 => exact still _
    case h_8 => exact still _

/-- Several advances are bounded by their number times the bound of one. -/
theorem within_driveFor (n : Nat) (p : Pipeline) : Within (9 * n) (driveFor ctx n p) := by
  induction n generalizing p with
  | zero => exact .pure _
  | succ n ih =>
    unfold driveFor
    split
    · exact (Within.pure _).mono (Nat.zero_le _)
    · rw [show 9 * (n + 1) = 9 + 9 * n by omega]
      exact (within_advance p).bind ih

/-- A release is one call, or none where there is no container. -/
theorem within_release (p : Pipeline) : Within 1 (p.release ctx) := by
  unfold release
  split
  · exact (Within.pure _).mono (Nat.zero_le _)
  · split
    · exact .question (CellQuestion.call _)
    · exact (Within.question (CellQuestion.call _)).bind fun _ => .pure _

/-- More questions than any cell asks in its life. The bound is added up from the parts of the
program and is not the least one. -/
def lifeBound : Nat := 58

/-- No cell asks more than `lifeBound` questions, whatever it is answered. The commands of a phase
are the only loop, and their number is fixed. -/
theorem within_task (cell : Cell) : Within lifeBound (task ctx cell) := by
  rw [task_eq]
  -- A look, six steps of nine questions, a look, the result and the release.
  refine (Within.question CellQuestion.observe).bind (n := 57) fun moment => ?_
  split
  · exact (Within.question (CellQuestion.record _)).mono (by omega)
  · refine (within_driveFor 6 _).bind (n := 3) fun p => ?_
    refine (Within.question CellQuestion.observe).bind (n := 2) fun last => ?_
    exact (Within.question (CellQuestion.record _)).bind (n := 1) fun _ => within_release p

end Pipeline

/-- Every event but a cancellation is a move of the run. Cancellations may be repeated, so they
are not counted. -/
def RunEvent.isMove : RunEvent → Bool
  | .cancel => false
  | _ => true

namespace RunState

open Pipeline (lifeBound within_task)

variable {s t : RunState} {e : RunEvent}

/-! ### The potential -/

/-- The moves a task in this status may have ahead. For a running task they are counted from what
is left of its program. -/
noncomputable def need : TaskStatus → Nat
  | .waiting => lifeBound + 2
  | .running rest => rest.height + 1
  | .done => 0
  | .panicked => 0

/-- The moves a run may have ahead: those of the plan, those of the tasks, and the one that
finishes it. -/
noncomputable def potential (s : RunState) : Nat :=
  (lifeBound + 3) * s.planned.length + (s.tasks.map fun t => need t.status).sum
    + if s.finished then 0 else 1

/-- In the beginning every entry of the plan may still cost a whole task and the taking up of it,
and there is the one event that finishes the run. -/
theorem potential_start (context : RunContext) (plan : List PlannedCell) (cancelled : Bool) :
    (start context plan cancelled).potential = 61 * plan.length + 1 := rfl

/-- A task needs no more than the height of what is left of its program, and one event to end. -/
theorem need_statusOf_le (rest : CellProgram Unit) : need (statusOf rest) ≤ rest.height + 1 := by
  cases rest with
  | pure u => exact Nat.zero_le _
  | ask q next => exact Nat.le_refl _

/-- An element replaced by one that counts for less lowers the sum. -/
theorem sum_map_modify_lt {α : Type} {l : List α} {i : Nat} {a : α} {f : α → α} {g : α → Nat}
    (found : l[i]? = some a) (lt : g (f a) < g a) :
    ((l.modify i f).map g).sum < (l.map g).sum := by
  induction l generalizing i with
  | nil => cases found
  | cons b l ih =>
    cases i with
    | zero =>
      cases found
      simpa using lt
    | succ i =>
      have tail := ih found
      simpa using tail

/-- With the run unfinished as before, plan and tasks decide. -/
theorem potential_lt_of_eq_finished (finished : t.finished = s.finished)
    (less : (lifeBound + 3) * t.planned.length + (t.tasks.map fun t => need t.status).sum
      < (lifeBound + 3) * s.planned.length + (s.tasks.map fun t => need t.status).sum) :
    t.potential < s.potential := by
  unfold potential
  rw [finished]
  exact Nat.add_lt_add_right less _

/-- A run in which one task came nearer to its end and nothing else was gained. -/
theorem potential_setStatus_lt {i : Nat} {task : Task} {status : TaskStatus}
    (found : s.tasks[i]? = some task) (less : need status < need task.status)
    (planned : t.planned = s.planned) (finished : t.finished = s.finished)
    (tasks : t.tasks = (s.setStatus i status).tasks) : t.potential < s.potential := by
  refine potential_lt_of_eq_finished finished ?_
  rw [planned, tasks]
  exact Nat.add_lt_add_left (sum_map_modify_lt found less) _

/-- What a running task has left to do is bounded, for it is part of a whole task. -/
theorem Faithful.within (h : Faithful s) {i : Nat} {cell : Cell} {rest : CellProgram Unit}
    (found : s.tasks[i]? = some ⟨cell, .running rest⟩) : Within lifeBound rest := by
  obtain ⟨⟨log, path, -⟩, -⟩ := h.follows found
  exact (within_task cell).along path

/-- An answered question brings its task nearer to its end. -/
theorem Faithful.need_answer_lt (h : Faithful s) {i : Nat} {cell : Cell} {q : CellQuestion}
    {next : CellAnswer q → CellProgram Unit}
    (found : s.tasks[i]? = some ⟨cell, .running (.ask q next)⟩) (a : CellAnswer q) :
    need (statusOf (next a)) < need (.running (.ask q next)) := by
  have lower := height_answer_lt (h.within found) a
  have least := need_statusOf_le (next a)
  show _ < (Program.ask q next).height + 1
  omega

/-- Every move lowers the potential. The cases are the events, and each of them is paid for by the
task it moves or by the entry it takes up. -/
theorem potential_lt (h : Faithful s) (happens : Happens s e t) (move : e.isMove = true) :
    t.potential < s.potential := by
  cases happens with
  | @take entry planned clock next =>
    cases entry with
    | run cell =>
      -- The entry counted for one more than its waiting task does.
      refine potential_lt_of_eq_finished rfl ?_
      have waits : need .waiting = lifeBound + 2 := rfl
      rw [next, List.length_cons, Nat.mul_succ]
      simp only [takeUp, List.map_append, List.sum_append, List.map_cons, List.map_nil,
        List.sum_cons, List.sum_nil, waits]
      omega
    | skip cell reason =>
      refine potential_lt_of_eq_finished rfl ?_
      rw [next, List.length_cons, Nat.mul_succ]
      simp only [takeUp, record, note]
      omega
  | @grant i cell waits free =>
    refine potential_setStatus_lt waits ?_ rfl rfl rfl
    -- A waiting task counts for more than the height of any cell's program.
    have least := need_statusOf_le (Pipeline.task s.context cell)
    have height : (Pipeline.task s.context cell).height ≤ lifeBound := height_le (within_task cell)
    show _ < lifeBound + 2
    omega
  | abort clock waits cancelled =>
    refine potential_setStatus_lt waits ?_ rfl rfl rfl
    show 0 < lifeBound + 2
    omega
  | look clock stands => exact potential_setStatus_lt stands (h.need_answer_lt stands _) rfl rfl rfl
  | handIn clock stands =>
    exact potential_setStatus_lt stands (h.need_answer_lt stands ()) rfl rfl rfl
  | reply answer stands =>
    exact potential_setStatus_lt stands (h.need_answer_lt stands _) rfl rfl rfl
  | abandon stands cancelled =>
    exact potential_setStatus_lt stands (h.need_answer_lt stands _) rfl rfl rfl
  | panic stands =>
    refine potential_setStatus_lt stands ?_ rfl rfl rfl
    exact Nat.succ_pos _
  | cancel => cases move
  | finish removed clock taken ended unfinished =>
    simp [potential, complete, unfinished]

/-- The moves of a run are paid for by its potential. -/
theorem countP_isMove_add_potential_le {events : List RunEvent} (h : Faithful s)
    (run : Reaches s events t) : events.countP RunEvent.isMove + t.potential ≤ s.potential := by
  induction run with
  | here s => simp
  | @step s t u e events first rest ih =>
    -- The induction is on the run, and the state it starts from has to stay faithful.
    have happens := happens_of_step first
    have later := ih (faithful_step h happens)
    rw [List.countP_cons]
    cases move : e.isMove with
    | true =>
      have lower := potential_lt h happens move
      simp only [if_true]
      omega
    | false =>
      -- A cancellation is free: it touches neither plan nor tasks.
      have same : t.potential = s.potential := by
        cases e <;> cases move
        cases first
        rfl
      simp only [Bool.false_eq_true, if_false]
      omega

/-- A run of a plan has a bounded number of moves. In the beginning the potential is known, and it
is never negative. -/
theorem moves_le {context : RunContext} {plan : List PlannedCell} {cancelled : Bool}
    {events : List RunEvent} (run : Reaches (start context plan cancelled) events s) :
    events.countP RunEvent.isMove ≤ 61 * plan.length + 1 := by
  have paid := countP_isMove_add_potential_le (faithful_start context plan cancelled) run
  rw [potential_start] at paid
  omega

/-! ### Nothing gets stuck -/

/-- A task that holds a permit can go on: it looks, hands in or is answered. -/
theorem exists_move_of_running (h : Faithful s) {i : Nat} {cell : Cell} {rest : CellProgram Unit}
    (found : s.tasks[i]? = some ⟨cell, .running rest⟩) :
    ∃ e t, e.isMove = true ∧ Happens s e t := by
  obtain ⟨-, -, q, next, rfl⟩ := h.follows found
  cases q with
  | observe => exact ⟨_, _, rfl, .look 0 found⟩
  | call c => exact ⟨_, _, rfl, .reply (Call.failed (.timeout "")) found⟩
  | record r => exact ⟨_, _, rfl, .handIn 0 found⟩

/-- There is at least one permit. -/
theorem permits_pos (settings : RunSettings) : 0 < settings.permits :=
  Nat.lt_of_lt_of_le Nat.one_pos (Nat.le_max_left 1 _)

/-- A run that is not finished can go on without being cancelled. If no task can move, none is
left and the run can be finished. -/
theorem exists_move (h : Faithful s) (unfinished : s.finished = false) :
    ∃ e t, e.isMove = true ∧ Happens s e t := by
  -- An entry is left, or a task is running, or one waits, or the run can be finished.
  cases next : s.planned with
  | cons entry planned => exact ⟨_, _, rfl, .take 0 next⟩
  | nil =>
    by_cases running : ∃ (i : Nat) (cell : Cell) (rest : CellProgram Unit),
        s.tasks[i]? = some ⟨cell, .running rest⟩
    · obtain ⟨i, cell, rest, found⟩ := running
      exact exists_move_of_running h found
    · by_cases waiting : ∃ (i : Nat) (cell : Cell), s.tasks[i]? = some ⟨cell, .waiting⟩
      · obtain ⟨i, cell, found⟩ := waiting
        -- Nobody holds a permit, so there is one to be had.
        have free : s.inUse = 0 := by
          refine List.countP_eq_zero.mpr fun task mem holds => ?_
          obtain ⟨j, found⟩ := List.getElem?_of_mem mem
          obtain ⟨cell, status⟩ := task
          cases status with
          | running rest => exact running ⟨j, cell, rest, found⟩
          | waiting | done | panicked => cases holds
        have permit : s.inUse < s.context.settings.permits := by
          rw [free]
          exact permits_pos _
        exact ⟨_, _, rfl, .grant found permit⟩
      · refine ⟨_, _, rfl, .finish (.ok 0) 0 next (fun task mem => ?_) unfinished⟩
        obtain ⟨j, found⟩ := List.getElem?_of_mem mem
        obtain ⟨cell, status⟩ := task
        cases status with
        | waiting => exact absurd ⟨j, cell, found⟩ waiting
        | running rest => exact absurd ⟨j, cell, rest, found⟩ running
        | done => rfl
        | panicked => rfl

end RunState

end InstallMatrix
