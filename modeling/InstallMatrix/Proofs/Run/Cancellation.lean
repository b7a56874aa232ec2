import InstallMatrix.Proofs.Run.Account
import InstallMatrix.Proofs.Run.Rehearsal
import InstallMatrix.Proofs.Run.Stopping

/-!
# `InstallMatrix.Proofs.Run.Cancellation`: what a cancelled run still does

Take any moment `s` of a run that is cancelled, and any later moment `t`. `Halted s t` says
what has happened in between: nothing but what winds the run up. `halted_of_reaches` proves
it for every interleaving, every answer and every moment of cancellation.

From `s` on, `Course` tells how one task goes on: along its own program, from where it
stood, seeing the cancellation whenever it looks. `Since` says so of all tasks, and
`since_step` carries it over one event. What a cell does along such a path is known from
`InstallMatrix.Proofs.Run.Stopping`.
-/

set_option autoImplicit false

namespace InstallMatrix

open CellProgram

namespace RunState

variable {s t u : RunState} {e : RunEvent} {i : Nat} {task : Task}

/-! ### The course of one task -/

/-- The task has no permit: it is waiting, or not even taken up. In both cases its whole program
is still before it. -/
def Unpermitted (s : RunState) (i : Nat) (cell : Cell) : Prop :=
  s.tasks[i]? = none ∨ s.tasks[i]? = some ⟨cell, .waiting⟩

/-- `Ahead s i cell p`: the task has `p` before it. This is the whole program of the cell as long
as the task has no permit, and what is left of it afterwards. -/
inductive Ahead (s : RunState) (i : Nat) (cell : Cell) : CellProgram Unit → Prop
  | whole (unpermitted : s.Unpermitted i cell) : Ahead s i cell (Pipeline.task s.context cell)
  | rest {rest : CellProgram Unit} (stands : s.tasks[i]? = some ⟨cell, .running rest⟩) :
      Ahead s i cell rest

/-- How a task went on from `s` to `t`, the run being cancelled: not at all, or along what
it had before it, as far as its status tells. -/
inductive Course (s t : RunState) (i : Nat) (task : Task) : Prop
  | past (found : s.tasks[i]? = some task) (ended : task.isEnded = true) (rests : Rests s t i)
  | waits (unpermitted : s.Unpermitted i task.cell) (waiting : task.status = .waiting)
      (rests : Rests s t i)
  | went {first rest : CellProgram Unit} {log : Program.Transcript CellAnswer}
      (ahead : Ahead s i task.cell first) (path : Program.Path first log rest)
      (off : Program.Allowed SeenOff log) (status : task.status = statusOf rest)
      (deeds : t.deeds i = s.deeds i ++ CellProgram.deeds log) (breaks : t.breaks i = s.breaks i)
  | broke {first : CellProgram Unit} {c : Call} {next : c.Reply → CellProgram Unit}
      {log : Program.Transcript CellAnswer} (ahead : Ahead s i task.cell first)
      (path : Program.Path first log (.ask (.call c) next)) (off : Program.Allowed SeenOff log)
      (status : task.status = .panicked) (deeds : t.deeds i = s.deeds i ++ CellProgram.deeds log)
      (breaks : t.breaks i = s.breaks i ++ [c])

/-- A task that did nothing up to `t` and nothing from there has done nothing at all. -/
theorem Rests.trans (h : Rests s t i) (later : Rests t u i) : Rests s u i :=
  ⟨later.deeds.trans h.deeds, later.breaks.trans h.breaks⟩

/-- A task that did nothing more is where it was, and has come there in the same way. -/
theorem Course.mono (h : Course s t i task) (rests : Rests t u i) : Course s u i task := by
  cases h with
  | past found ended before => exact .past found ended (before.trans rests)
  | waits unpermitted waiting before => exact .waits unpermitted waiting (before.trans rests)
  | went ahead path off status deeds breaks =>
    exact .went ahead path off status (rests.deeds.trans deeds) (rests.breaks.trans breaks)
  | broke ahead path off status deeds breaks =>
    exact .broke ahead path off status (rests.deeds.trans deeds) (rests.breaks.trans breaks)

/-- A status shows the program that is running. -/
theorem statusOf_eq_running {p rest : CellProgram Unit} (h : statusOf p = .running rest) :
    p = rest := by
  cases p with
  | pure u => cases h
  | ask q next =>
    cases h
    rfl

/-- A task that has a program left, or has come to its end, is not waiting for a permit any more.
-/
theorem statusOf_ne_waiting (p : CellProgram Unit) : statusOf p ≠ .waiting := by
  cases p <;> nofun

/-- A waiting task has been waiting, or was taken up meanwhile. In both cases it has done nothing.
-/
theorem Course.of_waiting {cell : Cell} (h : Course s t i ⟨cell, .waiting⟩) :
    s.Unpermitted i cell ∧ Rests s t i := by
  cases h with
  | past found ended => cases ended
  | waits unpermitted waiting rests => exact ⟨unpermitted, rests⟩
  | went ahead path off status => exact absurd status.symm (statusOf_ne_waiting _)
  | broke ahead path off status => cases status

/-- A running task stands somewhere along what it had before it. The log of that path says what it
has done since `s`. -/
theorem Course.of_running {cell : Cell} {rest : CellProgram Unit}
    (h : Course s t i ⟨cell, .running rest⟩) :
    ∃ first log, Ahead s i cell first ∧ Program.Path first log rest ∧
      Program.Allowed SeenOff log ∧ t.deeds i = s.deeds i ++ CellProgram.deeds log ∧
      t.breaks i = s.breaks i := by
  cases h with
  | past found ended => cases ended
  | waits unpermitted waiting => cases waiting
  | @went first rest' log ahead path off status deeds breaks =>
    obtain rfl := statusOf_eq_running status.symm
    exact ⟨first, log, ahead, path, off, deeds, breaks⟩
  | broke ahead path off status => cases status

/-- From `s` to `t` the run is cancelled, and this is how its tasks went on. It is the invariant
of `since_step`: `course` speaks of the tasks there are, and `beyond` of the places without one.
-/
structure Since (s t : RunState) : Prop where
  context : t.context = s.context
  cancelled : t.cancelled = true
  planned : t.tasks.map Task.cell ++ PlannedCell.runCells t.planned
    = s.tasks.map Task.cell ++ PlannedCell.runCells s.planned
  course : ∀ {i task}, t.tasks[i]? = some task → Course s t i task
  /-- There are only more tasks than before, and where there is none nothing is noted. -/
  beyond : ∀ {i}, t.tasks[i]? = none → s.tasks[i]? = none ∧ Rests s t i

/-- Every cancelled run is on its course from itself on. What runs has not moved yet, and what has
ended rests. -/
theorem since_refl (h : Faithful s) (cancelled : s.cancelled = true) : Since s s where
  context := rfl
  cancelled := cancelled
  planned := rfl
  course := by
    rintro i ⟨cell, status⟩ found
    cases status with
    | waiting => exact .waits (.inr found) rfl ⟨rfl, rfl⟩
    | running rest =>
      obtain ⟨-, -, q, next, rfl⟩ := h.follows found
      exact .went (.rest found) (.here _) nofun rfl (List.append_nil _).symm rfl
    | done | panicked => exact .past found rfl ⟨rfl, rfl⟩
  beyond none := ⟨none, rfl, rfl⟩

/-- The cells that are to be run stay the same, in the same order. Taking up an entry moves its
cell from the plan to the tasks. -/
theorem cells_step (happens : Happens s e t) :
    t.tasks.map Task.cell ++ PlannedCell.runCells t.planned
      = s.tasks.map Task.cell ++ PlannedCell.runCells s.planned := by
  cases happens with
  | @take entry planned clock next =>
    rw [next]
    cases entry with
    | run cell =>
      show (s.tasks ++ [_]).map Task.cell ++ PlannedCell.runCells planned = _
      rw [List.map_append, List.append_assoc]
      rfl
    | skip cell reason => rfl
  | grant | abort | look | handIn | reply | abandon | panic => rw [map_cell_setStatus]; rfl
  | cancel | finish => rfl

/-- An answer leads a task on. The path to the question becomes a path to what the answer leaves,
and the deed it may be is added to the others. -/
theorem Course.answered {cell : Cell} {q : CellQuestion} {next : CellAnswer q → CellProgram Unit}
    (h : Course s t i ⟨cell, .running (.ask q next)⟩) (a : CellAnswer q) (off : SeenOff q a)
    (deeds : u.deeds i = t.deeds i ++ CellProgram.deeds [⟨q, a⟩])
    (breaks : u.breaks i = t.breaks i) : Course s u i ⟨cell, statusOf (next a)⟩ := by
  obtain ⟨first, log, ahead, path, offLog, deeds_eq, breaks_eq⟩ := h.of_running
  refine .went ahead (path.answer a) ?_ rfl ?_ (breaks.trans breaks_eq)
  · refine Program.allowed_append.mpr ⟨offLog, fun mem => ?_⟩
    cases List.mem_singleton.mp mem
    exact off
  · rw [deeds, deeds_eq, deeds_append, List.append_assoc]

/-- In a cancelled run, every event leads the tasks on their way. The cases are those of `Moves`:
what one event can do to one task. -/
theorem since_step (h : Since s t) (happens : Happens t e u) : Since s u := by
  obtain ⟨entries, grows⟩ := grows_of_happens happens
  constructor
  case context => exact grows.context.trans h.context
  case cancelled => exact grows.cancelled h.cancelled
  case planned => exact (cells_step happens).trans h.planned
  case course =>
    intro i task found
    cases moves_of_happens happens i with
    | still same rests =>
      rw [same] at found
      exact (h.course found).mono rests
    | taken fresh waits rests =>
      rw [waits] at found
      cases found
      obtain ⟨none, before⟩ := h.beyond fresh
      exact .waits (.inl none) rfl (before.trans rests)
    | granted waits goes rests =>
      rw [goes] at found
      cases found
      obtain ⟨unpermitted, before⟩ := (h.course waits).of_waiting
      have all := before.trans rests
      rw [h.context]
      exact .went (.whole unpermitted) (.here _) nofun rfl
        (all.deeds.trans (List.append_nil _).symm) all.breaks
    | @aborted cell clock waits cancelled ends deeds breaks =>
      rw [ends] at found
      cases found
      obtain ⟨unpermitted, before⟩ := (h.course waits).of_waiting
      -- It does what it would have done behind the first look at the cancelled run.
      let r : CellResult := .skipped cell Pipeline.abortReason (.ofNanoseconds clock)
      let log : Program.Transcript CellAnswer := [⟨.observe, ⟨true, clock⟩⟩, ⟨.record r, ()⟩]
      have path : Program.Path (Pipeline.task s.context cell) log (.pure ()) := by
        apply Program.Path.step (q := CellQuestion.observe)
        apply Program.Path.step (q := CellQuestion.record r)
        exact .here _
      refine .went (.whole unpermitted) path ?_ rfl ?_ (breaks.trans before.breaks)
      · rintro q a mem
        rcases List.mem_cons.mp mem with same | mem
        · cases same
          rfl
        · cases List.mem_singleton.mp mem
          trivial
      · rw [deeds, before.deeds]
        rfl
    | @answered cell q next a stands honest goes deeds breaks =>
      rw [goes] at found
      cases found
      refine (h.course stands).answered a ?_ deeds breaks
      cases q with
      | observe => exact (honest a rfl).trans h.cancelled
      | call c => trivial
      | record r => trivial
    | broke stands ends deeds breaks =>
      rw [ends] at found
      cases found
      obtain ⟨first, log, ahead, path, off, deeds_eq, breaks_eq⟩ := (h.course stands).of_running
      exact .broke ahead path off rfl (deeds.trans deeds_eq) (by rw [breaks, breaks_eq])
  case beyond =>
    intro i none
    cases moves_of_happens happens i with
    | still same rests =>
      rw [same] at none
      obtain ⟨none, before⟩ := h.beyond none
      exact ⟨none, before.trans rests⟩
    | taken _ there => rw [none] at there; cases there
    | granted _ there => rw [none] at there; cases there
    | aborted _ _ _ there => rw [none] at there; cases there
    | answered _ _ _ there => rw [none] at there; cases there
    | broke _ there => rw [none] at there; cases there

/-- So it is with any number of events. This is `since_step` along the whole run. -/
theorem since_of_reaches {events : List RunEvent} (h : Faithful s) (cancelled : s.cancelled = true)
    (run : Reaches s events t) : Since s t :=
  run.invariant (Since s) since_step (since_refl h cancelled)

/-! ### The calls that are begun -/

/-- The calls a task has begun: those that were answered, the one it broke off in, and the
one it stands at. -/
def begun (s : RunState) (i : Nat) : List Call :=
  (s.deeds i).filterMap Deed.call? ++ s.breaks i ++ (s.callOf? i).toList

/-- The task is bound to a command: its phase has begun, and it has one to go. Between the
commands of a phase nobody looks at the run, so a cancellation is not noticed there. -/
def Bound (s : RunState) (i : Nat) : Prop :=
  ∃ cell rest, s.tasks[i]? = some ⟨cell, .running rest⟩ ∧ RunsNext rest

/-- A task that is not running stands at no call. -/
theorem callOf?_eq_none (other : ∀ cell rest, s.tasks[i]? ≠ some ⟨cell, .running rest⟩) :
    s.callOf? i = none := by
  unfold callOf?
  split
  · next cell c next stands => exact absurd stands (other _ _)
  · rfl

/-- A running task stands at the call its program stands at. -/
theorem callOf?_of_statusOf {cell : Cell} {rest : CellProgram Unit}
    (found : s.tasks[i]? = some ⟨cell, statusOf rest⟩) : s.callOf? i = callAt rest := by
  unfold callOf?
  rw [found]
  cases rest with
  | pure u => rfl
  | ask q next => cases q <;> rfl

/-- A whole task is bound to no command, for it looks at the run first. -/
theorem not_runsNext_task (ctx : RunContext) (cell : Cell) :
    ¬ RunsNext (Pipeline.task ctx cell) := by
  intro bound
  -- A look that shows the cancellation is followed by no command.
  exact bound ⟨true, 0⟩

namespace Ahead

variable {cell : Cell} {first : CellProgram Unit} (h : Ahead s i cell first) (faithful : Faithful s)
include h

/-- A program that is bound to a command is that of a task that is bound to one: a task without a
permit has its whole program before it. -/
theorem bound (runs : RunsNext first) : s.Bound i := by
  cases h with
  | whole unpermitted => exact absurd runs (not_runsNext_task s.context cell)
  | rest stands => exact ⟨cell, first, stands, runs⟩

include faithful

/-- Whatever a task has before it heeds the cancellation. For a task that is under way this is so
because the whole program does, at every place along it. -/
theorem heeds : Heeds first := by
  cases h with
  | whole unpermitted => exact Pipeline.heeds_task s.context cell
  | rest stands =>
    obtain ⟨⟨log, path, -⟩, -⟩ := faithful.follows stands
    exact (Pipeline.heeds_task s.context cell).along path

/-- A task that has something before it did not break off. -/
theorem unbroken : s.breaks i = [] := by
  cases h with
  | whole unpermitted =>
    rcases unpermitted with none | waits
    · exact (faithful.beyond (List.getElem?_eq_none_iff.mp none)).2
    · exact (faithful.follows waits).2
  | rest stands => exact (faithful.follows stands).2.1

/-- The call such a task stands at is the one its program stands at. A task without a permit
stands at none, and its program begins with a look. -/
theorem callOf?_eq : s.callOf? i = callAt first := by
  cases h with
  | whole unpermitted =>
    refine callOf?_eq_none fun other rest stands => ?_
    rcases unpermitted with none | waits
    · rw [none] at stands
      cases stands
    · rw [waits] at stands
      cases stands
  | rest stands =>
    obtain ⟨-, -, q, next, rfl⟩ := faithful.follows stands
    exact callOf?_of_statusOf stands

/-- What the program begins is what the task had begun, and what may be begun behind that. -/
theorem begun_append {log : Program.Transcript CellAnswer} {rest : CellProgram Unit}
    (path : Program.Path first log rest) (off : Program.Allowed SeenOff log) :
    ∃ later, (s.deeds i).filterMap Deed.call? ++ begins log rest = s.begun i ++ later ∧
      ∀ c ∈ later, MayAsk (s.Bound i) (.call c) := by
  obtain ⟨later, split, may⟩ := (h.heeds faithful).begins path off
  refine ⟨later, ?_, fun c mem => (may c mem).mono h.bound⟩
  rw [split, begun, h.unbroken faithful, h.callOf?_eq faithful, List.append_nil, List.append_assoc]

end Ahead

/-- What a task has begun by now: just what it had, or what it had done together with what was
begun along a path of its program. The second case is the one `begun_append` takes apart. -/
theorem Course.begun_cases (h : Course s t i task) (found : t.tasks[i]? = some task)
    (faithful : Faithful s) :
    t.begun i = s.begun i ∨ ∃ first rest log, Ahead s i task.cell first ∧
      Program.Path first log rest ∧ Program.Allowed SeenOff log ∧
      t.begun i = (s.deeds i).filterMap Deed.call? ++ begins log rest := by
  obtain ⟨cell, status⟩ := task
  -- A task that is not running has no call open.
  have idle (other : ∀ rest, status ≠ .running rest) : t.callOf? i = none := by
    refine callOf?_eq_none fun cell' rest stands => ?_
    rw [found] at stands
    cases stands
    exact other rest rfl
  cases h with
  | past found' ended rests =>
    left
    rw [begun, rests.deeds, rests.breaks]
    unfold begun callOf?
    rw [found, found']
  | waits unpermitted waiting rests =>
    left
    have none : t.callOf? i = none := idle fun rest running => by cases waiting.symm.trans running
    rw [begun, begun, rests.deeds, rests.breaks, none,
      (Ahead.whole unpermitted).callOf?_eq faithful]
    rfl
  | @went first rest log ahead path off status deeds breaks =>
    cases status
    refine .inr ⟨first, rest, log, ahead, path, off, ?_⟩
    rw [begun, deeds, breaks, ahead.unbroken faithful, List.append_nil, callOf?_of_statusOf found,
      List.filterMap_append, List.append_assoc]
    rfl
  | @broke first c next log ahead path off status deeds breaks =>
    refine .inr ⟨first, .ask (.call c) next, log, ahead, path, off, ?_⟩
    have none : t.callOf? i = none := idle fun rest running => by cases status.symm.trans running
    rw [begun, deeds, breaks, ahead.unbroken faithful, none, List.filterMap_append,
      List.nil_append, Option.toList_none, List.append_nil, List.append_assoc]
    rfl

/-- Behind what it had begun when the run was cancelled, a task begins what it may: no build, no
start, and no command unless it was bound to one. -/
theorem Course.begun_append (h : Course s t i task) (found : t.tasks[i]? = some task)
    (faithful : Faithful s) :
    ∃ later, t.begun i = s.begun i ++ later ∧ ∀ c ∈ later, MayAsk (s.Bound i) (.call c) := by
  rcases h.begun_cases found faithful with same | ⟨first, rest, log, ahead, path, off, begun_eq⟩
  · exact ⟨[], by rw [same, List.append_nil], nofun⟩
  · rw [begun_eq]
    exact ahead.begun_append faithful path off

/-! ### Cells that have not begun -/

/-- The cell has no permit, or it holds one and has not looked at the run yet. -/
def Unbegun (s : RunState) (i : Nat) (cell : Cell) : Prop :=
  s.Unpermitted i cell ∨
    s.tasks[i]? = some ⟨cell, .running (Pipeline.task s.context cell)⟩ ∧ s.deeds i = []

/-- Nothing of such a cell is noted, and it has its whole life before it. -/
theorem Unbegun.silent {cell : Cell} (h : s.Unbegun i cell) (faithful : Faithful s) :
    s.deeds i = [] ∧ s.begun i = [] := by
  have ahead : Ahead s i cell (Pipeline.task s.context cell) := h.elim .whole fun h => .rest h.1
  have idle : s.deeds i = [] := by
    rcases h with (none | waits) | ⟨-, idle⟩
    · exact (faithful.beyond (List.getElem?_eq_none_iff.mp none)).1
    · exact (faithful.follows waits).1
    · exact idle
  refine ⟨idle, ?_⟩
  rw [begun, idle, ahead.unbroken faithful, ahead.callOf?_eq faithful]
  rfl

/-- A cell that has not begun has its whole program before it, even where it holds a permit. -/
theorem Unbegun.eq_of_ahead {cell : Cell} {first : CellProgram Unit} (h : s.Unbegun i cell)
    (ahead : Ahead s i cell first) : first = Pipeline.task s.context cell := by
  cases ahead with
  | whole unpermitted => rfl
  | rest stands =>
    rcases h with (none | waits) | ⟨fresh, -⟩
    · rw [none] at stands
      cases stands
    · rw [waits] at stands
      cases stands
    · rw [fresh] at stands
      cases stands
      rfl

/-- A cell that had not begun when the run was cancelled calls nothing. The first thing it does is
to look at the run. -/
theorem Course.begun_of_unbegun (h : Course s t i task) (found : t.tasks[i]? = some task)
    (faithful : Faithful s) (unbegun : s.Unbegun i task.cell) : t.begun i = [] := by
  obtain ⟨idle, silent⟩ := unbegun.silent faithful
  rcases h.begun_cases found faithful with same | ⟨first, rest, log, ahead, path, off, begun_eq⟩
  · rw [same, silent]
  · obtain rfl := unbegun.eq_of_ahead ahead
    rw [begun_eq, idle, List.filterMap_nil, List.nil_append, List.eq_nil_iff_forall_not_mem]
    intro c mem
    exact asks_of_mem_begins (Pipeline.meets_task s.context task.cell) path off mem c rfl

/-- It does not break off, and in the end it is skipped. Its only deed is the result that says so.
-/
theorem Course.skipped_of_unbegun (h : Course s t i task) (faithful : Faithful s)
    (unbegun : s.Unbegun i task.cell) (ended : task.isEnded = true) : ∃ clock,
      t.deeds i = [.recorded (.skipped task.cell Pipeline.abortReason (.ofNanoseconds clock))] := by
  obtain ⟨idle, -⟩ := unbegun.silent faithful
  obtain ⟨cell, status⟩ := task
  cases h with
  | past found =>
    -- A task that had not begun had no status in which it could have ended.
    rcases unbegun with (none | waits) | ⟨fresh, -⟩
    · rw [found] at none
      cases none
    · rw [found] at waits
      cases waits
      cases ended
    · rw [found] at fresh
      obtain ⟨-, running⟩ := Task.mk.inj (Option.some.inj fresh)
      rw [running] at ended
      cases ended
  | waits unpermitted waiting =>
    cases waiting
    cases ended
  | @went first rest log ahead path off status deeds breaks =>
    cases status
    -- Ahead of the task is its whole program, which is skipped once it sees the cancellation.
    obtain rfl := unbegun.eq_of_ahead ahead
    cases rest with
    | ask q next => cases ended
    | pure u =>
      rw [deeds, idle, List.nil_append]
      exact Pipeline.skipped_of_path path off
  | broke ahead path off =>
    obtain rfl := unbegun.eq_of_ahead ahead
    exact absurd rfl (((Pipeline.meets_task s.context cell).along path off).1 _)

/-! ### Cells on their way -/

/-- A cell that was in the middle of a step when the run was cancelled hands in nothing but a
failure. If it comes to its end, it keeps its container until it is released. -/
theorem Course.of_inStep {cell : Cell} {p : Pipeline} {rest : CellProgram Unit}
    (h : Course s t i task) (stands : s.tasks[i]? = some ⟨cell, .running rest⟩)
    (inStep : Pipeline.InStep s.context cell p (s.deeds i) rest) :
    (∀ r ∈ t.reported i, r.status = .fail) ∧
      (task.status = .done → Pipeline.FailedFrom s.context cell p (t.deeds i)) := by
  have same {first : CellProgram Unit} (ahead : Ahead s i task.cell first) : first = rest := by
    cases ahead with
    | whole unpermitted =>
      rcases unpermitted with none | waits
      · rw [none] at stands
        cases stands
      · rw [waits] at stands
        cases stands
    | rest there =>
      rw [there] at stands
      cases stands
      rfl
  cases h with
  | past found ended =>
    rw [stands] at found
    cases found
    cases ended
  | waits unpermitted waiting =>
    rcases unpermitted with none | waits
    · rw [none] at stands
      cases stands
    · rw [waits] at stands
      cases stands
  | @went first rest' log ahead path off status deeds breaks =>
    obtain rfl := same ahead
    rw [reported, deeds]
    refine ⟨fun r mem => inStep.fails path off mem, fun done => ?_⟩
    -- A task that is done has nothing left.
    cases rest' with
    | ask q next => cases status.symm.trans done
    | pure u => exact inStep.failedFrom path off
  | broke ahead path off status deeds breaks =>
    obtain rfl := same ahead
    rw [reported, deeds]
    refine ⟨fun r mem => inStep.fails path off mem, fun done => ?_⟩
    cases status.symm.trans done

/-! ### The run -/

/-- What comes, in the state `t`, of a run that is cancelled in the state `s`. It speaks of every
cell of the plan, whatever it was doing at that moment. -/
structure Halted (s t : RunState) : Prop where
  /-- Every cell that is to be run has been taken up or is still planned. -/
  planned : t.tasks.map Task.cell ++ PlannedCell.runCells t.planned
    = s.tasks.map Task.cell ++ PlannedCell.runCells s.planned
  /-- Once the run is finished, all of them have been taken up and have ended. -/
  finished : t.finished = true → t.planned = [] ∧ ∀ task ∈ t.tasks, task.isEnded = true
  /-- A cell that had not begun calls nothing and is recorded as skipped. -/
  unbegun : ∀ {i task}, t.tasks[i]? = some task → s.Unbegun i task.cell → t.begun i = [] ∧
    (task.isEnded = true → ∃ clock,
      let r := CellResult.skipped task.cell Pipeline.abortReason (.ofNanoseconds clock)
      t.reported i = [r] ∧ r ∈ t.results.results)
  /-- No build and no start is begun any more, and a command only in a phase that had begun. -/
  begun : ∀ i, ∃ later, t.begun i = s.begun i ++ later ∧
    ∀ c ∈ later, MayAsk (s.Bound i) (.call c)
  /-- Where a cell may stand that has a permit. -/
  standing : ∀ {i cell rest}, s.tasks[i]? = some ⟨cell, .running rest⟩ →
    Pipeline.Standing s.context cell (s.deeds i) rest
  /-- A cell that was on its way does not pass. When it is done, it has failed, and it has
  kept its container until it was released of it. -/
  unpassed : ∀ {i cell rest p}, s.tasks[i]? = some ⟨cell, .running rest⟩ →
    Pipeline.InStep s.context cell p (s.deeds i) rest →
      (∀ r ∈ t.reported i, r.status = .fail) ∧
        (t.tasks[i]? = some ⟨cell, .done⟩ → Pipeline.FailedFrom s.context cell p (t.deeds i))

/-- Where a running task stands can be told from what it has done. -/
theorem Faithful.standing (h : Faithful s) {cell : Cell} {rest : CellProgram Unit}
    (found : s.tasks[i]? = some ⟨cell, .running rest⟩) :
    Pipeline.Standing s.context cell (s.deeds i) rest := by
  obtain ⟨⟨log, path, deeds_eq, -⟩, -, q, next, rfl⟩ := h.follows found
  rw [deeds_eq]
  exact Pipeline.standing_of_path path

/-- A place without a task has begun nothing, now as before. -/
theorem Since.begun_of_none (h : Since s t) (none : t.tasks[i]? = none) :
    t.begun i = s.begun i := by
  obtain ⟨before, rests⟩ := h.beyond none
  rw [begun, rests.deeds, rests.breaks]
  unfold begun callOf?
  rw [none, before]

/-- From any moment on at which it is cancelled, a run only winds up. Each field is about one kind
of place a cell may have been at: not begun, at a step, at its end. -/
theorem Since.halted (h : Since s t) (faithful : Faithful s) (faithful' : Faithful t)
    (concluded : t.finished = true → t.planned = [] ∧ ∀ task ∈ t.tasks, task.isEnded = true) :
    Halted s t := by
  constructor
  case planned => exact h.planned
  case finished => exact concluded
  case unbegun =>
    intro i task found unbegun
    have course := h.course found
    refine ⟨course.begun_of_unbegun found faithful unbegun, fun ended => ?_⟩
    obtain ⟨clock, deeds_eq⟩ := course.skipped_of_unbegun faithful unbegun ended
    have once : t.reported i
        = [.skipped task.cell Pipeline.abortReason (.ofNanoseconds clock)] := by
      rw [reported, deeds_eq]
      rfl
    exact ⟨clock, once, faithful'.mem_results (once ▸ List.mem_singleton.mpr rfl)⟩
  case begun =>
    intro i
    cases found : t.tasks[i]? with
    | none => exact ⟨[], by rw [h.begun_of_none found, List.append_nil], nofun⟩
    | some task => exact (h.course found).begun_append found faithful
  case standing => exact faithful.standing
  -- A task in the middle of a step is among those the run had before, so its course is known.
  case unpassed =>
    intro i cell rest p stands inStep
    cases found : t.tasks[i]? with
    | none =>
      rw [(h.beyond found).1] at stands
      cases stands
    | some task =>
      obtain ⟨fails, failed⟩ := (h.course found).of_inStep stands inStep
      refine ⟨fails, fun done => failed ?_⟩
      cases done
      rfl

/-- Does the task stand at a command. -/
def atCommand (s : RunState) (i : Nat) : Bool :=
  match s.callOf? i with
  | some (.exec _ _) => true
  | _ => false

/-- A task that stands at a command is bound to it. -/
theorem bound_of_atCommand (h : s.atCommand i = true) : s.Bound i := by
  unfold atCommand at h
  split at h
  · next container command called =>
    obtain ⟨cell, next, stands⟩ := callOf?_eq_some called
    exact ⟨cell, _, stands, container, command, rfl⟩
  · cases h

end RunState

end InstallMatrix
