import InstallMatrix.Run.State

/-!
# `InstallMatrix.Proofs.Run.Step`: what an event does to a run

`RunState.Happens s e t` lists, one constructor for each way an event may happen,
its guards and the state after it. `step_eq_some_iff` says that this is just
`RunState.step`. Every invariant of a run is shown by cases on `Happens`.

`Reaches.invariant` carries what every event keeps over a whole run,
`reaches_iff_after` computes the end of a run from its events, and `recordAll_eq` gives
the completed results of a finished run in one piece.
-/

set_option autoImplicit false

namespace InstallMatrix

namespace RunState

/-! ### Parts of a state after a change -/

/-- The status of a task has nothing to do with what the run goes by. -/
@[simp] theorem setStatus_context (s : RunState) (i : Nat) (status : TaskStatus) :
    (s.setStatus i status).context = s.context := rfl

/-- Setting a status notes nothing by itself. -/
@[simp] theorem setStatus_journal (s : RunState) (i : Nat) (status : TaskStatus) :
    (s.setStatus i status).journal = s.journal := rfl

/-- Setting a status adds no result. -/
@[simp] theorem setStatus_results (s : RunState) (i : Nat) (status : TaskStatus) :
    (s.setStatus i status).results = s.results := rfl

/-- Setting a status does not cancel the run. -/
@[simp] theorem setStatus_cancelled (s : RunState) (i : Nat) (status : TaskStatus) :
    (s.setStatus i status).cancelled = s.cancelled := rfl

/-- Setting a status keeps the number of tasks. -/
@[simp] theorem length_setStatus (s : RunState) (i : Nat) (status : TaskStatus) :
    (s.setStatus i status).tasks.length = s.tasks.length :=
  List.length_modify _ _ _

/-- Changing one status leaves the cells as they are. A task keeps the cell it was made for. -/
@[simp] theorem map_cell_setStatus (s : RunState) (i : Nat) (status : TaskStatus) :
    (s.setStatus i status).tasks.map Task.cell = s.tasks.map Task.cell := by
  apply List.ext_getElem?
  intro j
  simp only [setStatus, List.getElem?_map, List.getElem?_modify]
  by_cases h : i = j <;> cases s.tasks[j]? <;> simp [h]

/-- The task whose status was changed. -/
theorem getElem?_setStatus_self {s : RunState} {i : Nat} {t : Task} (status : TaskStatus)
    (h : s.tasks[i]? = some t) : (s.setStatus i status).tasks[i]? = some ⟨t.cell, status⟩ := by
  simp [setStatus, h]

/-- The other tasks. -/
theorem getElem?_setStatus_ne (s : RunState) {i j : Nat} (status : TaskStatus) (ne : j ≠ i) :
    (s.setStatus i status).tasks[j]? = s.tasks[j]? :=
  List.getElem?_modify_ne _ _ (Ne.symm ne)

/-- Several results recorded by the run itself, one after the other, are added to the results and
noted in that order. -/
theorem recordAll_eq (s : RunState) (cells : List Cell) (resultOf : Cell → CellResult) :
    cells.foldl (fun s cell => s.record none (resultOf cell)) s =
      { s with
        results := ⟨s.results.results ++ cells.map resultOf⟩
        journal := s.journal ++ cells.map fun cell => .recorded none (resultOf cell) } := by
  induction cells generalizing s with
  | nil => simp
  | cons cell cells ih =>
    rw [List.foldl_cons, ih]
    simp [record, note, ResultSet.record, List.append_assoc]

/-- The result of a cell that was left without one, at a clock reading. It is all that is known of
a task that broke off. -/
def recovered (clock : Nat) (cell : Cell) : CellResult :=
  .failed cell unreported (.ofNanoseconds clock)

/-- A run that has been completed, at a clock reading. The result of the sweep is noted first, and
then the cells without a result get one. -/
def complete (s : RunState) (removed : Except GatewayError Nat) (clock : Nat) : RunState :=
  { s with
    results := ⟨s.results.results ++ s.unrecorded.map (recovered clock)⟩
    journal := s.journal ++ [.swept removed]
      ++ s.unrecorded.map fun cell => .recorded none (recovered clock cell)
    finished := true }

/-! ### Events -/

/-- `Happens s e t`: in the state `s` the event `e` may happen, and `t` comes of it. Each case
names what the event waits for and writes the new state out. -/
inductive Happens (s : RunState) : RunEvent → RunState → Prop
  | take {entry : PlannedCell} {planned : List PlannedCell} (clock : Nat)
      (next : s.planned = entry :: planned) :
      Happens s (.take clock) ({ s with planned }.takeUp clock entry)
  | grant {i : Nat} {cell : Cell} (waits : s.tasks[i]? = some ⟨cell, .waiting⟩)
      (free : s.inUse < s.context.settings.permits) :
      Happens s (.grant i) (s.setStatus i (statusOf (Pipeline.task s.context cell)))
  | abort {i : Nat} {cell : Cell} (clock : Nat) (waits : s.tasks[i]? = some ⟨cell, .waiting⟩)
      (cancelled : s.cancelled = true) :
      Happens s (.abort i clock)
        ((s.record (some i)
          (.skipped cell Pipeline.abortReason (.ofNanoseconds clock))).setStatus i .done)
  | look {i : Nat} {cell : Cell} {next : Moment → CellProgram Unit} (clock : Nat)
      (stands : s.tasks[i]? = some ⟨cell, .running (.ask .observe next)⟩) :
      Happens s (.proceed i clock) (s.setStatus i (statusOf (next ⟨s.cancelled, clock⟩)))
  | handIn {i : Nat} {cell : Cell} {r : CellResult} {next : Unit → CellProgram Unit}
      (clock : Nat) (stands : s.tasks[i]? = some ⟨cell, .running (.ask (.record r) next)⟩) :
      Happens s (.proceed i clock) ((s.record (some i) r).setStatus i (statusOf (next ())))
  | reply {i : Nat} {cell : Cell} {c : Call} {next : c.Reply → CellProgram Unit}
      (answer : (c : Call) → c.Reply)
      (stands : s.tasks[i]? = some ⟨cell, .running (.ask (.call c) next)⟩) :
      Happens s (.reply i answer)
        ((s.note (.answered i c (answer c))).setStatus i (statusOf (next (answer c))))
  | abandon {i : Nat} {cell : Cell} {d : Definition}
      {next : Except GatewayError ImageTag → CellProgram Unit}
      (stands : s.tasks[i]? = some ⟨cell, .running (.ask (.call (.build d)) next)⟩)
      (cancelled : s.cancelled = true) :
      Happens s (.abandon i)
        ((s.note (.answered i (.build d) (.error (.cancelled ("build of " ++ d.name))))).setStatus
          i (statusOf (next (.error (.cancelled ("build of " ++ d.name))))))
  | panic {i : Nat} {cell : Cell} {c : Call} {next : c.Reply → CellProgram Unit}
      (stands : s.tasks[i]? = some ⟨cell, .running (.ask (.call c) next)⟩) :
      Happens s (.panic i) ((s.note (.panicked i c)).setStatus i .panicked)
  | cancel : Happens s .cancel ({ s with cancelled := true }.note .cancelled)
  | finish (removed : Except GatewayError Nat) (clock : Nat) (taken : s.planned = [])
      (ended : ∀ t ∈ s.tasks, t.isEnded = true) (unfinished : s.finished = false) :
      Happens s (.finish removed clock) (s.complete removed clock)

variable {s t : RunState} {e : RunEvent}

/-- What `Happens` lists, `step` does. With the next lemma the list is complete. -/
theorem Happens.step_eq (h : Happens s e t) : s.step e = some t := by
  cases h with
  | take clock next => simp only [step, next]
  | grant waits free => simp only [step, waits, free, if_true]
  | abort clock waits cancelled => simp only [step, waits, cancelled, if_true]
  | look clock stands => simp only [step, stands]
  | handIn clock stands => simp only [step, stands]
  | reply answer stands => simp only [step, stands]
  | abandon stands cancelled => simp only [step, stands, cancelled, if_true]
  | panic stands => simp only [step, stands]
  | cancel => rfl
  | finish removed clock taken ended unfinished =>
    -- `step` asks for all guards at once and records the missing results one by one.
    have all : s.tasks.all Task.isEnded = true := List.all_eq_true.mpr ended
    simp only [step, taken, all, unfinished, List.isEmpty_nil, Bool.not_false, Bool.and_self,
      if_true]
    rw [recordAll_eq]
    rfl

/-- What `step` does, `Happens` lists. Every proof about an event goes by these cases, and none by
the branches of `step`. -/
theorem happens_of_step (h : s.step e = some t) : Happens s e t := by
  -- Every event has one arm of `step`, and what its guards refuse leads to no state.
  cases e with
  | take clock =>
    simp only [step] at h
    split at h
    · cases h
    · next entry planned next =>
      cases h
      exact .take clock next
  | grant i =>
    simp only [step] at h
    split at h
    · next cell waits =>
      split at h
      · next free =>
        cases h
        exact .grant waits free
      · cases h
    · cases h
  | abort i clock =>
    simp only [step] at h
    split at h
    · next cell waits =>
      split at h
      · next cancelled =>
        cases h
        exact .abort clock waits cancelled
      · cases h
    · cases h
  | proceed i clock =>
    simp only [step] at h
    split at h
    · next cell next stands =>
      cases h
      exact .look clock stands
    · next cell r next stands =>
      cases h
      exact .handIn clock stands
    · cases h
  | reply i answer =>
    simp only [step] at h
    split at h
    · next cell c next stands =>
      cases h
      exact .reply answer stands
    · cases h
  | abandon i =>
    simp only [step] at h
    split at h
    · next cell d next stands =>
      split at h
      · next cancelled =>
        cases h
        exact .abandon stands cancelled
      · cases h
    · cases h
  | panic i =>
    simp only [step] at h
    split at h
    · next cell c next stands =>
      cases h
      exact .panic stands
    · cases h
  | cancel =>
    cases h
    exact .cancel
  | finish removed clock =>
    simp only [step] at h
    split at h
    · next guard =>
      simp only [Bool.and_eq_true, List.isEmpty_iff, Bool.not_eq_true', List.all_eq_true] at guard
      obtain ⟨⟨taken, ended⟩, unfinished⟩ := guard
      rw [recordAll_eq] at h
      cases h
      exact .finish removed clock taken ended unfinished
    · cases h

/-- `Happens` is `step`. The relation is used in proofs, where its cases have names, and the
function where a run is computed. -/
theorem step_eq_some_iff : s.step e = some t ↔ Happens s e t :=
  ⟨happens_of_step, Happens.step_eq⟩

/-- No event changes what the cells of a run share. -/
theorem Happens.context_eq (h : Happens s e t) : t.context = s.context := by
  cases h with
  | @take entry planned clock next => cases entry <;> rfl
  | grant | abort | look | handIn | reply | abandon | panic | cancel | finish => rfl

/-- A cell stays where it is in the list of tasks. So tasks are known by their places all along a
run. -/
theorem Happens.getElem?_cell (h : Happens s e t) {i : Nat} {cell : Cell}
    (found : (s.tasks.map Task.cell)[i]? = some cell) :
    (t.tasks.map Task.cell)[i]? = some cell := by
  cases h with
  | @take entry planned clock next =>
    cases entry with
    | skip _ reason => exact found
    | run _ =>
      show ((s.tasks ++ [_]).map Task.cell)[i]? = some cell
      rw [List.map_append, List.getElem?_append_left (List.getElem?_eq_some_iff.mp found).1]
      exact found
  | grant | abort | look | handIn | reply | abandon | panic =>
    rw [map_cell_setStatus]
    exact found
  | cancel | finish => exact found

/-! ### Runs -/

/-- What every event keeps, a run keeps. The induction on the events is made here once, and every
invariant of runs goes through this lemma. -/
theorem Reaches.invariant (Holds : RunState → Prop) {events : List RunEvent}
    (keeps : ∀ {s e t}, Holds s → Happens s e t → Holds t) (start : Holds s)
    (run : Reaches s events t) : Holds t := by
  induction run with
  | here s => exact start
  | step first rest ih => exact ih (keeps start (happens_of_step first))

/-- What a run goes by is settled at its start, and no event changes it. -/
theorem Reaches.context_eq {events : List RunEvent} (run : Reaches s events t) :
    t.context = s.context :=
  run.invariant (fun t => t.context = s.context)
    (fun before happens => happens.context_eq.trans before) rfl

/-- The task at a place keeps its cell, and tasks are only added behind it. -/
theorem Reaches.getElem?_cell {events : List RunEvent} (run : Reaches s events t) {i : Nat}
    {cell : Cell} (found : (s.tasks.map Task.cell)[i]? = some cell) :
    (t.tasks.map Task.cell)[i]? = some cell :=
  run.invariant (fun t => (t.tasks.map Task.cell)[i]? = some cell)
    (fun before happens => happens.getElem?_cell before) found

/-- A run goes on with another one from where it ends. -/
theorem Reaches.trans {u : RunState} {events more : List RunEvent} (run : Reaches s events t)
    (rest : Reaches t more u) : Reaches s (events ++ more) u := by
  induction run with
  | here s => exact rest
  | step first _ ih => exact .step first (ih rest)

/-- What every event keeps of a state the run leads to, the run keeps. The step may use that its
state was reached. -/
theorem Reaches.invariant_along (Holds : RunState → Prop) {events : List RunEvent}
    (keeps : ∀ {earlier u e v}, Reaches s earlier u → Holds u → Happens u e v → Holds v)
    (start : Holds s) (run : Reaches s events t) : Holds t := by
  refine (run.invariant (fun u => (∃ earlier, Reaches s earlier u) ∧ Holds u) ?_
    ⟨⟨[], .here s⟩, start⟩).2
  rintro u e v ⟨⟨earlier, reached⟩, holds⟩ happens
  exact ⟨⟨_, reached.trans (.step happens.step_eq (.here v))⟩, keeps reached holds happens⟩

/-- The state after the events, if they may happen one after the other. It is computed, so that
concrete runs can be decided. -/
def after (s : RunState) : List RunEvent → Option RunState
  | [] => some s
  | e :: events => (s.step e).bind fun t => t.after events

/-- Which events may happen, and what comes of them, can be computed. -/
theorem reaches_iff_after {events : List RunEvent} :
    Reaches s events t ↔ s.after events = some t := by
  constructor
  · intro run
    induction run with
    | here s => rfl
    | step first _ ih =>
      rw [after, first]
      exact ih
  · intro computed
    -- Each event moves the state the rest is computed from.
    induction events generalizing s with
    | nil =>
      cases computed
      exact .here _
    | cons e events ih =>
      obtain ⟨u, first, rest⟩ := Option.bind_eq_some_iff.mp computed
      exact .step first (ih rest)

/-- If the computed end passes a test, there is a run to such an end. Concrete runs are found this
way by evaluation. -/
theorem exists_reaches_of_after {events : List RunEvent} {test : RunState → Bool}
    (passes : (s.after events).any test = true) : ∃ t, Reaches s events t ∧ test t = true := by
  obtain ⟨t, computed, holds⟩ := (Option.any_eq_true test _).mp passes
  exact ⟨t, reaches_iff_after.mpr computed, holds⟩

end RunState

end InstallMatrix
