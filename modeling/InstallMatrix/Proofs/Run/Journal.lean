import InstallMatrix.Proofs.Run.Moves
import InstallMatrix.Proofs.Run.Task

/-!
# `InstallMatrix.Proofs.Run.Journal`: every task follows its program

The invariant `RunState.Faithful` says that what a task has done are the deeds of a path
through the program of its cell, up to where the task stands, and that the results are
the ones the journal recorded; `faithful_step` carries it over one event and
`faithful_of_reaches` over a run.

So what is known about the life of one cell holds of every task of every run, however
the tasks interleave. `lives_of_done` says it of the tasks that are done.
-/

set_option autoImplicit false

namespace InstallMatrix

open CellProgram

namespace RunState

variable {s t : RunState} {e : RunEvent}

/-- The results a task handed in. -/
def reported (s : RunState) (i : Nat) : List CellResult := (s.deeds i).filterMap Deed.result?

/-- `Handed s i container`: the container was handed to the task when it started one. -/
def Handed (s : RunState) (i : Nat) (container : Container) : Prop :=
  ∃ image options, .called (.start image options) (.ok container) ∈ s.deeds i

/-! ### Standing -/

/-- `Stands s i cell rest`: the deeds of the task led along the program of the cell to
`rest`, and whenever it saw the run cancelled, it was. -/
def Stands (s : RunState) (i : Nat) (cell : Cell) (rest : CellProgram Unit) : Prop :=
  ∃ log, Program.Path (Pipeline.task s.context cell) log rest ∧ s.deeds i = CellProgram.deeds log ∧
    ∀ moment : Moment, ⟨.observe, moment⟩ ∈ log → moment.cancelled = true → s.cancelled = true

/-- The journal of a task is that of a task in its status: nothing for one that waits, a part of
its life for one that runs, and a whole life for one that is done. -/
def Follows (s : RunState) (i : Nat) (cell : Cell) : TaskStatus → Prop
  | .waiting => s.deeds i = [] ∧ s.breaks i = []
  | .running rest => Stands s i cell rest ∧ s.breaks i = [] ∧ ∃ q next, rest = .ask q next
  | .done => Stands s i cell (.pure ()) ∧ s.breaks i = []
  | .panicked => ∃ (c : Call) (next : c.Reply → CellProgram Unit),
    Stands s i cell (.ask (.call c) next) ∧ s.breaks i = [c]

/-- What has been noted agrees with where the tasks stand and with the results. -/
structure Faithful (s : RunState) : Prop where
  follows : ∀ {i task}, s.tasks[i]? = some task → Follows s i task.cell task.status
  /-- Nothing is noted of a task there is none of. -/
  beyond : ∀ {i}, s.tasks.length ≤ i → s.deeds i = [] ∧ s.breaks i = []
  results : s.results.results = s.journal.filterMap RunEntry.result?

/-- What is noted of a task is noted of one there is. -/
theorem Faithful.exists_task (h : Faithful s) {i : Nat}
    (noted : ¬ (s.deeds i = [] ∧ s.breaks i = [])) :
    ∃ cell status, s.tasks[i]? = some ⟨cell, status⟩ := by
  have inside : i < s.tasks.length := by
    by_contra out
    exact noted (h.beyond (Nat.le_of_not_lt out))
  exact ⟨_, _, List.getElem?_eq_getElem inside⟩

/-- What a task handed in is noted as its own. -/
theorem mem_reported_iff {i : Nat} {r : CellResult} :
    r ∈ s.reported i ↔ .recorded (some i) r ∈ s.journal := by
  unfold reported
  rw [List.mem_filterMap]
  constructor
  · rintro ⟨d, done, is⟩
    cases d with
    | called c reply => cases is
    | recorded handedIn =>
      cases is
      exact mem_deeds_iff.mp done
  · intro noted
    exact ⟨.recorded r, mem_deeds_iff.mpr noted, rfl⟩

/-- What a task handed in is among the results. -/
theorem Faithful.mem_results (h : Faithful s) {i : Nat} {r : CellResult}
    (handedIn : r ∈ s.reported i) : r ∈ s.results.results := by
  rw [h.results]
  exact List.mem_filterMap.mpr ⟨_, mem_reported_iff.mp handedIn, rfl⟩

/-- A task with this left to do has the status it should. -/
theorem follows_statusOf {i : Nat} {cell : Cell} {rest : CellProgram Unit}
    (stands : Stands s i cell rest) (unbroken : s.breaks i = []) :
    Follows s i cell (statusOf rest) := by
  cases rest with
  | pure u => exact ⟨stands, unbroken⟩
  | ask q next => exact ⟨stands, unbroken, q, next, rfl⟩

/-- Where a task stands depends on its own part of the journal only, and a run once
cancelled stays so. -/
theorem Stands.mono {i : Nat} {cell : Cell} {rest : CellProgram Unit} (h : Stands s i cell rest)
    (same : t.deeds i = s.deeds i) (context : t.context = s.context)
    (cancelled : s.cancelled = true → t.cancelled = true) : Stands t i cell rest := by
  obtain ⟨log, path, deeds_eq, honest⟩ := h
  refine ⟨log, context ▸ path, same.trans deeds_eq, fun moment mem seen => ?_⟩
  exact cancelled (honest moment mem seen)

/-- The status of a task fits as long as its own part of the journal stays. -/
theorem Follows.mono {i : Nat} {cell : Cell} {status : TaskStatus} (h : Follows s i cell status)
    (sameDeeds : t.deeds i = s.deeds i) (sameBreaks : t.breaks i = s.breaks i)
    (context : t.context = s.context) (cancelled : s.cancelled = true → t.cancelled = true) :
    Follows t i cell status := by
  cases status with
  | waiting => exact ⟨sameDeeds.trans h.1, sameBreaks.trans h.2⟩
  | running rest =>
    exact ⟨h.1.mono sameDeeds context cancelled, sameBreaks.trans h.2.1, h.2.2⟩
  | done => exact ⟨h.1.mono sameDeeds context cancelled, sameBreaks.trans h.2⟩
  | panicked =>
    obtain ⟨c, next, stands, broke⟩ := h
    exact ⟨c, next, stands.mono sameDeeds context cancelled, sameBreaks.trans broke⟩

/-- An answer to the question a task stands at leads it on. The path behind the task grows by the
answer, and so do its deeds if it is one. -/
theorem Stands.answer {i : Nat} {cell : Cell} {q : CellQuestion}
    {next : CellAnswer q → CellProgram Unit} (h : Stands s i cell (.ask q next)) (a : CellAnswer q)
    (grown : t.deeds i = s.deeds i ++ CellProgram.deeds [⟨q, a⟩]) (context : t.context = s.context)
    (cancelled : s.cancelled = true → t.cancelled = true)
    (honest : ∀ moment : Moment, (⟨q, a⟩ : Σ q, CellAnswer q) = ⟨.observe, moment⟩ →
      moment.cancelled = true → t.cancelled = true) :
    Stands t i cell (next a) := by
  obtain ⟨log, path, deeds_eq, before⟩ := h
  -- The log grows by the answered question, and so do the path and the deeds.
  refine ⟨log ++ [⟨q, a⟩], ?_, ?_, fun moment mem seen => ?_⟩
  · rw [context]
    exact path.answer a
  · rw [grown, deeds_eq, deeds_append]
  · rcases List.mem_append.mp mem with mem | mem
    · exact cancelled (before moment mem seen)
    · exact honest moment (List.mem_singleton.mp mem).symm seen

/-! ### Events -/

/-- Every event keeps a run faithful. The cases are those of `Moves`, so this goes task by task.
-/
theorem faithful_step (h : Faithful s) (happens : Happens s e t) : Faithful t := by
  obtain ⟨entries, grows⟩ := grows_of_happens happens
  constructor
  case follows =>
    intro i task found
    cases moves_of_happens happens i with
    | still same rests =>
      rw [same] at found
      exact (h.follows found).mono rests.deeds rests.breaks grows.context grows.cancelled
    | taken fresh waits rests =>
      rw [waits] at found
      cases found
      -- Nothing was noted so far at a place where there was no task.
      obtain ⟨noDeeds, noBreaks⟩ := h.beyond (List.getElem?_eq_none_iff.mp fresh)
      exact ⟨rests.deeds.trans noDeeds, rests.breaks.trans noBreaks⟩
    | @granted cell waits goes rests =>
      rw [goes] at found
      cases found
      obtain ⟨noDeeds, noBreaks⟩ := h.follows waits
      -- The task begins where its program does.
      have stands : Stands s i cell (Pipeline.task s.context cell) := ⟨[], .here _, noDeeds, nofun⟩
      exact follows_statusOf (stands.mono rests.deeds grows.context grows.cancelled)
        (rests.breaks.trans noBreaks)
    | @aborted cell clock waits cancelled ends deeds breaks =>
      rw [ends] at found
      cases found
      obtain ⟨noDeeds, noBreaks⟩ := h.follows waits
      refine ⟨?_, breaks.trans noBreaks⟩
      -- A task that gives up before it begins does what it would have done after the first
      -- look at the cancelled run.
      let r : CellResult := .skipped cell Pipeline.abortReason (.ofNanoseconds clock)
      let log : Program.Transcript CellAnswer := [⟨.observe, ⟨true, clock⟩⟩, ⟨.record r, ()⟩]
      refine ⟨log, ?_, ?_, fun _ _ _ => grows.cancelled cancelled⟩
      · apply Program.Path.step (q := CellQuestion.observe)
        apply Program.Path.step (q := CellQuestion.record r)
        exact .here _
      · rw [deeds, noDeeds]
        rfl
    | answered a stands honest goes deeds breaks =>
      rw [goes] at found
      cases found
      obtain ⟨before, whole, -⟩ := h.follows stands
      refine follows_statusOf (before.answer a deeds grows.context grows.cancelled ?_)
        (breaks.trans whole)
      intro moment same seen
      exact grows.cancelled (honest moment same ▸ seen)
    | @broke cell c next stands ends deeds breaks =>
      rw [ends] at found
      cases found
      obtain ⟨before, whole, -⟩ := h.follows stands
      -- The call is noted as broken off and not as a deed, so the task stands where it stood.
      exact ⟨c, next, before.mono deeds grows.context grows.cancelled, by rw [breaks, whole]; rfl⟩
  case beyond =>
    intro i le
    have none := List.getElem?_eq_none_iff.mpr le
    cases moves_of_happens happens i with
    | still same rests =>
      rw [same] at none
      obtain ⟨noDeeds, noBreaks⟩ := h.beyond (List.getElem?_eq_none_iff.mp none)
      exact ⟨rests.deeds.trans noDeeds, rests.breaks.trans noBreaks⟩
    | taken _ there => rw [none] at there; cases there
    | granted _ there => rw [none] at there; cases there
    | aborted _ _ _ there => rw [none] at there; cases there
    | answered _ _ _ there => rw [none] at there; cases there
    | broke _ there => rw [none] at there; cases there
  case results => rw [grows.results, h.results, grows.journal, List.filterMap_append]

/-- A run that has taken nothing up is faithful. -/
theorem faithful_start (context : RunContext) (plan : List PlannedCell) (cancelled : Bool) :
    Faithful (start context plan cancelled) where
  follows := nofun
  beyond _ := ⟨rfl, rfl⟩
  results := rfl

/-- Every run is faithful, from its start on. With this, facts about the program of a cell become
facts about the tasks of a run. -/
theorem faithful_of_reaches {context : RunContext} {plan : List PlannedCell} {cancelled : Bool}
    {events : List RunEvent} (run : Reaches (start context plan cancelled) events s) :
    Faithful s :=
  run.invariant Faithful faithful_step (faithful_start context plan cancelled)

/-! ### What a task has done in the end -/

/-- A task that is done has lived its life, and has not broken off. -/
theorem Faithful.lives_of_done (h : Faithful s) {i : Nat} {cell : Cell}
    (found : s.tasks[i]? = some ⟨cell, .done⟩) :
    Pipeline.Lives s.context cell (s.deeds i) ∧ s.breaks i = [] := by
  obtain ⟨⟨log, path, deeds_eq, -⟩, whole⟩ := h.follows found
  rw [deeds_eq]
  exact ⟨Pipeline.lives_of_finished path, whole⟩

end RunState

end InstallMatrix
