import InstallMatrix.Proofs.Run.Ending
import Mathlib.Data.List.Perm.Basic

/-!
# `InstallMatrix.Proofs.Run.Account`: one result for every entry of the plan

`Accounts plan s` says that the results of a finished run are those of its plan. The
skipped entries have their own reasons, and each cell that was to be run has the one
result its task handed in or, where the task broke off before, the one the run made up
for it. No call was made but by a task.

`accounts_of_reaches` proves it for every run. It assumes that no two entries share a
label or that no task broke off: a run tells by its labels which cells were left
without a result.

On the way, `TakenUp` is the invariant of a run that is not finished yet, and
`results_perm` sorts the results by those who recorded them.
-/

set_option autoImplicit false

namespace InstallMatrix

namespace PlannedCell

/-- The cell of an entry that is to be run. -/
def runCell? : PlannedCell → Option Cell
  | .run c => some c
  | .skip _ _ => none

/-- The result of a skipped entry: it is skipped, for the reason the entry gives. -/
def SkippedAs : PlannedCell → CellResult → Prop
  | .run _, _ => False
  | .skip cell reason, r => ∃ clock, r = .skipped cell reason (.ofNanoseconds clock)

/-- The entries of a plan that are not to be run. Each of them has a result of the run's own. -/
def skips (plan : List PlannedCell) : List PlannedCell := plan.filter fun entry => !entry.isRun

/-- The cells of a plan that are to be run, in the order of the plan. Each of them has a task. -/
def runCells (plan : List PlannedCell) : List Cell := plan.filterMap runCell?

/-- The cells to be run of a plan in two parts are those of both, in this order. -/
theorem runCells_append (plan more : List PlannedCell) :
    runCells (plan ++ more) = runCells plan ++ runCells more := List.filterMap_append

/-- The skipped entries of a plan in two parts are those of both, in this order. -/
theorem skips_append (plan more : List PlannedCell) :
    skips (plan ++ more) = skips plan ++ skips more := List.filter_append plan more

/-- A plan consists of its skipped entries and the cells that are to be run. The order is lost,
for both kinds may alternate in a plan; hence the permutation. -/
theorem map_perm {α : Type} {f : PlannedCell → α} {g : Cell → α}
    (same : ∀ c, f (.run c) = g c) (plan : List PlannedCell) :
    (plan.map f).Perm ((skips plan).map f ++ (runCells plan).map g) := by
  induction plan with
  | nil => exact .nil
  | cons entry plan ih =>
    cases entry with
    | run c =>
      rw [List.map_cons, same]
      exact (ih.cons (g c)).trans List.perm_middle.symm
    | skip c reason => exact ih.cons _

/-- The cells of a plan are those of its skipped entries and those to be run. -/
theorem map_cell_perm (plan : List PlannedCell) :
    (plan.map cell).Perm ((skips plan).map cell ++ runCells plan) := by
  rw [← List.map_id (runCells plan)]
  exact map_perm (fun _ => rfl) plan

/-- The result of a skipped entry is that of its cell, as every result has to be. -/
theorem SkippedAs.cell_eq {entry : PlannedCell} {r : CellResult} (h : entry.SkippedAs r) :
    r.cell = entry.cell := by
  cases entry with
  | run c => cases h
  | skip c reason =>
    obtain ⟨clock, rfl⟩ := h
    rfl

/-- The results of skipped entries are those of their cells. -/
theorem map_cell_of_skippedAs {entries : List PlannedCell} {results : List CellResult}
    (h : List.Forall₂ SkippedAs entries results) :
    results.map CellResult.cell = entries.map cell := by
  induction h with
  | nil => rfl
  | cons first _ ih => rw [List.map_cons, List.map_cons, first.cell_eq, ih]

end PlannedCell

open PlannedCell

namespace RunState

variable {s t : RunState} {e : RunEvent} {plan : List PlannedCell} {clock : Nat}

/-! ### What has been taken up -/

/-- The part of the plan that has been taken up has its tasks and its skipped results. What is
left of the plan is `s.planned`, so the two parts together are always the whole plan. -/
def TakenUp (plan : List PlannedCell) (s : RunState) : Prop :=
  ∃ taken, plan = taken ++ s.planned ∧ s.tasks.map Task.cell = runCells taken ∧
    List.Forall₂ SkippedAs (skips taken) s.ownResults

/-- What changes neither the tasks' cells nor the run's own results keeps `TakenUp`. -/
theorem TakenUp.mono (h : TakenUp plan s) (planned : t.planned = s.planned)
    (cells : t.tasks.map Task.cell = s.tasks.map Task.cell)
    (own : t.ownResults = s.ownResults) : TakenUp plan t := by
  obtain ⟨taken, split, tasks, results⟩ := h
  exact ⟨taken, by rw [split, planned], cells.trans tasks, own ▸ results⟩

/-- Until the run is finished, every event keeps what has been taken up. Only `take` moves an
entry from one part of the plan to the other; it makes a task of it or a result. -/
theorem takenUp_step (h : TakenUp plan s) (happens : Happens s e t)
    (unfinished : t.finished = false) : TakenUp plan t := by
  have noted : ∀ entry : RunEntry, entry.ownResult? = none →
      (s.journal ++ [entry]).filterMap RunEntry.ownResult? = s.ownResults := by
    intro entry none
    simp [ownResults, none]
  -- Only taking up an entry adds a task or a skipped result. Every other event keeps both.
  cases happens with
  | @take entry planned clock next =>
    obtain ⟨taken, rfl, tasks, results⟩ := h
    rw [next]
    cases entry with
    | run cell =>
      refine ⟨taken ++ [.run cell], by simp [takeUp], ?_, ?_⟩
      · rw [runCells_append, ← tasks]
        exact List.map_append
      · rw [skips_append]
        exact (List.append_nil _).symm ▸ results
    | skip cell reason =>
      refine ⟨taken ++ [.skip cell reason], by simp [takeUp, record, note], ?_, ?_⟩
      · rw [runCells_append]
        exact (List.append_nil _).symm ▸ tasks
      · have last : SkippedAs (.skip cell reason) (.skipped cell reason (.ofNanoseconds clock)) :=
          ⟨clock, rfl⟩
        have grown : ({ s with planned }.takeUp clock (.skip cell reason)).ownResults
            = s.ownResults ++ [.skipped cell reason (.ofNanoseconds clock)] := by
          simp [takeUp, ownResults, record, note, RunEntry.ownResult?]
        rw [skips_append, grown]
        exact List.rel_append results (.cons last .nil)
  | grant waits free => exact h.mono rfl (map_cell_setStatus ..) rfl
  | abort clock waits cancelled => exact h.mono rfl (map_cell_setStatus ..) (noted _ rfl)
  | look clock stands => exact h.mono rfl (map_cell_setStatus ..) rfl
  | handIn clock stands => exact h.mono rfl (map_cell_setStatus ..) (noted _ rfl)
  | reply answer stands => exact h.mono rfl (map_cell_setStatus ..) (noted _ rfl)
  | abandon stands cancelled => exact h.mono rfl (map_cell_setStatus ..) (noted _ rfl)
  | panic stands => exact h.mono rfl (map_cell_setStatus ..) (noted _ rfl)
  | cancel => exact h.mono rfl rfl (noted _ rfl)
  | finish removed clock taken ended open_ => cases unfinished

/-- Until it is finished, a run has the tasks and skipped results of what it has taken
up. -/
theorem takenUp_of_reaches {context : RunContext} {cancelled : Bool} {events : List RunEvent}
    (run : Reaches (start context plan cancelled) events s) (unfinished : s.finished = false) :
    TakenUp plan s := by
  refine run.invariant (fun s => s.finished = false → TakenUp plan s) ?_ ?_ unfinished
  · intro s e t before happens open_
    -- Finishing adds results of the run's own that no skipped entry has, so it is left out.
    rcases finished_eq_or_finish happens with same | ⟨removed, clock, -, -, rfl⟩
    · exact takenUp_step (before (same ▸ open_)) happens open_
    · cases open_
  · exact fun _ => ⟨[], rfl, rfl, .nil⟩

/-- Where the whole plan has been taken up, its cells are those of the run's own results
and of the tasks. -/
theorem TakenUp.cells_perm (h : TakenUp plan s) (planned : s.planned = []) :
    (plan.map PlannedCell.cell).Perm
      (s.ownResults.map CellResult.cell ++ s.tasks.map Task.cell) := by
  obtain ⟨taken, split, tasks, results⟩ := h
  rw [planned, List.append_nil] at split
  subst split
  rw [map_cell_of_skippedAs results, tasks]
  exact map_cell_perm plan

/-! ### Who recorded what -/

/-- Picking by `f` is picking by `g` and by `h`, if `f` picks from each element what one
of them picks and the other does not. -/
theorem filterMap_perm_append {α β : Type} {f g h : α → Option β}
    (split : ∀ a, f a = g a ∧ h a = none ∨ f a = h a ∧ g a = none) (l : List α) :
    (l.filterMap f).Perm (l.filterMap g ++ l.filterMap h) := by
  induction l with
  | nil => exact .nil
  | cons a l ih =>
    -- What `h` picks has to move past all that `g` picks from the rest.
    rcases split a with ⟨same, none⟩ | ⟨same, none⟩
    · cases picked : g a with
      | none => simpa [List.filterMap_cons, same, none, picked] using ih
      | some b => simpa [List.filterMap_cons, same, none, picked] using ih
    · cases picked : h a with
      | none => simpa [List.filterMap_cons, same, none, picked] using ih
      | some b =>
        simp only [List.filterMap_cons, same, none, picked]
        exact (ih.cons b).trans List.perm_middle.symm

/-- The result an entry notes, if it is the run's own or that of one of the first `n`
tasks. -/
def resultBelow (n : Nat) : RunEntry → Option CellResult
  | .recorded none r => some r
  | .recorded (some i) r => if i < n then some r else none
  | _ => none

/-- The results of the run itself and of the first `n` tasks, sorted. -/
theorem filterMap_resultBelow_perm (s : RunState) (n : Nat) :
    (s.journal.filterMap (resultBelow n)).Perm
      (s.ownResults ++ (List.range n).flatMap s.reported) := by
  -- The results of one task after the other are picked out of the journal.
  induction n with
  | zero =>
    have same : resultBelow 0 = RunEntry.ownResult? := by
      funext entry
      cases entry with
      | recorded task r => cases task <;> rfl
      | _ => rfl
    rw [same]
    exact (List.append_nil _).symm ▸ .refl _
  | succ n ih =>
    have last : s.reported n
        = s.journal.filterMap fun entry => (entry.deedOf? n).bind Deed.result? :=
      List.filterMap_filterMap
    have split : ∀ entry : RunEntry,
        resultBelow (n + 1) entry = resultBelow n entry ∧
            (entry.deedOf? n).bind Deed.result? = none ∨
          resultBelow (n + 1) entry = (entry.deedOf? n).bind Deed.result? ∧
            resultBelow n entry = none := by
      intro entry
      cases entry with
      | recorded task r =>
        cases task with
        | none => exact .inl ⟨rfl, rfl⟩
        | some i =>
          rcases Nat.lt_trichotomy i n with lt | rfl | gt
          · exact .inl (by simp [resultBelow, RunEntry.deedOf?, lt, Nat.lt_succ_of_lt lt, lt.ne])
          · exact .inr (by simp [resultBelow, RunEntry.deedOf?, Deed.result?])
          · have above : ¬ i < n + 1 := by omega
            exact .inl (by simp [resultBelow, RunEntry.deedOf?, above, gt.ne', Nat.not_lt_of_gt gt])
      | answered j c reply =>
        refine .inl ⟨rfl, ?_⟩
        by_cases e : j = n <;> simp [RunEntry.deedOf?, Deed.result?, e]
      | _ => exact .inl ⟨rfl, rfl⟩
    rw [List.range_succ, List.flatMap_append, List.flatMap_singleton, ← List.append_assoc, last]
    exact (filterMap_perm_append split s.journal).trans (ih.append_right _)

/-- The results are those of the run itself and those the tasks handed in. The journal notes both
in the order in which they came, so they are sorted by the number of the task here. -/
theorem Faithful.results_perm (h : Faithful s) :
    s.results.results.Perm
      (s.ownResults ++ s.tasks.zipIdx.flatMap fun p => s.reported p.2) := by
  -- A result is the run's own or belongs to one task, and the journal may be read task by task.
  have all : s.results.results = s.journal.filterMap (resultBelow s.tasks.length) := by
    rw [h.results]
    refine List.filterMap_congr fun entry mem => ?_
    cases entry with
    | recorded task r =>
      cases task with
      | none => rfl
      | some i =>
        by_cases inside : i < s.tasks.length
        · simp [RunEntry.result?, resultBelow, inside]
        · -- Beyond the last task nothing was handed in.
          have deed : Deed.recorded r ∈ s.deeds i := mem_deeds_iff.mpr mem
          rw [(h.beyond (Nat.le_of_not_lt inside)).1] at deed
          cases deed
    | _ => rfl
  have places : (List.range s.tasks.length).flatMap s.reported
      = s.tasks.zipIdx.flatMap fun p => s.reported p.2 := by
    rw [List.range_eq_range', ← List.zipIdx_map_snd 0 s.tasks, List.flatMap_map]
  rw [all, ← places]
  exact filterMap_resultBelow_perm s s.tasks.length

/-- A result is the run's own, or the one some task handed in. The journal says which of the two
it is. -/
theorem Faithful.own_or_reported (h : Faithful s) (ended : ∀ task ∈ s.tasks, task.isEnded = true)
    {r : CellResult} (mem : r ∈ s.results.results) :
    r ∈ s.ownResults ∨ ∃ i task, s.tasks[i]? = some task ∧ Reported s i task r := by
  refine (List.mem_append.mp (h.results_perm.mem_iff.mp mem)).imp id fun handedIn => ?_
  obtain ⟨⟨task, i⟩, place, here⟩ := List.mem_flatMap.mp handedIn
  have found := List.mem_zipIdx_iff_getElem?.mp place
  refine ⟨i, task, found, ?_⟩
  rcases h.ended found (ended task (List.mem_of_getElem? found)) with ⟨own, reported⟩ | lost
  · rw [reported.once] at here
    obtain rfl := List.mem_singleton.mp here
    exact reported
  · rw [lost.silent] at here
    cases here

/-! ### Which cells are left without a result -/

/-- The label of a task that handed in a result is among those of the results. -/
theorem Faithful.label_mem_of_reported (h : Faithful s) {i : Nat} {task : Task}
    {r : CellResult} (reported : Reported s i task r) :
    task.cell.label ∈ s.results.results.map fun r => r.cell.label := by
  refine List.mem_map.mpr ⟨r, h.mem_results (i := i) ?_, by rw [reported.own]⟩
  exact reported.once ▸ List.mem_singleton.mpr rfl

/-- Where no two entries share a label, no result has the label of a task that handed in
none. -/
theorem Faithful.label_not_mem_of_lost (h : Faithful s)
    (ended : ∀ task ∈ s.tasks, task.isEnded = true) (taken : TakenUp plan s)
    (planned : s.planned = []) (distinct : (plan.map fun entry => entry.cell.label).Nodup)
    {i : Nat} {task : Task} (found : s.tasks[i]? = some task) (lost : Lost s i task) :
    task.cell.label ∉ s.results.results.map fun r => r.cell.label := by
  have labels : ((s.ownResults.map CellResult.cell).map Cell.label
      ++ (s.tasks.map Task.cell).map Cell.label).Nodup := by
    rw [← List.map_append]
    refine ((taken.cells_perm planned).map Cell.label).nodup_iff.mp ?_
    rw [List.map_map]
    exact distinct
  -- So no own result has the label of a task, and no two tasks have the same one.
  obtain ⟨-, tasksDistinct, apart⟩ := List.nodup_append.mp labels
  have labelAt : ∀ {j : Nat} {other : Task}, s.tasks[j]? = some other →
      ((s.tasks.map Task.cell).map Cell.label)[j]? = some other.cell.label := by
    intro j other foundJ
    simp [foundJ]
  intro mem
  obtain ⟨r, isResult, same⟩ := List.mem_map.mp mem
  rcases h.own_or_reported ended isResult with own | ⟨j, other, foundJ, reported⟩
  · refine apart r.cell.label ?_ task.cell.label ?_ same
    · exact List.mem_map_of_mem (List.mem_map_of_mem own)
    · exact List.mem_of_getElem? (labelAt found)
  · -- A task with the same label is the task itself, and that handed in nothing.
    have place : i = j := by
      refine (List.getElem?_inj (List.getElem?_eq_some_iff.mp (labelAt found)).1
        tasksDistinct).mp ?_
      rw [labelAt found, labelAt foundJ, ← reported.own, same]
    subst place
    have once := reported.once
    rw [lost.silent] at once
    cases once

/-- The cells of the tasks, taken with their places. -/
theorem map_cell_eq_map_zipIdx (tasks : List Task) :
    tasks.map Task.cell = tasks.zipIdx.map fun p => p.1.cell := by
  rw [← List.zipIdx_map_fst 0 tasks, List.map_map, List.zipIdx_map_fst]
  rfl

/-- The cells left without a result are those of the tasks that handed in none. -/
theorem Faithful.unrecorded_eq (h : Faithful s)
    (ended : ∀ task ∈ s.tasks, task.isEnded = true) (taken : TakenUp plan s)
    (planned : s.planned = []) (told : (plan.map fun entry => entry.cell.label).Nodup ∨
      ∀ task ∈ s.tasks, task.status ≠ .panicked) :
    s.unrecorded
      = (s.tasks.zipIdx.filter fun p => (s.reported p.2).isEmpty).map fun p => p.1.cell := by
  unfold unrecorded
  rw [map_cell_eq_map_zipIdx, List.filter_map]
  -- Labels and places agree on which tasks these are.
  refine congrArg _ (List.filter_congr fun p place => ?_)
  have found := List.mem_zipIdx_iff_getElem?.mp place
  have mem := List.mem_of_getElem? found
  rcases h.ended found (ended _ mem) with ⟨r, reported⟩ | lost
  · have recorded := h.label_mem_of_reported reported
    rw [reported.once]
    simpa using recorded
  · rcases told with distinct | whole
    · have absent := h.label_not_mem_of_lost ended taken planned distinct found lost
      rw [lost.silent]
      simpa using absent
    · exact absurd lost.panicked (whole _ mem)

/-! ### The account -/

/-- The result of the cell of a task: the one it handed in, or the one made up for it when it
broke off before. -/
def resultOf (s : RunState) (clock : Nat) (p : Task × Nat) : CellResult :=
  (s.reported p.2).headD (recovered clock p.1.cell)

/-- `Settled s i task r`: the cell of the task has the result `r`, which the task handed in
or which the run made up for it because the task broke off before. -/
def Settled (s : RunState) (i : Nat) (task : Task) (r : CellResult) : Prop :=
  Reported s i task r ∨ Lost s i task ∧ ∃ clock, r = recovered clock task.cell

/-- What is settled for a task is the result of its cell. A result the task handed in and one made
up for it agree in this. -/
theorem Settled.cell_eq {i : Nat} {task : Task} {r : CellResult} (h : Settled s i task r) :
    r.cell = task.cell := by
  rcases h with reported | ⟨-, clock, rfl⟩
  · exact reported.own
  · rfl

/-- A task that has ended is settled by `resultOf`: it handed in that result, or it broke off and
the result says so. -/
theorem Faithful.settled (h : Faithful s) {i : Nat} {task : Task}
    (found : s.tasks[i]? = some task) (ended : task.isEnded = true) (clock : Nat) :
    Settled s i task (s.resultOf clock (task, i)) := by
  rcases h.ended found ended with ⟨r, reported⟩ | lost
  · refine .inl ?_
    unfold resultOf
    rw [reported.once]
    exact reported
  · refine .inr ⟨lost, clock, ?_⟩
    unfold resultOf
    rw [lost.silent]
    rfl

/-- Elements picked out and mapped, written as parts that are put together. -/
theorem map_filter_eq_flatMap {α β : Type} (l : List α) (test : α → Bool) (f : α → β) :
    (l.filter test).map f = l.flatMap fun a => if test a then [f a] else [] := by
  induction l with
  | nil => rfl
  | cons a l ih =>
    rw [List.flatMap_cons, ← ih]
    cases picked : test a <;> simp [picked]

/-- The results of a concluded run: its own, and one for every task. The assumption is that the
labels tell the cells apart or that no task broke off; without it a cell that broke off may be
taken for one that has its result. -/
theorem Concludes.results_perm (c : Concludes s t clock) (h : Faithful s)
    (taken : TakenUp plan s)
    (told : (plan.map fun entry => entry.cell.label).Nodup ∨
      ∀ task ∈ s.tasks, task.status ≠ .panicked) :
    t.results.results.Perm (s.ownResults ++ s.tasks.zipIdx.map (s.resultOf clock)) := by
  -- A task that handed in a result adds it, and one that did not is made up for.
  let extra (p : Task × Nat) : List CellResult :=
    if (s.reported p.2).isEmpty then [recovered clock p.1.cell] else []
  have made : s.unrecorded.map (recovered clock) = s.tasks.zipIdx.flatMap extra := by
    rw [h.unrecorded_eq c.ended taken c.taken told, List.map_map]
    exact map_filter_eq_flatMap _ _ _
  have each : ∀ p ∈ s.tasks.zipIdx, s.reported p.2 ++ extra p = [s.resultOf clock p] := by
    intro p place
    have found := List.mem_zipIdx_iff_getElem?.mp place
    rcases h.ended found (c.ended _ (List.mem_of_getElem? found)) with ⟨r, reported⟩ | lost
    · simp [extra, resultOf, reported.once]
    · simp [extra, resultOf, lost.silent]
  have joined : (s.tasks.zipIdx.flatMap fun p => s.reported p.2 ++ extra p)
      = s.tasks.zipIdx.map (s.resultOf clock) := by
    rw [List.map_eq_flatMap]
    exact List.flatMap_congr each
  rw [c.results, made, ← joined]
  refine (h.results_perm.append_right _).trans ?_
  rw [List.append_assoc]
  exact (List.flatMap_append_perm _ _ _).append_left _

/-- The results of a finished run are accounted for by its plan: every entry is either skipped or
has one task, every task has ended, and each of them has exactly one result. -/
structure Accounts (plan : List PlannedCell) (t : RunState) : Prop where
  /-- Every cell that is to be run has a task, in the order of the plan. -/
  tasks : t.tasks.map Task.cell = runCells plan
  ended : ∀ task ∈ t.tasks, task.isEnded = true
  /-- Nothing was done but by these tasks; a skipped entry has none. -/
  beyond : ∀ i, t.tasks.length ≤ i → t.deeds i = [] ∧ t.breaks i = []
  /-- The results are those of the skipped entries and one for every task. -/
  settled : ∃ skipped ran, t.results.results.Perm (skipped ++ ran) ∧
    List.Forall₂ SkippedAs (skips plan) skipped ∧ ran.length = t.tasks.length ∧
    ∀ i task r, t.tasks[i]? = some task → ran[i]? = some r → Settled t i task r
  /-- Entry by entry, the plan has one result. -/
  cells : (t.results.results.map CellResult.cell).Perm (plan.map PlannedCell.cell)

/-- A concluded run has settled what the run it was concluded from had settled. -/
theorem Concludes.settled (c : Concludes s t clock) {i : Nat} {task : Task} {r : CellResult}
    (h : Settled s i task r) : Settled t i task r := by
  have same : t.reported i = s.reported i := by
    unfold reported
    rw [c.deeds]
  rcases h with reported | ⟨lost, made⟩
  · refine .inl ⟨reported.own, same.trans reported.once, ?_, ?_⟩
    · exact reported.verdict.imp id (Or.imp id (And.imp id c.cancelled))
    · rw [c.breaks]
      exact reported.late
  · refine .inr ⟨⟨lost.panicked, same.trans lost.silent, ?_⟩, made⟩
    rw [c.breaks]
    exact lost.early

/-- A concluded run is accounted for. The tasks and the skipped entries come from `TakenUp`, and
what each task has to show from `Faithful`. -/
theorem Concludes.accounts (c : Concludes s t clock) (h : Faithful s) (taken : TakenUp plan s)
    (told : (plan.map fun entry => entry.cell.label).Nodup ∨
      ∀ task ∈ s.tasks, task.status ≠ .panicked) : Accounts plan t := by
  obtain ⟨entries, split, cells, skipped⟩ := taken
  have perm := c.results_perm h ⟨entries, split, cells, skipped⟩ told
  -- At the place of each task stands the result that settles it.
  have own : ∀ i task r, s.tasks[i]? = some task →
      (s.tasks.zipIdx.map (s.resultOf clock))[i]? = some r → Settled s i task r := by
    intro i task r found at_
    rw [List.getElem?_map, List.getElem?_zipIdx, found] at at_
    cases at_
    rw [Nat.zero_add]
    exact h.settled found (c.ended _ (List.mem_of_getElem? found)) clock
  have ran : (s.tasks.zipIdx.map (s.resultOf clock)).map CellResult.cell
      = s.tasks.map Task.cell := by
    rw [map_cell_eq_map_zipIdx, List.map_map]
    refine List.map_congr_left fun p place => ?_
    have found := List.mem_zipIdx_iff_getElem?.mp place
    exact (h.settled found (c.ended _ (List.mem_of_getElem? found)) clock).cell_eq
  have allCells := (TakenUp.cells_perm ⟨entries, split, cells, skipped⟩ c.taken)
  rw [c.taken, List.append_nil] at split
  subst split
  constructor
  case tasks => rw [c.tasks, cells]
  case ended =>
    rw [c.tasks]
    exact c.ended
  case beyond =>
    intro i le
    rw [c.tasks] at le
    rw [c.deeds, c.breaks]
    exact h.beyond le
  case settled =>
    refine ⟨_, _, perm, skipped, by simp [c.tasks], fun i task r found at_ => ?_⟩
    rw [c.tasks] at found
    exact c.settled (own i task r found at_)
  case cells =>
    have results := perm.map CellResult.cell
    rw [List.map_append, ran] at results
    exact results.trans allCells.symm

/-- A finished run is accounted for: what held up to its end is known of the state that was
concluded. -/
theorem accounts_of_finished {context : RunContext} {cancelled : Bool} {events : List RunEvent}
    (run : Reaches (start context plan cancelled) events t) (finished : t.finished = true)
    (told : (plan.map fun entry => entry.cell.label).Nodup ∨
      ∀ task ∈ t.tasks, task.status ≠ .panicked) : Accounts plan t := by
  obtain ⟨s, clock, earlier, reached, open_, c⟩ := exists_concludes rfl run finished
  have taken := takenUp_of_reaches reached open_
  exact c.accounts (faithful_of_reaches reached) taken (c.tasks ▸ told)

end RunState

end InstallMatrix
