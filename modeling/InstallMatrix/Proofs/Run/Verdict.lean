import InstallMatrix.Proofs.Install.Home
import InstallMatrix.Proofs.Results.Aggregation
import InstallMatrix.Proofs.Run.Account

/-!
# `InstallMatrix.Proofs.Run.Verdict`: what exit code zero promises

A run that was never cancelled and ends with exit code zero has installed: every cell
that was to be run is `Green`. Its task handed in that it passed, and in the cell's container
the gateway saw three requests: to unpack the archive, to call the installer and to check the
binary, in this order, each answered with exit code zero (`SeenToPass`). `exitCode_sound`
states this, and that the exit code is one otherwise.

The gateway sees commands of many cells. `RunState.dispatches` lists them with the tasks
they came from, those included whose task broke off. The main steps:

* `handed_of_dispatch`: a task runs commands only in containers it was handed.
* `dispatches_of_passed`: a task that passed ran the commands of its phase and no other.
* `seenToPass_of_forall₂`: these commands are the three that are asked for by name.
-/

set_option autoImplicit false

namespace InstallMatrix

open CellProgram PlannedCell

/-! ### Commands -/

/-- A command as a gateway sees it: the container, the command, and what it was answered
unless its task broke off. -/
structure Dispatch where
  container : Container
  command : ShellCommand
  reply : Option (Except GatewayError CommandOutput)

/-- A command that ran in a container and left this output. -/
def Dispatch.ran (container : Container) (command : ShellCommand) (output : CommandOutput) :
    Dispatch :=
  ⟨container, command, some (.ok output)⟩

/-- The command that a deed is, with the reply it got. Other deeds are no commands. -/
def Deed.dispatch? : Deed → Option Dispatch
  | .called (.exec container command) reply => some ⟨container, command, some reply⟩
  | _ => none

/-- Giving a container up runs no command. -/
theorem Deed.IsRelease.dispatch?_eq_none {d : Deed} (h : d.IsRelease) : d.dispatch? = none := by
  obtain ⟨c, reply, releases, rfl⟩ := h
  cases c with
  | exec => cases releases
  | build | start | logs | remove | retain => rfl

/-- The command that an entry notes, with its task. A command in which the task broke off has no
reply. -/
def RunEntry.dispatch? : RunEntry → Option (Nat × Dispatch)
  | .answered i (.exec container command) reply => some (i, ⟨container, command, some reply⟩)
  | .panicked i (.exec container command) => some (i, ⟨container, command, none⟩)
  | _ => none

namespace Pipeline

variable {ctx : RunContext} {cell : Cell} {p : Pipeline} {ds : List Deed}

/-- What a gateway sees of a step that passed: its command was run in the container, and the
exit code was zero. -/
def StepPasses (container : Container) (step : PhaseStep) (d : Dispatch) : Prop :=
  ∃ output, output.exitCode = 0 ∧ d = .ran container step.command output

/-- A phase that passed ran all its steps, one after the other, and each exited with zero. The
gateway saw nothing else of it. -/
theorem PhaseRun.dispatches_of_passed {container : Container} {steps : List PhaseStep}
    {records : List StepRecord} {ending : PhaseEnd}
    (run : PhaseRun container steps ds records ending) (passed : ending = .passed) :
    List.Forall₂ (StepPasses container) steps (ds.filterMap Deed.dispatch?) := by
  induction run with
  | finished => exact .nil
  | passed output zero rest ih => exact .cons ⟨output, zero, rfl⟩ (ih passed)
  | exited output nonzero => cases passed
  | undispatched error reply durationMs => cases passed

open Install in
/-- What a gateway sees of a cell whose phase passed. The phase has three steps, by the names
`extract`, `install` and `verify`. They run the scripts that unpack the archive, call the
installer and check the binary, each under the account of the cell's identity. The gateway
was asked for these three commands in the container, in this order and for nothing else, and
each was answered with exit code zero. -/
def SeenToPass (ctx : RunContext) (cell : Cell) (artifact : Artifact) (container : Container)
    (seen : List Dispatch) : Prop :=
  ∃ extract install verify : ShellCommand, ∃ unpacked installed verified : CommandOutput,
    stepsOf ctx cell artifact
      = [⟨"extract", extract⟩, ⟨"install", install⟩, ⟨"verify", verify⟩] ∧
    extract = plainCommand cell.identity ctx.settings.testUser (extractScript artifact.fileName) ∧
    install = installCommand cell.identity ctx.settings.installer ctx.settings.testUser ∧
    verify = plainCommand cell.identity ctx.settings.testUser
      (verifyScript ctx.settings.installer) ∧
    seen = [.ran container extract unpacked, .ran container install installed,
      .ran container verify verified] ∧
    unpacked.exitCode = 0 ∧ installed.exitCode = 0 ∧ verified.exitCode = 0

/-- If all steps of a cell's phase passed, the gateway saw the three commands. -/
theorem seenToPass_of_forall₂ {artifact : Artifact} {container : Container} {seen : List Dispatch}
    (passes : List.Forall₂ (StepPasses container) (stepsOf ctx cell artifact) seen) :
    SeenToPass ctx cell artifact container seen := by
  have steps := Install.phaseSteps_eq cell.identity artifact.fileName ctx.settings.installer
    ctx.settings.testUser
  rw [stepsOf, steps] at passes
  -- Each step accounts for one dispatch, so three steps account for three.
  obtain ⟨_, _, ⟨unpacked, extracts, rfl⟩, two, rfl⟩ := List.forall₂_cons_left_iff.mp passes
  obtain ⟨_, _, ⟨installed, installs, rfl⟩, one, rfl⟩ := List.forall₂_cons_left_iff.mp two
  obtain ⟨_, _, ⟨verified, verifies, rfl⟩, none, rfl⟩ := List.forall₂_cons_left_iff.mp one
  obtain rfl := List.forall₂_nil_left_iff.mp none
  exact ⟨_, _, _, unpacked, installed, verified, steps, rfl, rfl, rfl, rfl, extracts, installs,
    verifies⟩

/-- All that is seen of a phase that passed is in its container. There are three commands, and
each of them names it. -/
theorem SeenToPass.container_of_mem {artifact : Artifact} {container : Container}
    {seen : List Dispatch} (h : SeenToPass ctx cell artifact container seen) {d : Dispatch}
    (mem : d ∈ seen) : d.container = container := by
  obtain ⟨extract, install, verify, unpacked, installed, verified, -, -, -, -, rfl, -⟩ := h
  simp only [List.mem_cons, List.not_mem_nil, or_false] at mem
  rcases mem with rfl | rfl | rfl <;> rfl

/-- The commands of a phase are all in its container. -/
theorem PhaseRun.exec_mem {container other : Container} {command : ShellCommand}
    {steps : List PhaseStep} {records : List StepRecord} {ending : PhaseEnd}
    {reply : Except GatewayError CommandOutput}
    (run : PhaseRun container steps ds records ending)
    (mem : .called (.exec other command) reply ∈ ds) : other = container := by
  rcases run.call_of_mem mem with ⟨command, reply, same⟩ | ⟨reply, same⟩
  · cases same
    rfl
  · cases same

/-- The calls that lead to a container run no command. -/
theorem Started.not_exec_mem {artifact : Artifact} {container other : Container}
    {command : ShellCommand} {reply : Except GatewayError CommandOutput}
    (h : Started ctx cell artifact container ds) :
    .called (.exec other command) reply ∉ ds := by
  obtain ⟨image, -, ⟨release, -, rfl⟩, rfl⟩ := h
  simp

/-- A cell that never had a container ran no command. -/
theorem Unstarted.not_exec_mem {other : Container} {command : ShellCommand}
    {reply : Except GatewayError CommandOutput} (h : Unstarted ctx cell ds) :
    .called (.exec other command) reply ∉ ds := by
  rcases h with rfl | ⟨artifact, -, ⟨release, reply, -, rfl⟩ |
    ⟨image, -, error, ⟨release, -, rfl⟩, rfl⟩⟩ <;> simp

/-- A cell runs commands only in a container it was handed before. The path is taken to a life,
and in a life the start comes first. -/
theorem start_mem_of_exec_mem {log : Program.Transcript CellAnswer} {rest : CellProgram Unit}
    {container : Container} {command : ShellCommand} {reply : Except GatewayError CommandOutput}
    (path : Program.Path (task ctx cell) log rest)
    (mem : .called (.exec container command) reply ∈ deeds log) :
    ∃ image options, .called (.start image options) (.ok container) ∈ deeds log := by
  -- A path is the beginning of a life, and the lives are known.
  obtain ⟨more, -, life⟩ := lives_of_path path
  generalize whole_eq : deeds log ++ more = whole at life
  have inWhole : .called (.exec container command) reply ∈ whole :=
    whole_eq ▸ List.mem_append_left more mem
  cases life with
  | skipped clock => cases List.mem_singleton.mp inWhole
  | @went p calls released clock arrives release =>
    have inCalls : .called (.exec container command) reply ∈ calls := by
      rcases List.mem_append.mp inWhole with inside | behind
      · exact inside
      · rcases List.mem_cons.mp behind with same | behind
        · cases same
        · cases (isRelease_of_mem_release release behind).dispatch?_eq_none
    cases holds : p.state.container? with
    | none => exact absurd inCalls (arrives.history.unstarted holds).not_exec_mem
    | some c =>
      obtain ⟨artifact, setup, phase, -, started, rfl, ran⟩ := arrives.history.equipped holds
      have inPhase : .called (.exec container command) reply ∈ phase :=
        (List.mem_append.mp inCalls).resolve_left started.not_exec_mem
      obtain rfl : container = c := by
        rcases ran with rfl | ⟨records, ending, run⟩
        · cases inPhase
        · exact run.exec_mem inPhase
      have setup_mem : ∃ image options,
          .called (.start image options) (.ok container) ∈ setup := by
        obtain ⟨image, built, -, rfl⟩ := started
        exact ⟨image, _, List.mem_append_right _ List.mem_cons_self⟩
      -- The command is behind the start, so what has been done reaches beyond the start.
      rw [List.append_assoc] at whole_eq
      rcases List.append_eq_append_iff.mp whole_eq with ⟨gap, rfl, -⟩ | ⟨done, log_eq, -⟩
      · exact absurd (List.mem_append_left gap mem) started.not_exec_mem
      · obtain ⟨image, options, start⟩ := setup_mem
        exact ⟨image, options, log_eq ▸ List.mem_append_left done start⟩

end Pipeline

namespace RunState

variable {s t : RunState} {plan : List PlannedCell} {clock : Nat}

/-- The commands the gateway saw, the oldest first, each with its task. -/
def dispatches (s : RunState) : List (Nat × Dispatch) := s.journal.filterMap RunEntry.dispatch?

/-- A command of a task is one of its deeds, or the call in which it broke off. -/
theorem mem_dispatches {i : Nat} {d : Dispatch} (mem : (i, d) ∈ s.dispatches) :
    (∃ reply, .called (.exec d.container d.command) reply ∈ s.deeds i) ∨
      .exec d.container d.command ∈ s.breaks i := by
  obtain ⟨entry, noted, is⟩ := List.mem_filterMap.mp mem
  cases entry with
  | answered j c reply =>
    cases c with
    | exec container command =>
      cases is
      exact .inl ⟨reply, mem_deeds_iff.mpr noted⟩
    | _ => cases is
  | panicked j c =>
    cases c with
    | exec container command =>
      cases is
      exact .inr (mem_breaks_iff.mpr noted)
    | _ => cases is
  | _ => cases is

/-- A task runs commands only in containers it was handed. -/
theorem handed_of_dispatch (h : Faithful s) {i : Nat} {d : Dispatch}
    (mem : (i, d) ∈ s.dispatches) : Handed s i d.container := by
  have noted : ¬ (s.deeds i = [] ∧ s.breaks i = []) := by
    rintro ⟨noDeeds, noBreaks⟩
    rcases mem_dispatches mem with ⟨reply, deed⟩ | broke
    · rw [noDeeds] at deed
      cases deed
    · rw [noBreaks] at broke
      cases broke
  obtain ⟨cell, status, found⟩ := h.exists_task noted
  have follows := h.follows found
  -- Answered commands are deeds, wherever the task has come since.
  have of_stands : ∀ {rest : CellProgram Unit}, Stands s i cell rest → s.breaks i = [] →
      Handed s i d.container := by
    rintro rest ⟨log, path, deeds_eq, -⟩ whole
    rcases mem_dispatches mem with ⟨reply, deed⟩ | broke
    · rw [deeds_eq] at deed
      unfold Handed
      rw [deeds_eq]
      exact Pipeline.start_mem_of_exec_mem path deed
    · rw [whole] at broke
      cases broke
  cases status with
  | waiting => exact absurd follows noted
  | running rest => exact of_stands follows.1 follows.2.1
  | done => exact of_stands follows.1 follows.2
  | panicked =>
    obtain ⟨c, next, ⟨log, path, deeds_eq, -⟩, broke⟩ := follows
    unfold Handed
    rw [deeds_eq]
    rcases mem_dispatches mem with ⟨reply, deed⟩ | inBreak
    · rw [deeds_eq] at deed
      exact Pipeline.start_mem_of_exec_mem path deed
    · -- Had the command been answered, it would be a deed, and the start one before it.
      rw [broke] at inBreak
      obtain rfl := List.mem_singleton.mp inBreak
      let reply : Except GatewayError CommandOutput := .error (.timeout "")
      have further := path.answer reply
      have last : .called (.exec d.container d.command) reply ∈
          CellProgram.deeds (log ++ [⟨.call (.exec d.container d.command), reply⟩]) := by
        rw [deeds_append]
        exact List.mem_append_right _ List.mem_cons_self
      obtain ⟨image, options, start⟩ := Pipeline.start_mem_of_exec_mem further last
      rw [deeds_append] at start
      refine ⟨image, options, (List.mem_append.mp start).resolve_right ?_⟩
      simp

/-- `WentBy s i cell r`: the task went the way of its cell to an end, handed in `r`, and
then at most gave its container up. -/
structure WentBy (s : RunState) (i : Nat) (cell : Cell) (p : Pipeline) (calls rest : List Deed)
    (r : CellResult) : Prop where
  arrives : Pipeline.Arrives s.context cell p calls
  result : ∃ clock, r = p.result clock
  deeds : s.deeds i = calls ++ .recorded r :: rest
  quiet : ∀ d ∈ rest, d.dispatch? = none
  late : ∀ c ∈ s.breaks i, c.isRelease = true

/-- A task that passed went its way, whether it broke off afterwards or not. -/
theorem Faithful.wentBy_of_pass (h : Faithful s) {i : Nat} {task : Task} {r : CellResult}
    (found : s.tasks[i]? = some task) (ended : task.isEnded = true)
    (reported : Reported s i task r) (pass : r.status = .pass) :
    ∃ p calls rest, WentBy s i task.cell p calls rest r := by
  obtain ⟨cell, status⟩ := task
  have once := reported.once
  unfold RunState.reported at once
  -- A task that handed in a pass is over, or it broke off afterwards in giving up its container.
  cases status with
  | waiting | running => cases ended
  | done =>
    obtain ⟨life, whole⟩ := h.lives_of_done found
    generalize deeds_eq : s.deeds i = ds at life once
    cases life with
    | skipped clock =>
      cases once
      cases pass
    | @went p calls released clock arrives release =>
      rw [arrives.results (Pipeline.filterMap_result?_of_release release)] at once
      cases once
      refine ⟨p, calls, released, arrives, ⟨clock, rfl⟩, deeds_eq, ?_, ?_⟩
      · exact fun d mem => (Pipeline.isRelease_of_mem_release release mem).dispatch?_eq_none
      · rw [whole]
        exact fun c mem => nomatch mem
  | panicked =>
    obtain ⟨c, next, ⟨log, path, deeds_eq, -⟩, broke⟩ := h.follows found
    rw [deeds_eq] at once
    rcases Pipeline.stands_at_call path with ⟨-, work⟩ |
      ⟨p, calls, clock, container, rfl, deeds_log, arrives, -⟩
    · -- On its way it had handed in nothing.
      rw [filterMap_result?_of_work work] at once
      cases once
    · rw [deeds_log, arrives.results rfl] at once
      cases once
      refine ⟨p, calls, [], arrives, ⟨clock, rfl⟩, deeds_eq.trans deeds_log, by simp, ?_⟩
      intro c mem
      rw [broke, List.mem_singleton] at mem
      rw [mem]
      exact Pipeline.isRelease_releaseCall s.context container

/-- What a task did that passed: what led to its container, its phase, and, with its
result handed in, at most the release. -/
theorem Faithful.deeds_of_pass (h : Faithful s) {i : Nat} {task : Task} {r : CellResult}
    (found : s.tasks[i]? = some task) (ended : task.isEnded = true)
    (reported : Reported s i task r) (pass : r.status = .pass) :
    ∃ artifact container setup phase rest,
      Pipeline.archiveOf s.context task.cell = .ok artifact ∧
      Pipeline.Started s.context task.cell artifact container setup ∧
      Pipeline.Passed s.context task.cell artifact container phase ∧
      s.deeds i = setup ++ phase ++ .recorded r :: rest ∧
      (∀ d ∈ rest, d.dispatch? = none) ∧ ∀ c ∈ s.breaks i, c.isRelease = true := by
  obtain ⟨p, calls, rest, arrives, ⟨clock, rfl⟩, deeds_eq, quiet, late⟩ :=
    h.wentBy_of_pass found ended reported pass
  obtain ⟨container, completed⟩ := Pipeline.status_result_eq_pass_iff.mp pass
  -- A result says pass only if the cell was completed.
  have history := arrives.history
  rw [completed] at history
  obtain ⟨artifact, archive, setup, phase, started, rfl, passed⟩ := history
  exact ⟨artifact, container, setup, phase, rest, archive, started, passed, deeds_eq, quiet, late⟩

/-- The commands of a task are its deeds, if it did not break off in one. -/
theorem filter_dispatches_eq {i : Nat} (late : ∀ c ∈ s.breaks i, c.isRelease = true) :
    (s.dispatches.filter fun d => d.1 = i)
      = ((s.deeds i).filterMap Deed.dispatch?).map fun d => (i, d) := by
  unfold dispatches deeds
  rw [List.filter_filterMap, List.filterMap_filterMap, List.map_filterMap]
  refine List.filterMap_congr fun entry noted => ?_
  -- Entry by entry: it is of this task, and then both sides read it alike, or both pass it over.
  cases entry with
  | answered j c reply =>
    by_cases same : j = i
    · subst same
      cases c <;> simp [RunEntry.dispatch?, RunEntry.deedOf?, Deed.dispatch?]
    · cases c <;> simp [RunEntry.dispatch?, RunEntry.deedOf?, same]
  | panicked j c =>
    by_cases same : j = i
    · -- The task broke off in giving its container up, which is no command.
      subst same
      have release := late c (mem_breaks_iff.mpr noted)
      cases c with
      | build | start | exec | logs => cases release
      | remove | retain => rfl
    · cases c <;> simp [RunEntry.dispatch?, RunEntry.deedOf?, same]
  | recorded task r =>
    cases task with
    | none => rfl
    | some j =>
      by_cases same : j = i <;>
        simp [RunEntry.dispatch?, RunEntry.deedOf?, Deed.dispatch?, same]
  | _ => rfl

/-! ### The verdict -/

/-- `Installed context t i cell artifact container seen`: the task was handed the container
for its archive and ran the phase of its cell in it, of which the gateway saw `seen`. -/
structure Installed (context : RunContext) (t : RunState) (i : Nat) (cell : Cell)
    (artifact : Artifact) (container : Container) (seen : List Dispatch) : Prop where
  archive : Pipeline.archiveOf context cell = .ok artifact
  handed : ∃ image,
    .called (.start image (Pipeline.startOptions cell artifact)) (.ok container) ∈ t.deeds i
  /-- The three requests, each answered with exit code zero. -/
  passed : Pipeline.SeenToPass context cell artifact container seen
  /-- The gateway saw nothing else of the task. -/
  own : (t.dispatches.filter fun d => d.1 = i) = seen.map fun d => (i, d)
  /-- The gateway saw nothing else in the container, if it handed it to this task alone. -/
  inside : (∀ j, Handed t j container → j = i) →
    (t.dispatches.filter fun d => d.2.container = container) = seen.map fun d => (i, d)

/-- The cell passed: so says the result its task handed in, and the commands bear it out. -/
def Green (context : RunContext) (t : RunState) (cell : Cell) : Prop :=
  ∃ i task r, t.tasks[i]? = some task ∧ task.cell = cell ∧ r ∈ t.results.results ∧
    Reported t i task r ∧ r.status = .pass ∧
      ∃ artifact container seen, Installed context t i cell artifact container seen

/-- A task that passed has installed. The result passes only if the cell was completed, and a
completed cell has gone through the phase of its identity. -/
theorem Faithful.installed (h : Faithful s) {i : Nat} {task : Task} {r : CellResult}
    (found : s.tasks[i]? = some task) (ended : task.isEnded = true)
    (reported : Reported s i task r) (pass : r.status = .pass) :
    ∃ artifact container seen, Installed s.context s i task.cell artifact container seen := by
  obtain ⟨artifact, container, setup, phase, rest, archive, started, ⟨records, run⟩, deeds_eq,
    quiet, late⟩ := h.deeds_of_pass found ended reported pass
  have passed := Pipeline.seenToPass_of_forall₂ (run.dispatches_of_passed rfl)
  -- The commands among its deeds are those of the phase, with none before or behind.
  have own : (s.dispatches.filter fun d => d.1 = i) =
      (phase.filterMap Deed.dispatch?).map fun d => (i, d) := by
    have before : setup.filterMap Deed.dispatch? = [] := by
      obtain ⟨image, -, ⟨release, -, rfl⟩, rfl⟩ := started
      rfl
    have behind : (Deed.recorded r :: rest).filterMap Deed.dispatch? = [] := by
      rw [List.filterMap_eq_nil_iff]
      intro d mem
      rcases List.mem_cons.mp mem with rfl | mem
      · rfl
      · exact quiet d mem
    rw [filter_dispatches_eq late, deeds_eq, List.filterMap_append, List.filterMap_append,
      before, behind, List.nil_append, List.append_nil]
  refine ⟨artifact, container, _, archive, ?_, passed, own, fun alone => ?_⟩
  · obtain ⟨image, first, -, rfl⟩ := started
    rw [deeds_eq]
    exact ⟨image, by simp⟩
  · -- A command in the container is one of the task, for nobody else was handed it.
    rw [← own]
    refine List.filter_congr fun d mem => ?_
    obtain ⟨j, d⟩ := d
    have here : d.container = container ↔ j = i := by
      constructor
      · rintro rfl
        exact alone j (handed_of_dispatch h mem)
      · rintro rfl
        have seen : (j, d) ∈ s.dispatches.filter fun d => d.1 = j :=
          List.mem_filter.mpr ⟨mem, decide_eq_true rfl⟩
        rw [own] at seen
        obtain ⟨d', isOne, same⟩ := List.mem_map.mp seen
        cases same
        exact passed.container_of_mem isOne
    simp only [here]

/-- Without a failure and without a cancellation, every task of an accounted run passed. -/
theorem Accounts.passed (a : Accounts plan t) (uncancelled : t.cancelled = false)
    (zero : t.results.exitCode = 0) {i : Nat} {task : Task} (found : t.tasks[i]? = some task) :
    ∃ r ∈ t.results.results, Reported t i task r ∧ r.status = .pass := by
  obtain ⟨skipped, ran, perm, -, length, settled⟩ := a.settled
  have inside : i < ran.length := length ▸ (List.getElem?_eq_some_iff.mp found).1
  have at_ : ran[i]? = some ran[i] := List.getElem?_eq_getElem inside
  have mem : ran[i] ∈ t.results.results :=
    perm.mem_iff.mpr (List.mem_append_right _ (List.getElem_mem inside))
  have noFail := (ResultSet.exitCode_eq_zero_iff t.results).mp zero _ mem
  -- A result made up for a lost task would be a failure.
  rcases settled i task _ found at_ with reported | ⟨-, clock, made⟩
  · refine ⟨ran[i], mem, reported, ?_⟩
    rcases reported.verdict with pass | fail | ⟨-, wasCancelled⟩
    · exact pass
    · exact absurd fail noFail
    · rw [uncancelled] at wasCancelled
      cases wasCancelled
  · rw [made] at noFail
    exact absurd rfl noFail

/-- A run that was never cancelled and ends with exit code zero has every cell of its plan
green that was to be run. If one of them is not, the exit code is one. -/
theorem exitCode_sound {context : RunContext} {cancelled : Bool} {events : List RunEvent}
    (run : Reaches (start context plan cancelled) events t)
    (distinct : (plan.map fun entry => entry.cell.label).Nodup) (finished : t.finished = true)
    (uncancelled : t.cancelled = false) :
    (t.results.exitCode = 0 → ∀ cell, .run cell ∈ plan → Green context t cell) ∧
      ((∃ cell, .run cell ∈ plan ∧ ¬ Green context t cell) → t.results.exitCode = 1) := by
  have faithful := faithful_of_reaches run
  obtain ⟨s, clock, earlier, reached, open_, c⟩ := exists_concludes rfl run finished
  have accounts := c.accounts (faithful_of_reaches reached) (takenUp_of_reaches reached open_)
    (.inl distinct)
  have same : t.context = context :=
    run.invariant (fun t => t.context = context)
      (fun before happens => happens.context_eq.trans before) rfl
  have green : t.results.exitCode = 0 → ∀ cell, .run cell ∈ plan → Green context t cell := by
    intro zero cell planned
    have isTask : cell ∈ t.tasks.map Task.cell := by
      rw [accounts.tasks]
      exact List.mem_filterMap.mpr ⟨_, planned, rfl⟩
    obtain ⟨task, mem, rfl⟩ := List.mem_map.mp isTask
    obtain ⟨i, found⟩ := List.getElem?_of_mem mem
    obtain ⟨r, recorded, reported, pass⟩ := accounts.passed uncancelled zero found
    refine ⟨i, task, r, found, rfl, recorded, reported, pass, ?_⟩
    exact same ▸ faithful.installed found (accounts.ended task mem) reported pass
  -- The second half is the first one read backwards, since the code is 0 or 1.
  refine ⟨green, fun ⟨cell, planned, notGreen⟩ => ?_⟩
  exact ResultSet.exitCode_eq_one_of_ne_zero fun zero => notGreen (green zero cell planned)

end RunState

/-- The engine at its best, with another container for the cell of the ordinary account. -/
def Sample.hopefulBeside : (c : Call) → c.Reply
  | .start _ _ => .ok { Sample.container with id := "c2", name := "install-matrix-2" }
  | c => Sample.hopeful c

namespace RunState

/-- The installs of root and user of one release run side by side, with every call answered as
hoped for. Their six commands alternate, and yet each cell is green: the commands of each one's
own container are the three of its own phase. -/
theorem exitCode_sound_of_interleaved_installs :
    ∃ events t, Reaches (start Sample.context
        [.run Sample.cell, .run Sample.user] false) events t ∧
      t.dispatches.map (fun d => (d.1, d.2.container.id))
        = [(0, "c1"), (1, "c2"), (1, "c2"), (0, "c1"), (1, "c2"), (0, "c1")] ∧
      t.results.exitCode = 0 ∧ Green Sample.context t Sample.cell ∧
        Green Sample.context t Sample.user := by
  let plan : List PlannedCell := [.run Sample.cell, .run Sample.user]
  let seen (t : RunState) : List (Nat × String) :=
    t.dispatches.map fun d => (d.1, d.2.container.id)
  obtain ⟨t, run, ends⟩ : ∃ t, Reaches (start Sample.context plan false)
      -- Each cell waits at some point while a command of the other is answered.
      [.take 0, .grant 0, .proceed 0 1, .proceed 0 2, .take 2, .grant 1, .proceed 1 3,
        .proceed 0 3, .proceed 1 4, .proceed 1 4, .reply 0 Sample.hopeful,
        .reply 1 Sample.hopefulBeside, .proceed 1 5, .proceed 0 5, .reply 1 Sample.hopefulBeside,
        .reply 0 Sample.hopeful, .proceed 0 6, .proceed 0 6, .proceed 1 6, .proceed 1 7,
        .reply 0 Sample.hopeful, .proceed 1 8, .reply 1 Sample.hopefulBeside, .proceed 1 9,
        .reply 1 Sample.hopefulBeside, .proceed 0 10, .reply 0 Sample.hopeful, .proceed 1 11,
        .reply 1 Sample.hopefulBeside, .proceed 1 12, .proceed 0 12, .reply 0 Sample.hopeful,
        .proceed 1 13, .proceed 1 14, .proceed 0 14, .proceed 0 14, .proceed 0 15,
        .reply 1 Sample.hopefulBeside, .proceed 0 16, .reply 0 Sample.hopeful,
        .finish (.ok 0) 17] t ∧
      (t.finished && !t.cancelled && t.results.exitCode == 0 && seen t
        == [(0, "c1"), (1, "c2"), (1, "c2"), (0, "c1"), (1, "c2"), (0, "c1")]) = true :=
    exists_reaches_of_after (by decide +kernel)
  simp only [Bool.and_eq_true, Bool.not_eq_true', beq_iff_eq] at ends
  obtain ⟨⟨⟨finished, uncancelled⟩, zero⟩, alternate⟩ := ends
  have distinct : (plan.map fun entry => entry.cell.label).Nodup := by decide +kernel
  have green := (exitCode_sound run distinct finished uncancelled).1 zero
  exact ⟨_, t, run, alternate, zero, green _ List.mem_cons_self,
    green _ (List.mem_cons_of_mem _ List.mem_cons_self)⟩

end RunState

end InstallMatrix
