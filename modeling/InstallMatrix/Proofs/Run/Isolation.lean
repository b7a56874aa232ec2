import InstallMatrix.Proofs.Results.Summary
import InstallMatrix.Proofs.Run.Account
import InstallMatrix.Proofs.Run.Containers
import InstallMatrix.Proofs.Run.Supply

/-!
# `InstallMatrix.Proofs.Run.Isolation`: no cell influences another

The cells of a rehearsal share one gateway, with its images, its live containers and the
numbers it gives them. Let no rule hang, and let nothing cancel the run, break a task off or
answer in the place of the gateway. Then every cell has the result it would have alone, and
the results of two rehearsals differ in nothing but times and order: `isolated_of_rehearsal`.

The invariant is `Undisturbed`: every call so far had its ideal reply. For the next call it
has to be known that the gateway has what the call needs (`Kept.ready`). An image
that was built stays, whoever asked for it (`Stocked`), and a container that was handed to a
task is live until that task gives it up, which is what the books of the gateway say (`Kept`).
-/

set_option autoImplicit false

namespace InstallMatrix

open CellProgram MemoryGateway PlannedCell

/-- Nothing interferes: the run is not cancelled, no task breaks off, and every call reaches
the gateway. -/
def RehearsalEvent.isPlain : RehearsalEvent → Bool
  | .inner .cancel => false
  | .fail _ _ => false
  | .panic _ => false
  | .sweepFails _ _ => false
  | _ => true

/-- The context with another number of cells that may run at once. -/
def RunContext.withParallel (ctx : RunContext) (n : Nat) : RunContext :=
  { ctx with settings := { ctx.settings with maxParallel := n } }

/-- The result of an entry, times left out: that of its cell driven alone, or that it was
skipped. -/
def PlannedCell.expected (ctx : RunContext) (b : MemoryBehaviour) : PlannedCell → CellResult
  | .run cell => (Alone.resultOf ctx b cell 0).timeless
  | .skip cell reason => .skipped cell reason (.ofNanoseconds 0)

namespace RunState

variable {s t : RunState} {e : RunEvent} {i : Nat} {c : Call} {reply : c.Reply}

/-! ### What an event leaves as it is -/

/-- Only a cancellation cancels a run. -/
theorem Happens.cancelled_eq (happens : Happens s e t) (other : e ≠ .cancel) :
    t.cancelled = s.cancelled := by
  cases happens with
  | @take entry planned clock next => cases entry <;> rfl
  | grant | abort | look | handIn | reply | abandon | panic | finish => rfl
  | cancel => exact absurd rfl other

/-- Only breaking off is noted as such. -/
theorem Happens.breaks_eq (happens : Happens s e t) (other : ∀ j, e ≠ .panic j) (i : Nat) :
    t.breaks i = s.breaks i := by
  cases happens with
  | @take entry planned clock next =>
    cases entry with
    | run cell => rfl
    | skip cell reason => simp [breaks, takeUp, record, note, RunEntry.breakOf?]
  | grant | look => rfl
  | abort | handIn | reply | abandon =>
    simp [breaks, setStatus, record, note, RunEntry.breakOf?]
  | panic => exact absurd rfl (other _)
  | cancel => simp [breaks, note, RunEntry.breakOf?]
  | finish removed clock taken ended unfinished =>
    exact (concludes_complete taken ended removed).breaks i

/-! ### Undisturbed runs -/

/-- What a plain event does to a run and to its gateway. A build is noted before it is answered;
all other calls are answered at once. Faults and cancellations are no plain events. -/
inductive Goes (s : RunState) (g : MemoryGateway) : RunState → MemoryGateway → Prop
  | asked (d : Definition) : Goes s g s (g.requestBuild d)
  | inner {e : RunEvent} {t : RunState} (happens : Happens s e t) (inner : e.isInner = true)
      (other : e ≠ .cancel) : Goes s g t g
  | answered {i : Nat} {c : Call} {reply : c.Reply} {t : RunState} {g' : MemoryGateway}
      (stands : s.callOf? i = some c) (stepped : s.step (.reply i (c.answering reply)) = some t)
      (replies : g.Replies c reply g') : Goes s g t g'
  | swept {removed : Except GatewayError Nat} {clock : Nat} {t : RunState}
      (happens : Happens s (.finish removed clock) t) : Goes s g t g.sweep.2

variable {b : MemoryBehaviour} {g g' : MemoryGateway}

/-- The run was not cancelled, no task broke off, and every call had its ideal reply. Under this
condition the answers of a cell are those it would have had alone, but for times and ids. -/
structure Undisturbed (b : MemoryBehaviour) (s : RunState) (g : MemoryGateway) : Prop where
  uncancelled : s.cancelled = false
  unbroken : ∀ i, s.breaks i = []
  behaviour : g.behaviour = b
  ideal : ∀ {i c reply}, .called c reply ∈ s.deeds i → c.essence reply = b.ideal c

/-- A run is undisturbed before its first event, for nobody has called anything yet. -/
theorem undisturbed_start (context : RunContext) (plan : List PlannedCell)
    (b : MemoryBehaviour) : Undisturbed b (start context plan false) (.fresh b) :=
  ⟨rfl, fun _ => rfl, rfl, nofun⟩

/-- As long as no call is answered, there is nothing new to show. This covers looks, results,
permits and the taking up of entries. -/
theorem Undisturbed.quiet (h : Undisturbed b s g) (happens : Happens s e t) (other : e ≠ .cancel)
    (whole : ∀ j, e ≠ .panic j)
    (calls : ∀ {i c reply}, .called c reply ∈ t.deeds i → .called c reply ∈ s.deeds i) :
    Undisturbed b t g where
  uncancelled := (happens.cancelled_eq other).trans h.uncancelled
  unbroken i := (happens.breaks_eq whole i).trans (h.unbroken i)
  behaviour := h.behaviour
  ideal mem := h.ideal (calls mem)

/-- The task has an ideal reply. Everybody else's replies were ideal before. -/
theorem Undisturbed.answered (h : Undisturbed b s g) (happens : Happens s e t) (other : e ≠ .cancel)
    (whole : ∀ j, e ≠ .panic j) (answered : Answered s t i c reply)
    (replies : g.Replies c reply g') : Undisturbed b t g' where
  uncancelled := (happens.cancelled_eq other).trans h.uncancelled
  unbroken i := (happens.breaks_eq whole i).trans (h.unbroken i)
  behaviour := replies.behaviour.trans h.behaviour
  ideal mem := by
    rcases answered.mem_deeds_iff.mp mem with old | ⟨-, same⟩
    · exact h.ideal old
    · cases same
      exact h.behaviour ▸ replies.ideal

/-- Every plain event leaves a run undisturbed. The cases are those of `Goes`, and only a reply
has to be looked at. -/
theorem Undisturbed.goes (h : Undisturbed b s g) (goes : Goes s g t g') : Undisturbed b t g' := by
  cases goes with
  | asked d => exact ⟨h.uncancelled, h.unbroken, h.behaviour, h.ideal⟩
  | inner happens inner other =>
    refine h.quiet happens other ?_ (called_mem_of_inner happens inner)
    rintro i rfl
    cases inner
  | answered stands stepped replies =>
    have happens := happens_of_step stepped
    exact h.answered happens nofun nofun (happens.answered stands) replies
  | swept happens =>
    have after := h.quiet happens nofun nofun fun {i c reply} mem =>
      deeds_eq_of_finish happens i ▸ mem
    exact ⟨after.uncancelled, after.unbroken, after.behaviour, after.ideal⟩

/-- The gateway has what a task calls for. Of the image this is known of every rehearsal, and the
container is live because the task has not given it up yet. -/
theorem Kept.ready (kept : Kept s g.books) (stocked : Stocked s g)
    (stands : s.callOf? i = some c) : g.Ready c := by
  obtain ⟨cell, next, found⟩ := callOf?_eq_some stands
  have follows : Stands s i cell _ := (kept.faithful.follows found).1
  have supplies : g.Supplies (s.deeds i) := by
    refine ⟨fun {d image} mem => stocked mem, fun {image options container} mem => ?_⟩
    exact (kept.live ⟨image, options, mem⟩).resolve_right follows.at_call.1
  obtain ⟨log, path, deeds_eq, -⟩ := follows
  refine supplies.ready ?_
  rw [deeds_eq]
  exact Pipeline.grounded_of_path path

/-! ### Ideal results -/

/-- In an undisturbed run no task has broken off, as there is no call in which it did. -/
theorem Undisturbed.not_panicked (h : Undisturbed b s g) (faithful : Faithful s) {task : Task}
    (mem : task ∈ s.tasks) : task.status ≠ .panicked := by
  obtain ⟨i, found⟩ := List.mem_iff_getElem?.mp mem
  obtain ⟨cell, status⟩ := task
  rintro rfl
  obtain ⟨c, next, -, broke⟩ := faithful.follows found
  rw [h.unbroken i] at broke
  cases broke

/-- Times apart, a task that has ended has handed in the ideal result. -/
theorem Undisturbed.reported (h : Undisturbed b s g) (faithful : Faithful s) {task : Task}
    (found : s.tasks[i]? = some task) (ended : task.isEnded = true) :
    ∃ r, s.reported i = [r] ∧ r.timeless = Pipeline.idealResult s.context b task.cell := by
  have whole := h.not_panicked faithful (List.mem_of_getElem? found)
  obtain ⟨cell, status⟩ := task
  cases status with
  | waiting | running => cases ended
  | panicked => exact absurd rfl whole
  | done =>
    obtain ⟨⟨log, path, deeds_eq, honest⟩, -⟩ := faithful.follows found
    -- Every answer the task got is the one it would get alone, whatever the others did meanwhile.
    have given : Program.Allowed (Given b) log := by
      intro q a mem
      cases q with
      | observe =>
        cases seen : a.cancelled with
        | false => exact seen
        | true =>
          have cancelled := honest a mem seen
          rw [h.uncancelled] at cancelled
          cases cancelled
      | call c =>
        apply h.ideal (i := i)
        rw [deeds_eq]
        exact List.mem_filterMap.mpr ⟨_, mem, rfl⟩
      | record r => trivial
    obtain ⟨r, results, ideal⟩ := Pipeline.timeless_of_given path given
    exact ⟨r, by rw [RunState.reported, deeds_eq, results], ideal⟩

/-- So what is settled for a task is the ideal result: none was lost. -/
theorem Undisturbed.timeless_of_settled (h : Undisturbed b s g) (faithful : Faithful s)
    {task : Task} (ended : task.isEnded = true) (found : s.tasks[i]? = some task) {r : CellResult}
    (settled : Settled s i task r) :
    r.timeless = Pipeline.idealResult s.context b task.cell := by
  obtain ⟨r', once, ideal⟩ := h.reported faithful found ended
  rcases settled with reported | ⟨lost, -⟩
  · have sole := reported.once
    rw [once] at sole
    cases sole
    exact ideal
  · exact absurd lost.panicked (h.not_panicked faithful (List.mem_of_getElem? found))

/-! ### The results of a run -/

variable {context : RunContext} {plan : List PlannedCell}

/-- What a run comes to whose cells do not influence each other: each of them has the result it
would have had alone, and there is no other result. -/
structure Isolated (context : RunContext) (b : MemoryBehaviour) (plan : List PlannedCell)
    (s : RunState) : Prop where
  /-- Every cell that is to be run has a task, in the order of the plan. -/
  tasks : s.tasks.map Task.cell = runCells plan
  /-- A task has recorded one result, which times apart is that of its cell driven alone. -/
  alone : ∀ {i task}, s.tasks[i]? = some task → ∃ r, s.reported i = [r] ∧
    r ∈ s.results.results ∧
      ∀ clock, r.timeless = (Alone.resultOf context b task.cell clock).timeless
  /-- There are no results but those, and those of the skipped entries. -/
  results : (s.results.results.map CellResult.timeless).Perm (plan.map (expected context b))

/-- The results of skipped entries are the expected ones. -/
theorem map_timeless_of_skippedAs {entries : List PlannedCell} {results : List CellResult}
    (h : List.Forall₂ SkippedAs entries results) :
    results.map CellResult.timeless = entries.map (expected context b) := by
  induction h with
  | nil => rfl
  | @cons entry r entries results first _ ih =>
    cases entry with
    | run c => cases first
    | skip c reason =>
      obtain ⟨clock, rfl⟩ := first
      rw [List.map_cons, List.map_cons, ih]
      rfl

/-- An undisturbed run that is accounted for was one of isolated cells. The accounts say that each
task has one result, and that result is the ideal one, as it is for the cell alone. -/
theorem Undisturbed.isolated (h : Undisturbed b s g) (prompt : b.Prompt) (faithful : Faithful s)
    (accounts : Accounts plan s) : Isolated s.context b plan s := by
  let result (c : Cell) : CellResult := Pipeline.idealResult s.context b c
  constructor
  case tasks => exact accounts.tasks
  case alone =>
    intro i task found
    obtain ⟨r, once, ideal⟩ :=
      h.reported faithful found (accounts.ended _ (List.mem_of_getElem? found))
    refine ⟨r, once, faithful.mem_results (once ▸ List.mem_singleton.mpr rfl), fun clock => ?_⟩
    rw [ideal, Alone.timeless_resultOf s.context prompt]
  case results =>
    obtain ⟨skipped, ran, perm, reasons, length, settled⟩ := accounts.settled
    -- The task at each place settles the result at the same place.
    have own : ran.map CellResult.timeless = s.tasks.map fun task => result task.cell := by
      refine List.ext_getElem (by simp [length]) fun i left right => ?_
      have inTasks : i < s.tasks.length := by simpa using right
      have inRan : i < ran.length := length ▸ inTasks
      rw [List.getElem_map, List.getElem_map]
      exact h.timeless_of_settled faithful
        (accounts.ended _ (List.getElem_mem inTasks)) (List.getElem?_eq_getElem inTasks)
        (settled i _ _ (List.getElem?_eq_getElem inTasks) (List.getElem?_eq_getElem inRan))
    have cells : (s.tasks.map fun task => result task.cell) = (runCells plan).map result := by
      rw [← accounts.tasks, List.map_map]
      rfl
    have expects (c : Cell) : expected s.context b (.run c) = result c :=
      Alone.timeless_resultOf s.context prompt c 0
    refine (perm.map CellResult.timeless).trans ?_
    rw [List.map_append, own, cells, map_timeless_of_skippedAs reasons]
    exact (map_perm expects plan).symm

/-- The two runs report the same: their counts agree and, if the plan names no cell twice,
their sorted results, times apart. -/
structure SameReport (plan : List PlannedCell) (s t : RunState) : Prop where
  sorted : (plan.map PlannedCell.cell).Nodup →
    t.results.sorted.map CellResult.timeless = s.results.sorted.map CellResult.timeless
  summary : t.results.summarize = s.results.summarize
  exitCode : t.results.exitCode = s.results.exitCode

end RunState

namespace ResultSet

/-- Times do not count: no table of the summary is about them. -/
theorem summarize_map_timeless (s : ResultSet) :
    summarize ⟨s.results.map CellResult.timeless⟩ = s.summarize :=
  List.foldl_map

/-- Results are sorted by their cells, not by their times. -/
theorem map_timeless_sorted (s : ResultSet) :
    s.sorted.map CellResult.timeless = sorted ⟨s.results.map CellResult.timeless⟩ :=
  List.map_mergeSort fun _ _ _ _ => rfl

end ResultSet

/-- The expected result of an entry is that of its cell. -/
theorem PlannedCell.cell_expected (ctx : RunContext) (b : MemoryBehaviour)
    (entry : PlannedCell) : (entry.expected ctx b).cell = entry.cell := by
  cases entry with
  | run cell => exact Alone.cell_resultOf ctx b cell 0
  | skip cell reason => rfl

namespace RunState

variable {s t : RunState} {b : MemoryBehaviour} {plan : List PlannedCell}
  {context other : RunContext}

/-- Runs of isolated cells report the same, if each cell alone has the same result in both.
Sorting and counting do not see the times, so it is enough that the results agree without them. -/
theorem Isolated.sameReport (h : Isolated context b plan s) (h' : Isolated other b plan t)
    (same : expected other b = expected context b) : SameReport plan s t := by
  have perm : (t.results.results.map CellResult.timeless).Perm
      (s.results.results.map CellResult.timeless) :=
    h'.results.trans (same ▸ h.results.symm)
  have summary : t.results.summarize = s.results.summarize := by
    rw [← t.results.summarize_map_timeless, ← s.results.summarize_map_timeless]
    exact ResultSet.summarize_eq_of_perm perm
  refine ⟨fun distinct => ?_, summary, congrArg Summary.exitCode summary⟩
  rw [ResultSet.map_timeless_sorted, ResultSet.map_timeless_sorted]
  refine ResultSet.sorted_eq_of_perm perm ?_
  -- The cells of the results are those of the plan.
  have cells := h'.results.map CellResult.cell
  rw [List.map_map (l := plan)] at cells
  refine cells.nodup_iff.mpr ?_
  have own : CellResult.cell ∘ expected other b = PlannedCell.cell :=
    funext (cell_expected other b)
  rw [own]
  exact distinct

end RunState

namespace Pipeline

/-- A cell on its way does not look at how many others may run. The number is read where permits
are granted, and nowhere else. -/
theorem driveFor_withParallel (ctx : RunContext) (parallel n : Nat) (p : Pipeline) :
    driveFor (ctx.withParallel parallel) n p = driveFor ctx n p := by
  induction n generalizing p with
  | zero => rfl
  | succ n ih =>
    have step : p.advance (ctx.withParallel parallel) = p.advance ctx := rfl
    unfold driveFor
    rw [step, funext ih]

end Pipeline

/-- A cell that is driven alone does not look at how many others might run. -/
theorem Alone.resultOf_withParallel (ctx : RunContext) (parallel : Nat) (b : MemoryBehaviour)
    (cell : Cell) (clock : Nat) :
    resultOf (ctx.withParallel parallel) b cell clock = resultOf ctx b cell clock := by
  unfold resultOf Pipeline.drive
  rw [Pipeline.driveFor_withParallel]

/-- So what is expected of a plan does not depend on that number, either. -/
theorem PlannedCell.expected_withParallel (ctx : RunContext) (parallel : Nat)
    (b : MemoryBehaviour) : expected (ctx.withParallel parallel) b = expected ctx b := by
  funext entry
  cases entry with
  | skip cell reason => rfl
  | run cell =>
    exact congrArg CellResult.timeless (Alone.resultOf_withParallel ctx parallel b cell 0)

namespace Rehearsal

open RunState

variable {r q : Rehearsal} {e : RehearsalEvent} {context : RunContext} {plan : List PlannedCell}
  {behaviour : MemoryBehaviour}

/-- If the gateway has what the tasks call for, a plain event does what `Goes` lists. Readiness is
assumed here and comes from the stock of images and from the books on containers. -/
theorem goes_of_step (h : r.step e = some q) (plain : e.isPlain = true)
    (uncancelled : r.run.cancelled = false) (prompt : r.gateway.behaviour.Prompt)
    (ready : ∀ {i c}, r.run.callOf? i = some c → r.gateway.Ready c) :
    Goes r.run r.gateway q.run q.gateway := by
  cases occurs_of_step h with
  | inner inner happens =>
    refine .inner happens inner ?_
    rintro rfl
    cases plain
  | @serve i c stands =>
    obtain ⟨reply, g, served, replies⟩ := serve_of_ready (ready stands) prompt
    obtain ⟨t, happens, after⟩ := exists_afterServe_replied stands reply r.held
    rw [uncancelled, served, after]
    exact .answered stands happens.step_eq replies
  | @begin i d => exact .asked d
  | @complete i d t stands held happens =>
    exact .answered stands happens.step_eq (replies_finishBuild r.gateway d)
  | giveUp cancelled =>
    -- Nothing is given up in a run that is not cancelled.
    rw [uncancelled] at cancelled
    cases cancelled
  | sweep happens => exact .swept happens
  | fail | panic | sweepFails => cases plain

/-- A run in which a task stands at a call is not finished. -/
theorem Sound.unfinished {cancelled : Bool} (h : Sound context plan cancelled r) {i : Nat}
    {c : Call} (stands : r.run.callOf? i = some c) : r.run.finished = false := by
  cases past : r.run.finished with
  | false => rfl
  | true =>
    obtain ⟨cell, next, found⟩ := callOf?_eq_some stands
    obtain ⟨events, reached⟩ := h.reached
    obtain ⟨s, clock, earlier, -, -, concludes⟩ := exists_concludes rfl reached past
    rw [concludes.tasks] at found
    cases concludes.ended _ (List.mem_of_getElem? found)

/-- A plain rehearsal is undisturbed from its start on. The induction is on the events, and
soundness is carried along because it says that the containers are there. -/
theorem undisturbed_of_reaches {events : List RehearsalEvent} (prompt : behaviour.Prompt)
    (h : Undisturbed behaviour r.run r.gateway) (sound : Sound context plan false r)
    (stocked : Stocked r.run r.gateway) (rehearsal : Reaches r events q)
    (plain : ∀ e ∈ events, e.isPlain = true) :
    Undisturbed behaviour q.run q.gateway ∧ Sound context plan false q := by
  induction rehearsal with
  | here r => exact ⟨h, sound⟩
  | @step r q u e events first rest ih =>
    have head : e.isPlain = true := plain _ List.mem_cons_self
    have goes : Goes r.run r.gateway q.run q.gateway := by
      refine goes_of_step first head h.uncancelled (h.behaviour.symm ▸ prompt) fun stands => ?_
      exact (sound.kept (sound.unfinished stands)).ready stocked stands
    -- A plain event is no failed sweep, so the bookkeeping goes on.
    refine ih (h.goes goes) (sound.step first ?_) (stocked_step stocked first)
      fun e mem => plain e (List.mem_cons_of_mem _ mem)
    rintro error clock rfl
    cases head

/-- No cell influences another one: in every plain rehearsal on a gateway whose rules let
nothing hang, however its tasks interleave, each cell has the result it has alone. So the
report is the same for every interleaving and every number of cells that may run at once. -/
theorem isolated_of_rehearsal {events : List RehearsalEvent}
    (rehearsal : Reaches (start context plan false behaviour) events r)
    (plain : ∀ e ∈ events, e.isPlain = true) (prompt : behaviour.Prompt)
    (finished : r.run.finished = true) :
    Isolated context behaviour plan r.run ∧
      ∀ {n : Nat} {more : List RehearsalEvent} {q : Rehearsal},
        Reaches (start (context.withParallel n) plan false behaviour) more q →
          (∀ e ∈ more, e.isPlain = true) → q.run.finished = true →
            SameReport plan r.run q.run := by
  -- The bound on parallel tasks is free, so the same argument serves both runs.
  have isolated {context : RunContext} {events : List RehearsalEvent} {r : Rehearsal}
      (rehearsal : Reaches (start context plan false behaviour) events r)
      (plain : ∀ e ∈ events, e.isPlain = true) (finished : r.run.finished = true) :
      Isolated context behaviour plan r.run := by
    obtain ⟨undisturbed, sound⟩ := undisturbed_of_reaches prompt
      (undisturbed_start context plan behaviour) (sound_start context plan false behaviour) nofun
      rehearsal plain
    obtain ⟨steps, reached⟩ := sound.reached
    have faithful := faithful_of_reaches reached
    have accounts := accounts_of_finished reached finished
      (.inr fun task mem => undisturbed.not_panicked faithful mem)
    have same : r.run.context = context := reached.context_eq
    exact same ▸ undisturbed.isolated prompt faithful accounts
  refine ⟨isolated rehearsal plain finished, fun rehearsal' plain' finished' => ?_⟩
  exact (isolated rehearsal plain finished).sameReport (isolated rehearsal' plain' finished')
    (expected_withParallel context _ behaviour)

end Rehearsal

namespace Sample

/-- Root and user of one release. Their cells share the image, and each has a container of its
own. -/
def bothIdentities : List PlannedCell := [.run cell, .run user]

/-- What the user has installed is not found in the end. So one of the two cells fails, and the
results are not all alike. -/
def userNotFound : MemoryBehaviour :=
  ⟨[⟨"install-matrix-verify", some "tester", .ran 1 "" "q: not found"⟩], none, none, false⟩

/-- The user's cell is the first one to be built the image and to start a container of it. -/
def bothStarted : List RehearsalEvent :=
  [.inner (.take 0), .inner (.take 0), .inner (.grant 1), .inner (.grant 0)]
  ++ calls 1 3 1 ++ calls 0 3 2 ++ calls 1 1 3 ++ calls 0 1 4

/-- Their commands alternate, and the user's cell is through first. -/
def sideBySide : List RehearsalEvent :=
  bothStarted ++ calls 0 2 5 ++ calls 1 3 6 ++ calls 1 1 7 ++ calls 0 1 8 ++ calls 1 1 9
  ++ calls 1 2 10 ++ calls 0 1 11 ++ calls 0 4 12 ++ [.sweep 13]

/-- The user's cell waits until root's is through. The results are recorded in the other order
then. -/
def inTurn : List RehearsalEvent :=
  [.inner (.take 0), .inner (.take 0), .inner (.grant 0)]
  ++ calls 0 3 1 ++ calls 0 1 2 ++ calls 0 2 3 ++ calls 0 1 4 ++ calls 0 1 5 ++ calls 0 4 6
  ++ [.inner (.grant 1)]
  ++ calls 1 3 7 ++ calls 1 1 8 ++ calls 1 3 9 ++ calls 1 1 10 ++ calls 1 1 11 ++ calls 1 2 12
  ++ [.sweep 13]

end Sample

namespace Rehearsal

open RunState

/-- Two cells have one image, and once both containers are live at the same time. When the
cells run in turn, their containers have each other's number and their results come in the
other order. The reports are the same all the same, and one install has failed in both. -/
theorem isolated_of_rehearsal_of_shared_image :
    ∃ half r q,
      Pipeline.definitionOf Sample.context Sample.user Sample.release
        = Pipeline.definitionOf Sample.context Sample.cell Sample.release ∧
      Reaches (start Sample.context Sample.bothIdentities false Sample.userNotFound)
        Sample.bothStarted half ∧
      half.gateway.live = ["mock-1", "mock-2"] ∧
      Reaches (start Sample.context Sample.bothIdentities false Sample.userNotFound)
        Sample.sideBySide r ∧
      Reaches (start (Sample.context.withParallel 1) Sample.bothIdentities false
        Sample.userNotFound) Sample.inTurn q ∧
      r.gateway.created.map Container.cell = [Sample.user.label, Sample.cell.label] ∧
      q.gateway.created.map Container.cell = [Sample.cell.label, Sample.user.label] ∧
      r.run.results.results.map CellResult.cell = [Sample.user, Sample.cell] ∧
      q.run.results.results.map CellResult.cell = [Sample.cell, Sample.user] ∧
      Isolated Sample.context Sample.userNotFound Sample.bothIdentities r.run ∧
      SameReport Sample.bothIdentities r.run q.run ∧ r.run.results.exitCode = 1 := by
  let numbered (r : Rehearsal) : List String := r.gateway.created.map Container.cell
  let finds (r : Rehearsal) : List Cell := r.run.results.results.map CellResult.cell
  obtain ⟨half, reached, live⟩ : ∃ half,
      Reaches (start Sample.context Sample.bothIdentities false Sample.userNotFound)
        Sample.bothStarted half ∧ (half.gateway.live == ["mock-1", "mock-2"]) = true :=
    exists_reaches_of_foreseen (by decide +kernel)
  obtain ⟨r, rehearsal, ends⟩ : ∃ r,
      Reaches (start Sample.context Sample.bothIdentities false Sample.userNotFound)
        Sample.sideBySide r ∧
      (r.run.finished && numbered r == [Sample.user.label, Sample.cell.label]
        && finds r == [Sample.user, Sample.cell] && r.run.results.exitCode == 1) = true :=
    exists_reaches_of_foreseen (by decide +kernel)
  -- With one permit the cells run in the other order, and the containers trade their numbers.
  obtain ⟨q, rehearsal', ends'⟩ : ∃ q,
      Reaches (start (Sample.context.withParallel 1) Sample.bothIdentities false
        Sample.userNotFound) Sample.inTurn q ∧
      (q.run.finished && numbered q == [Sample.cell.label, Sample.user.label]
        && finds q == [Sample.cell, Sample.user]) = true :=
    exists_reaches_of_foreseen (by decide +kernel)
  simp only [Bool.and_eq_true, beq_iff_eq] at live ends ends'
  obtain ⟨⟨⟨finished, numbers⟩, order⟩, failed⟩ := ends
  obtain ⟨⟨finished', numbers'⟩, order'⟩ := ends'
  have prompt : Sample.userNotFound.Prompt := by decide
  obtain ⟨isolated, same⟩ := isolated_of_rehearsal rehearsal (by decide) prompt finished
  exact ⟨half, r, q, rfl, reached, live, rehearsal, rehearsal', numbers, numbers', order, order',
    isolated, same rehearsal' (by decide) finished', failed⟩

end Rehearsal

end InstallMatrix
