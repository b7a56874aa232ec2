import InstallMatrix.Proofs.Run.Deed
import InstallMatrix.Run.Pipeline

/-!
# `InstallMatrix.Proofs.Run.Advance`: what one step of a cell can do

`Pipeline.Advances ctx p ds p'` lists, one constructor for each branch, all that
one step may do and lead to; `advances_of_does` and `Advances.does` say that
`advance` may do just that. Every invariant of a cell's way is shown by cases on
`Advances` and never unfolds the step again.

`PhaseRun` does the same for the steps of a phase, one constructor for each way a
step can end. `remaining_lt` says that every step brings an unfinished cell nearer
to its end, so `driveFor` ends where it should (`isTerminal_of_drive`).
-/

set_option autoImplicit false

namespace InstallMatrix

open CellProgram

namespace Pipeline

variable {ctx : RunContext} {p p' : Pipeline} {ds : List Deed}

/-! ### A phase -/

/-- `PhaseRun container steps ds records ending`: running the steps in the container
may do `ds`, leave the records and end like this. -/
inductive PhaseRun (container : Container) :
    List PhaseStep → List Deed → List StepRecord → PhaseEnd → Prop
  | finished : PhaseRun container [] [] [] .passed
  | passed {step : PhaseStep} {steps : List PhaseStep} {ds : List Deed}
      {records : List StepRecord} {ending : PhaseEnd} (output : CommandOutput)
      (zero : output.exitCode = 0) (rest : PhaseRun container steps ds records ending) :
      PhaseRun container (step :: steps)
        (.called (.exec container step.command) (.ok output) :: ds)
        (ranRecord step output :: records) ending
  | exited {step : PhaseStep} {steps : List PhaseStep} (output : CommandOutput)
      (nonzero : output.exitCode ≠ 0) :
      PhaseRun container (step :: steps)
        [.called (.exec container step.command) (.ok output)]
        [ranRecord step output] (.exited step.name output.exitCode)
  | undispatched {step : PhaseStep} {steps : List PhaseStep} (error : GatewayError)
      (reply : Except GatewayError String) (durationMs : Nat) :
      PhaseRun container (step :: steps)
        [.called (.exec container step.command) (.error error),
          .called (.logs container) reply]
        [undispatchedRecord step error durationMs]
        (.undispatched step.name error reply.toOption)

/-- What follows a command of a phase, `rest` being what is done for the steps behind it. -/
def afterCommand (container : Container) (step : PhaseStep)
    (rest : CellProgram (List StepRecord × PhaseEnd)) (before : Moment) :
    Except GatewayError CommandOutput → CellProgram (List StepRecord × PhaseEnd)
  | .ok output =>
    if output.exitCode = 0 then do
      let later ← rest
      return (ranRecord step output :: later.1, later.2)
    else return ([ranRecord step output], .exited step.name output.exitCode)
  | .error e => do
    let after ← observe
    let logs ← call (.logs container)
    return ([undispatchedRecord step e (millisecondsBetween before.clock after.clock)],
      .undispatched step.name e logs.toOption)

/-- The steps of a phase, one at a time: the clock is read, the command is sent, and what is done
with the reply decides whether the rest is run. -/
theorem runSteps_cons (container : Container) (step : PhaseStep) (steps : List PhaseStep) :
    runSteps container (step :: steps) = observe >>= fun before =>
      call (.exec container step.command) >>=
        afterCommand container step (runSteps container steps) before := by
  rw [runSteps]
  congr 1
  funext before
  congr 1
  funext reply
  cases reply <;> rfl

/-- `runSteps` does nothing but what `PhaseRun` lists. The induction is on the steps; what a
command is answered decides between the constructors. -/
theorem phaseRun_of_does {container : Container} {steps : List PhaseStep}
    {records : List StepRecord} {ending : PhaseEnd}
    (h : Does (runSteps container steps) ds (records, ending)) :
    PhaseRun container steps ds records ending := by
  -- The induction follows the commands. A look at the clock comes before each of them.
  induction steps generalizing ds records ending with
  | nil =>
    obtain ⟨rfl, end_eq⟩ := does_pure.mp h
    cases end_eq
    exact .finished
  | cons step steps ih =>
    rw [runSteps_cons] at h
    obtain ⟨before, asks⟩ := does_observe_bind.mp h
    obtain ⟨reply, rest, rfl, goesOn⟩ := does_call_bind.mp asks
    cases reply with
    | error e =>
      obtain ⟨after, asksLogs⟩ := does_observe_bind.mp goesOn
      obtain ⟨logs, last, rfl, stops⟩ := does_call_bind.mp asksLogs
      obtain ⟨rfl, end_eq⟩ := does_pure.mp stops
      cases end_eq
      exact .undispatched e logs _
    | ok output =>
      simp only [afterCommand] at goesOn
      split at goesOn
      · next zero =>
        obtain ⟨⟨later, last⟩, inner, none, rfl, run, stops⟩ := does_bind.mp goesOn
        obtain ⟨rfl, end_eq⟩ := does_pure.mp stops
        cases end_eq
        rw [List.append_nil]
        exact .passed output zero (ih run)
      · next nonzero =>
        obtain ⟨rfl, end_eq⟩ := does_pure.mp goesOn
        cases end_eq
        exact .exited output nonzero

/-- `runSteps` may do all that `PhaseRun` lists. Together with `phaseRun_of_does` this makes the
list exact. -/
theorem PhaseRun.does {container : Container} {steps : List PhaseStep}
    {records : List StepRecord} {ending : PhaseEnd}
    (h : PhaseRun container steps ds records ending) :
    Does (runSteps container steps) ds (records, ending) := by
  induction h with
  | finished => exact does_pure.mpr ⟨rfl, rfl⟩
  | passed output zero rest ih =>
    -- A command reads the clock first. Its running time counts only for one that fails.
    refine does_observe_bind.mpr ⟨⟨false, 0⟩, does_call_bind.mpr ⟨.ok output, _, rfl, ?_⟩⟩
    simp only [zero, if_true]
    exact does_bind.mpr ⟨_, _, [], by simp, ih, does_pure.mpr ⟨rfl, rfl⟩⟩
  | exited output nonzero =>
    refine does_observe_bind.mpr ⟨⟨false, 0⟩, does_call_bind.mpr ⟨.ok output, _, rfl, ?_⟩⟩
    simp only [nonzero, if_false]
    exact does_pure.mpr ⟨rfl, rfl⟩
  | undispatched error reply durationMs =>
    refine does_observe_bind.mpr ⟨⟨false, 0⟩, does_call_bind.mpr ⟨.error error, _, rfl, ?_⟩⟩
    -- The clock is read again, so late that the record shows the duration wanted.
    refine does_observe_bind.mpr ⟨⟨false, durationMs * 1000000⟩,
      does_call_bind.mpr ⟨reply, [], rfl, does_pure.mpr ⟨rfl, ?_⟩⟩⟩
    simp [millisecondsBetween]

/-- A phase runs commands in its container and reads the container's logs. It makes no other
call. -/
theorem PhaseRun.call_of_mem {container : Container} {steps : List PhaseStep}
    {records : List StepRecord} {ending : PhaseEnd} {d : Deed}
    (h : PhaseRun container steps ds records ending) (mem : d ∈ ds) :
    (∃ command reply, d = .called (.exec container command) reply) ∨
      ∃ reply, d = .called (.logs container) reply := by
  induction h with
  | finished => cases mem
  | passed output zero rest ih =>
    rcases List.mem_cons.mp mem with rfl | mem
    · exact .inl ⟨_, _, rfl⟩
    · exact ih mem
  | exited output nonzero =>
    obtain rfl := List.mem_singleton.mp mem
    exact .inl ⟨_, _, rfl⟩
  | undispatched error reply durationMs =>
    rcases List.mem_cons.mp mem with rfl | mem
    · exact .inl ⟨_, _, rfl⟩
    · obtain rfl := List.mem_singleton.mp mem
      exact .inr ⟨_, rfl⟩

/-! ### A step -/

/-- The state in which the phase of an identity is at hand. -/
def beforePhase (i : Identity) (artifact : Artifact) (container : Container) : CellState :=
  match i with
  | .root => .containerRunning artifact container
  | .user => .rootPhase artifact container

/-- `Advances ctx p ds p'`: one step of `p` may do `ds` and lead to `p'`. -/
inductive Advances (ctx : RunContext) (p : Pipeline) : List Deed → Pipeline → Prop
  | aborted (unfinished : p.state.isTerminal = false) :
      Advances ctx p []
        (p.failWith .cancelled p.state.stage.next "run aborted" none p.state.container?)
  | resolved (stands : p.state = .pending) : Advances ctx p [] (p.resolve ctx)
  | uncatalogued {artifact : Artifact} (stands : p.state = .artifactResolved artifact)
      (absent : ctx.catalog.find? p.cell.distribution p.cell.version = none) :
      Advances ctx p []
        (p.failWith .buildError .imageBuilt
          (p.cell.distribution ++ "-" ++ p.cell.version ++ " is not in the catalog") none none)
  | built {artifact : Artifact} {release : Release}
      (stands : p.state = .artifactResolved artifact)
      (found : ctx.catalog.find? p.cell.distribution p.cell.version = some release)
      (reply : Except GatewayError ImageTag) :
      Advances ctx p
        [.called
          (.build (Environment.recipe ctx.settings.testUser release p.cell.architecture)) reply]
        (p.afterBuild artifact reply)
  | started {artifact : Artifact} {image : ImageTag}
      (stands : p.state = .imageBuilt artifact image)
      (reply : Except GatewayError Container) :
      Advances ctx p [.called (.start image (startOptions p.cell artifact)) reply]
        (p.afterStart artifact reply)
  | phase {i : Identity} {artifact : Artifact} {container : Container} {ds : List Deed}
      {records : List StepRecord} {ending : PhaseEnd}
      (stands : p.state = beforePhase i artifact container) (own : p.cell.identity = i)
      (run : PhaseRun container
        (Install.phaseSteps i artifact.fileName ctx.settings.installer ctx.settings.testUser)
        ds records ending) :
      Advances ctx p ds (p.endPhase i artifact container records ending)
  | passedThrough {i : Identity} {artifact : Artifact} {container : Container}
      (stands : p.state = beforePhase i artifact container) (other : p.cell.identity ≠ i) :
      Advances ctx p [] (p.enter (afterPhase i artifact container))
  | completed {artifact : Artifact} {container : Container}
      (stands : p.state = .userPhase artifact container) :
      Advances ctx p [] (p.enter (.completed container))
  | stayed (terminal : p.state.isTerminal = true) : Advances ctx p [] p

/-- Running the phase of an identity does what `Advances` lists for it. -/
theorem advances_of_does_runPhase {i : Identity} {artifact : Artifact}
    {container : Container} (stands : p.state = beforePhase i artifact container)
    (h : Does (p.runPhase ctx i artifact container) ds p') : Advances ctx p ds p' := by
  unfold runPhase at h
  split at h
  · next own =>
    obtain ⟨⟨records, ending⟩, run, none, rfl, steps, stops⟩ := does_bind.mp h
    obtain ⟨rfl, rfl⟩ := does_pure.mp stops
    rw [List.append_nil]
    exact .phase stands own (phaseRun_of_does steps)
  · next other =>
    obtain ⟨rfl, rfl⟩ := does_pure.mp h
    exact .passedThrough stands other

/-- Building the image does what `Advances` lists for it. Where the catalog lacks the release,
nothing is called and the cell fails. -/
theorem advances_of_does_build {artifact : Artifact}
    (stands : p.state = .artifactResolved artifact) (h : Does (p.build ctx artifact) ds p') :
    Advances ctx p ds p' := by
  unfold build at h
  split at h
  · next absent =>
    obtain ⟨rfl, rfl⟩ := does_pure.mp h
    exact .uncatalogued stands absent
  · next release found =>
    obtain ⟨reply, rest, rfl, stops⟩ := does_call_bind.mp h
    obtain ⟨rfl, rfl⟩ := does_pure.mp stops
    exact .built stands found reply

/-- What a step does that is not kept from it by a cancellation. It depends on the state alone. -/
def goOn (ctx : RunContext) (p : Pipeline) : CellProgram Pipeline :=
  match p.state with
  | .pending => pure (p.resolve ctx)
  | .artifactResolved artifact => p.build ctx artifact
  | .imageBuilt artifact image => p.start artifact image
  | .containerRunning artifact container => p.runPhase ctx .root artifact container
  | .rootPhase artifact container => p.runPhase ctx .user artifact container
  | .userPhase _ container => pure (p.enter (.completed container))
  | .completed _ => pure p
  | .failed _ _ => pure p

/-- An advance looks at the run once. A cell that is not at its end fails if the run is cancelled,
and goes on otherwise. -/
theorem advance_eq (ctx : RunContext) (p : Pipeline) :
    p.advance ctx = observe >>= fun moment =>
      if moment.cancelled && !p.state.isTerminal then
        pure (p.failWith .cancelled p.state.stage.next "run aborted" none p.state.container?)
      else p.goOn ctx := rfl

/-- A step does nothing but what `Advances` lists. All that is said of steps is proved from this
list, and not from the program. -/
theorem advances_of_does (h : Does (p.advance ctx) ds p') : Advances ctx p ds p' := by
  rw [advance_eq] at h
  obtain ⟨moment, goesOn⟩ := does_observe_bind.mp h
  -- First the look at the cancellation, then the state the cell stands in.
  split at goesOn
  · next aborts =>
    obtain ⟨rfl, rfl⟩ := does_pure.mp goesOn
    refine .aborted ?_
    simpa using (Bool.and_eq_true_iff.mp aborts).2
  · unfold goOn at goesOn
    split at goesOn
    case h_1 stands =>
      obtain ⟨rfl, rfl⟩ := does_pure.mp goesOn
      exact .resolved stands
    case h_2 artifact stands => exact advances_of_does_build stands goesOn
    case h_3 artifact image stands =>
      obtain ⟨reply, rest, rfl, stops⟩ := does_call_bind.mp goesOn
      obtain ⟨rfl, rfl⟩ := does_pure.mp stops
      exact .started stands reply
    case h_4 artifact container stands =>
      exact advances_of_does_runPhase (show _ = beforePhase .root _ _ from stands) goesOn
    case h_5 artifact container stands =>
      exact advances_of_does_runPhase (show _ = beforePhase .user _ _ from stands) goesOn
    case h_6 artifact container stands =>
      obtain ⟨rfl, rfl⟩ := does_pure.mp goesOn
      exact .completed stands
    case h_7 container stands =>
      obtain ⟨rfl, rfl⟩ := does_pure.mp goesOn
      exact .stayed (by rw [stands]; rfl)
    case h_8 failure container stands =>
      obtain ⟨rfl, rfl⟩ := does_pure.mp goesOn
      exact .stayed (by rw [stands]; rfl)

/-- Before a phase, a step runs it. -/
theorem goOn_beforePhase {i : Identity} {artifact : Artifact} {container : Container}
    (stands : p.state = beforePhase i artifact container) :
    p.goOn ctx = p.runPhase ctx i artifact container := by
  unfold goOn
  cases i <;> rw [stands] <;> rfl

/-- At the end of the way there is nothing to do, and the cell stays what it is. -/
theorem goOn_of_terminal (terminal : p.state.isTerminal = true) : p.goOn ctx = pure p := by
  unfold goOn
  cases state : p.state with
  | completed | failed => rfl
  | _ =>
    rw [state] at terminal
    cases terminal

/-- A step of a run that is not cancelled goes by the state. -/
theorem does_advance_of_uncancelled (h : Does (p.goOn ctx) ds p') : Does (p.advance ctx) ds p' :=
  does_observe_bind.mpr ⟨⟨false, 0⟩, h⟩

/-- A step may do all that `Advances` lists. So the list is no wider than the program, and what is
possible by the list is possible in a run. -/
theorem Advances.does (h : Advances ctx p ds p') : Does (p.advance ctx) ds p' := by
  -- All but an abort go on from a look at a run that has not been cancelled.
  cases h with
  | aborted unfinished =>
    refine does_observe_bind.mpr ⟨⟨true, 0⟩, ?_⟩
    rw [unfinished]
    exact does_pure.mpr ⟨rfl, rfl⟩
  | resolved stands =>
    refine does_advance_of_uncancelled ?_
    unfold goOn
    rw [stands]
    exact does_pure.mpr ⟨rfl, rfl⟩
  | uncatalogued stands absent =>
    refine does_advance_of_uncancelled ?_
    unfold goOn
    rw [stands]
    simp only [build, absent]
    exact does_pure.mpr ⟨rfl, rfl⟩
  | built stands found reply =>
    refine does_advance_of_uncancelled ?_
    unfold goOn
    rw [stands]
    simp only [build, found]
    exact does_call_bind.mpr ⟨reply, [], rfl, does_pure.mpr ⟨rfl, rfl⟩⟩
  | started stands reply =>
    refine does_advance_of_uncancelled ?_
    unfold goOn
    rw [stands]
    exact does_call_bind.mpr ⟨reply, [], rfl, does_pure.mpr ⟨rfl, rfl⟩⟩
  | @phase i artifact container _ records ending stands own run =>
    refine does_advance_of_uncancelled ?_
    rw [goOn_beforePhase stands]
    simp only [runPhase, own, if_true]
    exact does_bind.mpr ⟨_, _, [], by simp, run.does, does_pure.mpr ⟨rfl, rfl⟩⟩
  | @passedThrough i artifact container stands other =>
    refine does_advance_of_uncancelled ?_
    rw [goOn_beforePhase stands]
    simp only [runPhase, other, if_false]
    exact does_pure.mpr ⟨rfl, rfl⟩
  | completed stands =>
    refine does_advance_of_uncancelled ?_
    unfold goOn
    rw [stands]
    exact does_pure.mpr ⟨rfl, rfl⟩
  | stayed terminal =>
    refine does_advance_of_uncancelled ?_
    rw [goOn_of_terminal terminal]
    exact does_pure.mpr ⟨rfl, rfl⟩

/-! ### Where a step leads -/

/-- The state that is entered is the state afterwards. -/
@[simp] theorem enter_state (p : Pipeline) (s : CellState) : (p.enter s).state = s := rfl

/-- Entering a state leaves the cell what it was. -/
@[simp] theorem enter_cell (p : Pipeline) (s : CellState) : (p.enter s).cell = p.cell := rfl

/-- A failure is the state afterwards, with the container that was kept. -/
@[simp] theorem failWith_state (p : Pipeline) (kind : FailureKind) (stage : Stage)
    (message : String) (diagnostics : Option String) (container : Option Container) :
    (p.failWith kind stage message diagnostics container).state
      = .failed ⟨kind, stage, message, diagnostics⟩ container := rfl

/-- Failing leaves the cell what it was. -/
@[simp] theorem failWith_cell (p : Pipeline) (kind : FailureKind) (stage : Stage)
    (message : String) (diagnostics : Option String) (container : Option Container) :
    (p.failWith kind stage message diagnostics container).cell = p.cell := rfl

/-- The archive of a cell, or why there is none. It depends on the architecture and the C library
of the cell, and on the directory the run was given. -/
def archiveOf (ctx : RunContext) (cell : Cell) : Except ArtifactError Artifact :=
  ctx.artifacts.resolve ctx.settings.installer.archiveName cell.architecture cell.libc

/-- The one archive of a cell is chosen. -/
theorem resolve_state_of_ok {artifact : Artifact}
    (found : archiveOf ctx p.cell = .ok artifact) :
    (p.resolve ctx).state = .artifactResolved artifact := by
  unfold archiveOf at found
  unfold resolve
  rw [found]
  rfl

/-- Choosing the archive leads to it, or to a failure without a container. -/
theorem resolve_state (ctx : RunContext) (p : Pipeline) :
    (∃ artifact, archiveOf ctx p.cell = .ok artifact ∧
        (p.resolve ctx).state = .artifactResolved artifact) ∨
      ∃ failure, (p.resolve ctx).state = .failed failure none := by
  cases found : archiveOf ctx p.cell with
  | ok artifact => exact .inl ⟨artifact, rfl, resolve_state_of_ok found⟩
  | error e =>
    unfold archiveOf at found
    unfold resolve
    rw [found]
    exact .inr ⟨_, rfl⟩

/-- Looking for the archive leaves the cell what it was, whether it is found or not. -/
@[simp] theorem resolve_cell (ctx : RunContext) (p : Pipeline) :
    (p.resolve ctx).cell = p.cell := by
  unfold resolve
  split <;> rfl

/-- An image leads on, an error to a failure without a container. There are no other replies. -/
theorem afterBuild_state (p : Pipeline) (artifact : Artifact)
    (reply : Except GatewayError ImageTag) :
    (∃ image, reply = .ok image ∧
        (p.afterBuild artifact reply).state = .imageBuilt artifact image) ∨
      ∃ error failure, reply = .error error ∧
        (p.afterBuild artifact reply).state = .failed failure none := by
  cases reply with
  | ok image => exact .inl ⟨image, rfl, rfl⟩
  | error e => cases e <;> exact .inr ⟨_, _, rfl, rfl⟩

/-- No reply to a build changes which cell this is. -/
@[simp] theorem afterBuild_cell (p : Pipeline) (artifact : Artifact)
    (reply : Except GatewayError ImageTag) : (p.afterBuild artifact reply).cell = p.cell := by
  unfold afterBuild
  split <;> rfl

/-- A container leads on, an error to a failure without one. What a failed start has left behind
is the gateway's business. -/
theorem afterStart_state (p : Pipeline) (artifact : Artifact)
    (reply : Except GatewayError Container) :
    (∃ container, reply = .ok container ∧
        (p.afterStart artifact reply).state = .containerRunning artifact container) ∨
      ∃ error failure, reply = .error error ∧
        (p.afterStart artifact reply).state = .failed failure none := by
  cases reply with
  | ok container => exact .inl ⟨container, rfl, rfl⟩
  | error e => exact .inr ⟨e, _, rfl, rfl⟩

/-- No reply to a start changes which cell this is. -/
@[simp] theorem afterStart_cell (p : Pipeline) (artifact : Artifact)
    (reply : Except GatewayError Container) : (p.afterStart artifact reply).cell = p.cell := by
  cases reply <;> rfl

/-- A phase that passed leads on, any other to a failure that keeps the container. -/
theorem endPhase_state (p : Pipeline) (i : Identity) (artifact : Artifact)
    (container : Container) (records : List StepRecord) (ending : PhaseEnd) :
    (ending = .passed ∧ (p.endPhase i artifact container records ending).state
        = afterPhase i artifact container) ∨
      (ending ≠ .passed ∧ ∃ failure,
        (p.endPhase i artifact container records ending).state
          = .failed failure (some container)) := by
  cases ending with
  | passed => exact .inl ⟨rfl, rfl⟩
  | exited step code => exact .inr ⟨nofun, _, rfl⟩
  | undispatched step error logs => exact .inr ⟨nofun, _, rfl⟩

/-- The end of a phase adds records and changes the state, but not which cell this is. -/
@[simp] theorem endPhase_cell (p : Pipeline) (i : Identity) (artifact : Artifact)
    (container : Container) (records : List StepRecord) (ending : PhaseEnd) :
    (p.endPhase i artifact container records ending).cell = p.cell := by
  cases ending <;> rfl

/-- A step never changes the cell. So facts about the cell of a beginning carry over to every
later state. -/
theorem Advances.cell_eq (h : Advances ctx p ds p') : p'.cell = p.cell := by
  cases h <;> simp

/-- A step brings an unfinished cell nearer to its end. This is the measure by which driving a
cell comes to an end. -/
theorem Advances.remaining_lt (h : Advances ctx p ds p')
    (unfinished : p.state.isTerminal = false) : p'.state.remaining < p.state.remaining := by
  -- A failure has nothing remaining, and any other step leads to the next state in line.
  cases h with
  | aborted => cases e : p.state <;> simp_all [CellState.remaining, CellState.isTerminal]
  | resolved stands =>
    rcases resolve_state ctx p with ⟨artifact, -, leads⟩ | ⟨failure, leads⟩ <;>
      simp [leads, stands, CellState.remaining]
  | uncatalogued stands absent => simp [stands, CellState.remaining]
  | @built artifact release stands found reply =>
    rcases afterBuild_state p artifact reply with ⟨image, -, leads⟩ | ⟨e, failure, -, leads⟩ <;>
      simp [leads, stands, CellState.remaining]
  | @started artifact image stands reply =>
    rcases afterStart_state p artifact reply with ⟨c, -, leads⟩ | ⟨e, failure, -, leads⟩ <;>
      simp [leads, stands, CellState.remaining]
  | @phase i artifact container _ records ending stands own run =>
    rcases endPhase_state p i artifact container records ending
      with ⟨-, leads⟩ | ⟨-, failure, leads⟩ <;>
      cases i <;> simp [leads, stands, beforePhase, afterPhase, CellState.remaining]
  | @passedThrough i artifact container stands other =>
    cases i <;> simp [stands, beforePhase, afterPhase, CellState.remaining]
  | completed stands => simp [stands, CellState.remaining]
  | stayed terminal => rw [terminal] at unfinished; cases unfinished

/-- Nothing remains in terminal states alone. -/
theorem isTerminal_of_remaining {s : CellState} (none : s.remaining = 0) : s.isTerminal = true := by
  cases s with
  | completed | failed => rfl
  | _ => cases none

/-- At its end a cell has no advances left, so that driving it further changes nothing. -/
theorem remaining_of_isTerminal {s : CellState} (terminal : s.isTerminal = true) :
    s.remaining = 0 := by
  cases s with
  | completed | failed => rfl
  | _ => cases terminal

/-! ### Many steps -/

/-- `n` steps, one after the other, also after the end of the way. Statements about any number of
steps are made with it, where `drive` would stop at the end. -/
def advanceTimes (ctx : RunContext) : Nat → Pipeline → CellProgram Pipeline
  | 0, p => pure p
  | n + 1, p => do
    let p ← p.advance ctx
    advanceTimes ctx n p

/-- One step comes before the others. -/
theorem Advances.does_advanceTimes {q : Pipeline} {n : Nat} {rest : List Deed}
    (h : Advances ctx p ds p') (more : Does (advanceTimes ctx n p') rest q) :
    Does (advanceTimes ctx (n + 1) p) (ds ++ rest) q :=
  does_bind.mpr ⟨p', ds, rest, rfl, h.does, more⟩

/-- One step comes behind the others. -/
theorem does_advanceTimes_succ {q : Pipeline} {n : Nat} {rest : List Deed}
    (h : Does (advanceTimes ctx n p) ds p') (last : Does (p'.advance ctx) rest q) :
    Does (advanceTimes ctx (n + 1) p) (ds ++ rest) q := by
  induction n generalizing p ds with
  | zero =>
    obtain ⟨rfl, rfl⟩ := does_pure.mp h
    exact does_bind.mpr ⟨q, rest, [], by simp, last, does_pure.mpr ⟨rfl, rfl⟩⟩
  | succ n ih =>
    obtain ⟨r, first, second, rfl, one, more⟩ := does_bind.mp h
    exact does_bind.mpr ⟨r, first, second ++ rest, List.append_assoc _ _ _, one, ih more⟩

/-- What holds at the beginning and is kept by every step holds after any number of
steps, the deeds being gathered on the way. -/
theorem advanceTimes_invariant (Holds : Pipeline → List Deed → Prop)
    (step : ∀ {p p' : Pipeline} {before ds : List Deed}, Holds p before →
      Advances ctx p ds p' → Holds p' (before ++ ds))
    {n : Nat} {before : List Deed} (start : Holds p before)
    (h : Does (advanceTimes ctx n p) ds p') : Holds p' (before ++ ds) := by
  -- The deeds so far are generalised, since every step adds its own to them.
  induction n generalizing p before ds with
  | zero =>
    obtain ⟨rfl, rfl⟩ := does_pure.mp h
    rw [List.append_nil]
    exact start
  | succ n ih =>
    obtain ⟨q, first, second, rfl, one, more⟩ := does_bind.mp h
    rw [← List.append_assoc]
    exact ih (step start (advances_of_does one)) more

/-- Driving a cell is taking some number of steps. So what holds after any number of them holds of
a cell that was driven. -/
theorem exists_advanceTimes_of_driveFor {n : Nat} (h : Does (driveFor ctx n p) ds p') :
    ∃ k, k ≤ n ∧ Does (advanceTimes ctx k p) ds p' := by
  induction n generalizing p ds with
  | zero => exact ⟨0, Nat.le_refl 0, h⟩
  | succ n ih =>
    unfold driveFor at h
    split at h
    · exact ⟨0, Nat.zero_le _, h⟩
    · obtain ⟨q, first, second, rfl, one, more⟩ := does_bind.mp h
      obtain ⟨k, le, steps⟩ := ih more
      exact ⟨k + 1, by omega, does_bind.mpr ⟨q, first, second, rfl, one, steps⟩⟩

/-- With as many steps as may remain, driving ends at the end of the way. -/
theorem isTerminal_of_driveFor {n : Nat} (enough : p.state.remaining ≤ n)
    (h : Does (driveFor ctx n p) ds p') : p'.state.isTerminal = true := by
  induction n generalizing p ds with
  | zero =>
    obtain ⟨-, rfl⟩ := does_pure.mp h
    exact isTerminal_of_remaining (Nat.le_zero.mp enough)
  | succ n ih =>
    unfold driveFor at h
    split at h
    · next terminal =>
      obtain ⟨-, rfl⟩ := does_pure.mp h
      exact terminal
    · next unfinished =>
      obtain ⟨q, first, second, rfl, one, more⟩ := does_bind.mp h
      -- Each step brings an unfinished cell nearer to its end.
      have nearer := (advances_of_does one).remaining_lt (by simpa using unfinished)
      exact ih (by omega) more

/-- Driving ends at the end of the way, for it takes as many steps as remain. -/
theorem isTerminal_of_drive (h : Does (p.drive ctx) ds p') : p'.state.isTerminal = true :=
  isTerminal_of_driveFor (Nat.le_refl _) h

end Pipeline

end InstallMatrix
