import InstallMatrix.Gateway.Memory
import InstallMatrix.Proofs.Run.Advance

/-!
# `InstallMatrix.Proofs.Run.Essence`: a cell without clock and container ids

Two cells that go the same way still differ in their clock readings and in the ids of their
containers. `Pipeline.essence` leaves these out, and `CellResult.timeless` the times of a
result; a result shows no id.

`MemoryBehaviour.ideal` replies to every call as a gateway that has whatever the call needs.
An answer is `Given` by a behaviour if it is the ideal one, but for times and ids. The
theorem is `comes_drive`: a cell that is given its answers comes to what the ideal answers
lead its essence to, so nothing else can make a difference to it. It is put together from
the parts of a step, each of which commutes with leaving times and ids out.
-/

set_option autoImplicit false

namespace InstallMatrix

open CellProgram

/-! ### Leaving times and ids out -/

/-- The container without the id it was given. Ids are handed out in the order in which containers
are started, so they depend on the other cells; the name does not. -/
def Container.anonymous (c : Container) : Container := { c with id := "" }

/-- The output of a command without its running time. The exit code and the texts stay. -/
def CommandOutput.timeless (o : CommandOutput) : CommandOutput := { o with duration := 0 }

/-- The record of a step without its running time. -/
def StepRecord.timeless (r : StepRecord) : StepRecord := { r with durationMs := 0 }

/-- The record of a phase without the running times of its steps. -/
def PhaseRecord.timeless (r : PhaseRecord) : PhaseRecord :=
  { r with steps := r.steps.map StepRecord.timeless }

/-- The result with the beginning of time for its beginning, and without durations. -/
def CellResult.timeless (r : CellResult) : CellResult :=
  { r with
    startedAt := .ofNanoseconds 0
    durationMs := 0
    phases := r.phases.map PhaseRecord.timeless }

namespace CellState

/-- The state with an anonymous container. Everything else a state shows is the same in all runs.
-/
def anonymous : CellState → CellState
  | .containerRunning artifact c => .containerRunning artifact c.anonymous
  | .rootPhase artifact c => .rootPhase artifact c.anonymous
  | .userPhase artifact c => .userPhase artifact c.anonymous
  | .completed c => .completed c.anonymous
  | .failed failure c => .failed failure (c.map Container.anonymous)
  | s => s

/-- A cell has the same stage without the id of its container, so it takes the same branch of a
step. -/
@[simp] theorem anonymous_stage (s : CellState) : s.anonymous.stage = s.stage := by
  cases s <;> rfl

/-- A cell is at its end with or without the id of its container. -/
@[simp] theorem anonymous_isTerminal (s : CellState) :
    s.anonymous.isTerminal = s.isTerminal := by
  cases s <;> rfl

/-- The name of a container is not its id. A result shows the name, so results do not notice that
the id is left out. -/
theorem map_name_anonymous (s : CellState) :
    s.anonymous.container?.map Container.name = s.container?.map Container.name := by
  cases s with
  | failed failure c => cases c <;> rfl
  | _ => rfl

/-- The id makes no difference to how many advances are left, and so both cells are driven equally
often. -/
@[simp] theorem anonymous_remaining (s : CellState) : s.anonymous.remaining = s.remaining := by
  cases s <;> rfl

end CellState

namespace Call

/-- A reply without the id and the running time it may bring. -/
def essence : (c : Call) → c.Reply → c.Reply
  | .start _ _, reply => reply.map Container.anonymous
  | .exec _ _, reply => reply.map CommandOutput.timeless
  | .build _, reply => reply
  | .logs _, reply => reply
  | .remove _, reply => reply
  | .retain _, reply => reply

end Call

/-! ### Answers of a gateway -/

/-- What a gateway of this behaviour replies, but for ids and running times, if it has the
image or the container that is called for. -/
def MemoryBehaviour.ideal (b : MemoryBehaviour) : (c : Call) → c.Reply
  | .build d =>
    match b.buildFailure with
    | some message => .error (.buildFailed d.imageTag.text message ("step failed: " ++ message))
    | none => .ok d.imageTag
  | .start image options =>
    match b.startFailure with
    | some message => .error (.commandFailed "run" message)
    | none => .ok ⟨"", "install-matrix-" ++ options.cell, image, options.cell⟩
  | .exec container command =>
    -- A command that hangs has no reply, and nothing is said of rules that let one hang.
    match MemoryGateway.commandReply container (MemoryGateway.replyTo b command) with
    | some reply => reply.map CommandOutput.timeless
    | none => .error (.timeout "")
  | .logs container => .ok ("mock logs for " ++ container.name)
  | .remove _ => .ok ()
  | .retain _ => ()

namespace CellProgram

variable {b : MemoryBehaviour}

/-- The answers of a run that is not cancelled and whose gateway replies as it should. -/
def Given (b : MemoryBehaviour) : (q : CellQuestion) → CellAnswer q → Prop
  | .observe, moment => moment.cancelled = false
  | .call c, reply => c.essence reply = b.ideal c
  | .record _, _ => True

/-- The ideal answers, at the beginning of time. A cell whose essence is given these answers has
the ideal result. -/
def idealAnswer (b : MemoryBehaviour) : (q : CellQuestion) → CellAnswer q
  | .observe => ⟨false, 0⟩
  | .call c => b.ideal c
  | .record _ => ()

variable {α β : Type}

/-- `Comes b f p q`: given its answers, `p` comes to what `q` comes to ideally, but for what
`f` leaves out. -/
def Comes (b : MemoryBehaviour) (f : α → α) (p q : CellProgram α) : Prop :=
  p.Meets (Given b) (fun _ => True) fun a => f a = q.eval (idealAnswer b)

section Rules
variable {f : α → α} {g : β → β} {p q : CellProgram α} {k k' : α → CellProgram β}

/-- A program without questions comes to a value if this is its own, but for what is left out. -/
theorem comes_pure {a a' : α} (same : f a = a') : Comes b f (pure a) (pure a') :=
  Program.meets_pure.mpr same

/-- Two programs that come to the same are followed alike. The second one goes on with the value
whose times and ids are left out, which is the value the ideal answers lead to. -/
theorem Comes.bind (h : Comes b f p q) (rest : ∀ a, Comes b g (k a) (k' (f a))) :
    Comes b g (p >>= k) (q >>= k') := by
  refine Program.meets_bind.mpr (Program.Meets.mono h (fun _ => id) fun a same => ?_)
  rw [Program.eval_bind, ← same]
  exact rest a

/-- A look at the run that is not cancelled differs from the ideal one in the clock only. What
follows has to come to the same whatever the clock shows. -/
theorem comes_observe_bind {k k' : Moment → CellProgram β}
    (rest : ∀ clock, Comes b g (k ⟨false, clock⟩) (k' ⟨false, 0⟩)) :
    Comes b g (observe >>= k) (observe >>= k') := by
  refine Program.meets_question_bind.mpr ⟨trivial, ?_⟩
  rintro ⟨cancelled, clock⟩ given
  obtain rfl : cancelled = false := given
  exact rest clock

/-- The ideal program may make another call, which has its own ideal reply. This is needed because
a call speaks of its container, id and all, and the ideal program has an anonymous one. -/
theorem comes_call_bind {c c' : Call} {k : c.Reply → CellProgram β}
    {k' : c'.Reply → CellProgram β}
    (rest : ∀ reply, c.essence reply = b.ideal c → Comes b g (k reply) (k' (b.ideal c'))) :
    Comes b g (call c >>= k) (call c' >>= k') :=
  Program.meets_question_bind.mpr ⟨trivial, rest⟩

end Rules

end CellProgram

namespace Pipeline

variable {ctx : RunContext} {b : MemoryBehaviour}

/-- The cell without its times and the id of its container. Its phases lose their times as well.
-/
def essence (p : Pipeline) : Pipeline :=
  { p with
    state := p.state.anonymous
    phases := p.phases.map PhaseRecord.timeless
    startedAt := 0 }

/-- The essence of a cell is still a matter of the same cell. -/
@[simp] theorem essence_cell (p : Pipeline) : p.essence.cell = p.cell := rfl

/-- The state of the essence, as a rule for `simp`. -/
@[simp] theorem essence_state (p : Pipeline) : p.essence.state = p.state.anonymous := rfl

/-- The verdict shows no id, since a failure does not mention the container it left behind. -/
@[simp] theorem verdict_anonymous (s : CellState) : verdict s.anonymous = verdict s := by
  cases s <;> rfl

/-- A result shows nothing of a cell but its essence and the times. So cells with the same essence
have the same result, times apart. -/
theorem timeless_result (p : Pipeline) (clock : Nat) :
    (p.result clock).timeless = p.essence.result 0 := by
  simp only [result, CellResult.timeless, essence_cell, essence_state, verdict_anonymous,
    CellState.map_name_anonymous]
  simp [essence, millisecondsBetween]

/-! ### The parts of a step -/

/-- Entering a state, and then leaving out times and ids, is entering the anonymous state. -/
theorem essence_enter (p : Pipeline) (s : CellState) :
    (p.enter s).essence = p.essence.enter s.anonymous := by
  simp [enter, essence]

/-- A failure is a state that is entered, and the container it keeps loses its id. -/
theorem essence_failWith (p : Pipeline) (kind : FailureKind) (stage : Stage) (message : String)
    (diagnostics : Option String) (container : Option Container) :
    (p.failWith kind stage message diagnostics container).essence
      = p.essence.failWith kind stage message diagnostics (container.map Container.anonymous) :=
  essence_enter p _

/-- Looking for the archive involves neither times nor ids. -/
theorem essence_resolve (ctx : RunContext) (p : Pipeline) :
    (p.resolve ctx).essence = p.essence.resolve ctx := by
  unfold resolve
  rw [essence_cell]
  cases ctx.artifacts.resolve ctx.settings.installer.archiveName p.cell.architecture
    p.cell.libc with
  | ok artifact => exact essence_enter _ _
  | error e => exact essence_failWith p _ _ _ _ _

/-- The reply to a build holds no id, so the two sides get the very same reply. -/
theorem essence_afterBuild (p : Pipeline) (artifact : Artifact)
    (reply : Except GatewayError ImageTag) :
    (p.afterBuild artifact reply).essence = p.essence.afterBuild artifact reply := by
  unfold afterBuild
  split
  · exact essence_enter _ _
  · exact essence_failWith p _ _ _ _ _
  · exact essence_failWith p _ _ _ _ _

/-- The reply to a start holds the container. Its id is left out of the reply on one side and out
of the state on the other. -/
theorem essence_afterStart (p : Pipeline) (artifact : Artifact)
    (reply : Except GatewayError Container) :
    (p.afterStart artifact reply).essence
      = p.essence.afterStart artifact (reply.map Container.anonymous) := by
  cases reply with
  | ok container => exact essence_enter _ _
  | error e => exact essence_failWith p _ _ _ _ _

/-- The state after a phase keeps the container of the phase. -/
theorem anonymous_afterPhase (i : Identity) (artifact : Artifact) (container : Container) :
    (afterPhase i artifact container).anonymous = afterPhase i artifact container.anonymous := by
  cases i <;> rfl

/-- The end of a phase notes the records first and enters a state afterwards. Both commute with
the essence; the records lose their times. -/
theorem essence_endPhase (p : Pipeline) (i : Identity) (artifact : Artifact)
    (container : Container) (records : List StepRecord) (ending : PhaseEnd) :
    (p.endPhase i artifact container records ending).essence
      = p.essence.endPhase i artifact container.anonymous (records.map StepRecord.timeless)
        ending := by
  -- The record of the phase is added before the state changes.
  have noted : ({ p with phases := p.phases ++ [PhaseRecord.mk i records] } : Pipeline).essence
      = { p.essence with
          phases := p.essence.phases ++ [PhaseRecord.mk i (records.map StepRecord.timeless)] } := by
    simp [essence, PhaseRecord.timeless]
  unfold endPhase
  rw [← noted]
  cases ending with
  | passed => exact (essence_enter _ _).trans (by rw [anonymous_afterPhase])
  | exited step code => exact essence_failWith _ _ _ _ _ _
  | undispatched step error logs => exact essence_failWith _ _ _ _ _ _

/-- The running time of a command goes into its record and nowhere else. -/
theorem timeless_ranRecord (step : PhaseStep) (output : CommandOutput) :
    (ranRecord step output).timeless = ranRecord step output.timeless := by
  simp [ranRecord, StepRecord.timeless, CommandOutput.timeless, CommandOutput.milliseconds]

/-- The steps of a phase depend on the name of the container and on nothing else of it. The
induction is on the steps; between two of them stands the reply to one command, and the two sides
get the same one but for its time. -/
theorem comes_runSteps (container : Container) (steps : List PhaseStep) :
    Comes b (Prod.map (List.map StepRecord.timeless) id) (runSteps container steps)
      (runSteps container.anonymous steps) := by
  induction steps with
  | nil => exact comes_pure rfl
  | cons step steps ih =>
    rw [runSteps_cons, runSteps_cons]
    refine comes_observe_bind fun clock => comes_call_bind fun reply given => ?_
    have ideal : b.ideal (.exec container.anonymous step.command)
        = reply.map CommandOutput.timeless := given.symm
    rw [ideal]
    cases reply with
    | error e =>
      -- The logs are those of the name, too.
      refine comes_observe_bind fun later => comes_call_bind fun logs given => ?_
      have logged : logs = b.ideal (.logs container.anonymous) := given
      rw [logged]
      exact comes_pure rfl
    | ok output =>
      show Comes b _ (afterCommand _ _ _ _ (.ok output))
        (afterCommand _ _ _ _ (.ok output.timeless))
      simp only [afterCommand]
      show Comes b _ _ (if output.exitCode = 0 then _ else _)
      split
      · refine ih.bind fun later => comes_pure ?_
        rw [← timeless_ranRecord]
        rfl
      · refine comes_pure ?_
        rw [← timeless_ranRecord]
        rfl

/-! ### A step -/

/-- A build depends on the release and on the files for the cell, and the essence has the same
cell. -/
theorem comes_build (p : Pipeline) (artifact : Artifact) :
    Comes b essence (p.build ctx artifact) (p.essence.build ctx artifact) := by
  unfold build
  rw [essence_cell]
  cases ctx.catalog.find? p.cell.distribution p.cell.version with
  | none => exact comes_pure (essence_failWith p _ _ _ _ _)
  | some release =>
    refine comes_call_bind fun reply given => comes_pure ?_
    have ideal : reply = b.ideal (.build _) := given
    rw [essence_afterBuild, ideal]

/-- A start depends on the cell and its image. It is the step that brings the id into the state.
-/
theorem comes_start (p : Pipeline) (artifact : Artifact) (image : ImageTag) :
    Comes b essence (p.start artifact image) (p.essence.start artifact image) := by
  refine comes_call_bind fun reply given => comes_pure ?_
  have ideal : reply.map Container.anonymous = b.ideal (.start _ _) := given
  rw [essence_afterStart, ideal]
  rfl

/-- A phase depends on the identity and on the cell, through the steps and through whether the
phase is run at all. -/
theorem comes_runPhase (p : Pipeline) (i : Identity) (artifact : Artifact)
    (container : Container) :
    Comes b essence (p.runPhase ctx i artifact container)
      (p.essence.runPhase ctx i artifact container.anonymous) := by
  unfold runPhase
  rw [essence_cell]
  split
  · refine (comes_runSteps container _).bind fun ran => comes_pure ?_
    exact essence_endPhase p i artifact container ran.1 ran.2
  · refine comes_pure ?_
    rw [essence_enter, anonymous_afterPhase]

/-- Every kind of step comes to the same from a cell and from its essence. The cases are the
states, and each is one of the lemmas above. -/
theorem comes_goOn (p : Pipeline) : Comes b essence (p.goOn ctx) (p.essence.goOn ctx) := by
  unfold goOn
  rw [essence_state]
  cases state : p.state with
  | pending => exact comes_pure (essence_resolve ctx p)
  | artifactResolved artifact => exact comes_build p artifact
  | imageBuilt artifact image => exact comes_start p artifact image
  | containerRunning artifact container => exact comes_runPhase p .root artifact container
  | rootPhase artifact container => exact comes_runPhase p .user artifact container
  | userPhase artifact container => exact comes_pure (essence_enter p _)
  | completed | failed => exact comes_pure rfl

/-- A step is not kept from going on, for the run is not cancelled. That is the one thing `Given`
asks of a look at the run. -/
theorem comes_advance (p : Pipeline) :
    Comes b essence (p.advance ctx) (p.essence.advance ctx) := by
  rw [advance_eq, advance_eq]
  exact comes_observe_bind fun clock => comes_goOn p

/-- So do several advances. The induction is on their number, over all cells, for the next advance
begins from the essence of what the last one left. -/
theorem comes_driveFor (n : Nat) (p : Pipeline) :
    Comes b essence (driveFor ctx n p) (driveFor ctx n p.essence) := by
  induction n generalizing p with
  | zero => exact comes_pure rfl
  | succ n ih =>
    unfold driveFor
    rw [essence_state, CellState.anonymous_isTerminal]
    split
    · exact comes_pure rfl
    · exact (comes_advance p).bind ih

/-- A cell that is given its answers comes to what the ideal answers lead its essence to. -/
theorem comes_drive (p : Pipeline) : Comes b essence (p.drive ctx) (p.essence.drive ctx) := by
  unfold drive
  rw [essence_state, CellState.anonymous_remaining]
  exact comes_driveFor _ p

/-- The result of a cell whose answers are the ideal ones. It depends on the cell, on what the run
goes by and on the behaviour of the gateway, and on nothing else. -/
def idealResult (ctx : RunContext) (b : MemoryBehaviour) (cell : Cell) : CellResult :=
  (((create cell 0).drive ctx).eval (idealAnswer b)).result 0

/-- Times apart, every cell that is given its answers has the ideal result. -/
theorem timeless_result_of_drive {cell : Cell} {clock last : Nat} {p : Pipeline}
    {log : Program.Transcript CellAnswer}
    (path : Program.Path ((create cell clock).drive ctx) log (.pure p))
    (given : Program.Allowed (Given b) log) :
    (p.result last).timeless = idealResult ctx b cell := by
  have comes : p.essence = ((create cell 0).drive ctx).eval (idealAnswer b) :=
    (comes_drive (create cell clock)).along path given
  rw [timeless_result, comes]
  rfl

end Pipeline

end InstallMatrix
