import InstallMatrix.Proofs.Run.Stages
import InstallMatrix.Proofs.Run.Task

/-!
# `InstallMatrix.Proofs.Run.Findings`: the result tells what happened

A cell that has come to its end is known by its result alone. `Tells` says what can be
read off it: whether the cell completed, what it had acquired, which commands ran and how
they exited, and, from the kind of a failure, how far the cell had come
(`CellResult.Explains`). Nothing is noted that did not happen: image, container and
commands are those of the answered calls.

`tells_of_advanceTimes` proves it for all answers and every moment of cancellation. The
invariant is `Noted`. Its part `Evidence` goes by the state; the others compare what is
noted with the calls, and a step changes them in one of the four ways that `Notes` lists.
-/

set_option autoImplicit false

namespace InstallMatrix

open CellProgram

/-! ### Reading a result -/

/-- Name, script and account of a recorded command. Two lists of commands are compared by these,
since records have an outcome and steps have none. -/
def StepRecord.ran (r : StepRecord) : String × String × String := (r.name, r.command, r.user)

/-- Name, script and account of a command that is to be run. -/
def PhaseStep.ran (s : PhaseStep) : String × String × String :=
  (s.name, s.command.script, s.command.user)

namespace PhaseRecord

/-- Every command exited with zero. A phase that has no command would pass as well, but there is
none. -/
def Passed (r : PhaseRecord) : Prop := ∀ s ∈ r.steps, s.exitCode = some 0

/-- The last command has this exit code, and those before it exited with zero. -/
def StoppedWith (r : PhaseRecord) (code : Option Int) : Prop :=
  ∃ before last, r.steps = before ++ [last] ∧ (∀ s ∈ before, s.exitCode = some 0) ∧
    last.exitCode = code

end PhaseRecord

namespace CellResult

/-- Which of archive, image and container the result names. A result names what the cell had come
to have when it ended. -/
def Names (r : CellResult) (artifact image container : Bool) : Prop :=
  r.artifact.isSome = artifact ∧ r.image.isSome = image ∧ r.container.isSome = container

/-- One phase was begun, that of the cell's own identity, and this holds of it. -/
def OnePhase (r : CellResult) (holds : PhaseRecord → Prop) : Prop :=
  ∃ phase, r.phases = [phase] ∧ phase.identity = r.cell.identity ∧ holds phase

/-- What the kind of its failure says about the rest of a result: which resources it names, and
which command of which phase it stopped at. -/
def Explains (r : CellResult) : FailureKind → Prop
  | .artifactMissing => r.Names false false false ∧ r.phases = []
  | .artifactAmbiguous => r.Names false false false ∧ r.phases = []
  | .buildError => r.Names true false false ∧ r.phases = []
  | .startError => r.Names true true false ∧ r.phases = []
  | .rootInstallError => r.cell.identity = .root ∧ r.Names true true true ∧
    r.OnePhase fun phase => ∃ code, code ≠ 0 ∧ phase.StoppedWith (some code)
  | .userInstallError => r.cell.identity = .user ∧ r.Names true true true ∧
    r.OnePhase fun phase => ∃ code, code ≠ 0 ∧ phase.StoppedWith (some code)
  | .infrastructureError => r.Names true true true ∧
    r.OnePhase fun phase => phase.StoppedWith none
  -- A cancellation strikes before the phase, in it, or behind it.
  | .cancelled => r.phases = [] ∨
    r.OnePhase fun phase => phase.Passed ∨ phase.StoppedWith none

/-- Whatever its kind, a failure leaves at most one phase, and in it only the last command
did not exit with zero. -/
theorem Explains.phases {r : CellResult} {kind : FailureKind} (h : r.Explains kind) :
    r.phases = [] ∨ r.OnePhase fun phase =>
      phase.Passed ∨ ∃ code, code ≠ some 0 ∧ phase.StoppedWith code := by
  -- Failures before a container is up have no phase, those of a command have one that stopped.
  cases kind with
  | artifactMissing | artifactAmbiguous | buildError | startError => exact .inl h.2
  | rootInstallError | userInstallError =>
    obtain ⟨-, -, phase, one, own, code, nonzero, stopped⟩ := h
    have other : some code ≠ some 0 := fun same => nonzero (Option.some.inj same)
    exact .inr ⟨phase, one, own, .inr ⟨some code, other, stopped⟩⟩
  | infrastructureError =>
    obtain ⟨-, phase, one, own, stopped⟩ := h
    exact .inr ⟨phase, one, own, .inr ⟨none, nofun, stopped⟩⟩
  | cancelled =>
    rcases h with none | ⟨phase, one, own, passed | stopped⟩
    · exact .inl none
    · exact .inr ⟨phase, one, own, .inl passed⟩
    · exact .inr ⟨phase, one, own, .inr ⟨none, nofun, stopped⟩⟩

/-- Where the only phase passed, no step is listed as failed. -/
theorem failedSteps_of_passed {r : CellResult} {phase : PhaseRecord} (one : r.phases = [phase])
    (passed : phase.Passed) : r.failedSteps = [] := by
  have none : phase.steps.filter (fun s => s.exitCode != some 0) = [] := by
    rw [List.filter_eq_nil_iff]
    intro s mem
    simp [passed s mem]
  unfold failedSteps
  rw [one, List.flatMap_singleton, none, List.map_nil]

/-- Where the only phase stopped with a code other than zero, or with none, its last step is the
one that failed, and no other is listed. -/
theorem failedSteps_of_stoppedWith {r : CellResult} {phase : PhaseRecord} {code : Option Int}
    (one : r.phases = [phase]) (nonzero : code ≠ some 0) (stopped : phase.StoppedWith code) :
    ∃ step, phase.steps.getLast? = some step ∧ r.failedSteps = [(phase, step)] := by
  obtain ⟨before, last, split, zeros, exit⟩ := stopped
  have only : phase.steps.filter (fun s => s.exitCode != some 0) = [last] := by
    have none : before.filter (fun s => s.exitCode != some 0) = [] := by
      rw [List.filter_eq_nil_iff]
      intro s mem
      simp [zeros s mem]
    rw [split, List.filter_append, none]
    simp [exit, nonzero]
  refine ⟨last, by rw [split, List.getLast?_concat], ?_⟩
  unfold failedSteps
  rw [one, List.flatMap_singleton, only, List.map_singleton]

end CellResult

namespace Deed

/-- Is the deed a command. -/
def isCommand : Deed → Bool
  | .called (.exec _ _) _ => true
  | _ => false

/-- The record is that of this command and of what it was answered. Where there was no answer, the
record has the error in the place of the error output. -/
def RecordedAs : Deed → StepRecord → Prop
  | .called (.exec _ command) (.ok output), r =>
    r.command = command.script ∧ r.user = command.user ∧ r.exitCode = some output.exitCode ∧
      r.stdout = output.stdout ∧ r.stderr = output.stderr
  | .called (.exec _ command) (.error e), r =>
    r.command = command.script ∧ r.user = command.user ∧ r.exitCode = none ∧
      r.stdout = "" ∧ r.stderr = e.message
  | _, _ => False

end Deed

namespace Pipeline

variable {ctx : RunContext} {p p' : Pipeline} {ds before : List Deed}

/-- What can be read off the result `r` of a cell that has done `ds` and is in the terminal
state `s`. -/
structure Tells (ctx : RunContext) (cell : Cell) (s : CellState) (ds : List Deed)
    (r : CellResult) : Prop where
  own : r.cell = cell
  unskipped : r.skipReason = none
  pass_iff : r.status = .pass ↔ ∃ container, s = .completed container
  passed : r.status = .pass → r.failure = none ∧ r.Names true true true ∧
    r.OnePhase fun phase =>
      phase.steps.map StepRecord.name = ["extract", "install", "verify"] ∧ phase.Passed
  failed : r.status ≠ .pass → r.status = .fail ∧
    ∃ failure container, s = .failed failure container ∧ r.failure = some failure ∧
      r.Explains failure.kind
  /-- The archive is the one that was chosen for the cell. -/
  archive : ∀ name, r.artifact = some name →
    ∃ artifact, archiveOf ctx cell = .ok artifact ∧ artifact.fileName = name
  /-- The image is the one that was built. -/
  image : ∀ text, r.image = some text ↔
    ∃ d image, .called (.build d) (.ok image) ∈ ds ∧ image.text = text
  /-- The container is the one that was started. -/
  container : ∀ name, r.container = some name ↔
    ∃ image options c, .called (.start image options) (.ok c) ∈ ds ∧ c.name = name
  /-- The recorded commands are those that were run, in order, with their outcomes. -/
  commands : List.Forall₂ Deed.RecordedAs (ds.filter Deed.isCommand)
    (r.phases.flatMap PhaseRecord.steps)
  /-- They are the first commands of the phase of the cell's identity. -/
  planned : r.phases = [] ∨ ∃ artifact, archiveOf ctx cell = .ok artifact ∧
    r.OnePhase fun phase =>
      phase.steps.map StepRecord.ran <+: (stepsOf ctx cell artifact).map PhaseStep.ran
  /-- The failed commands of the result are those that did not exit with zero, and of these
  there is at most the last. -/
  failedSteps : r.failedSteps = [] ∨ ∃ phase step, r.phases = [phase] ∧
    phase.steps.getLast? = some step ∧ r.failedSteps = [(phase, step)]
  /-- The stages are those visited, the last one being that of the state. -/
  trace : r.trace.getLast? = some s.stage

/-! ### The records of a phase -/

/-- What is recorded of a phase is what was run, from its first step on. -/
theorem PhaseRun.recordedAs {container : Container} {steps : List PhaseStep}
    {records : List StepRecord} {ending : PhaseEnd}
    (run : PhaseRun container steps ds records ending) :
    List.Forall₂ Deed.RecordedAs (ds.filter Deed.isCommand) records ∧
      records.map StepRecord.ran <+: steps.map PhaseStep.ran := by
  induction run with
  | finished => exact ⟨.nil, List.nil_prefix⟩
  | passed output zero rest ih =>
    obtain ⟨recorded, first⟩ := ih
    exact ⟨.cons ⟨rfl, rfl, rfl, rfl, rfl⟩ recorded, List.cons_prefix_cons.mpr ⟨rfl, first⟩⟩
  | exited output nonzero =>
    exact ⟨.cons ⟨rfl, rfl, rfl, rfl, rfl⟩ .nil,
      List.cons_prefix_cons.mpr ⟨rfl, List.nil_prefix⟩⟩
  | undispatched error reply durationMs =>
    exact ⟨.cons ⟨rfl, rfl, rfl, rfl, rfl⟩ .nil,
      List.cons_prefix_cons.mpr ⟨rfl, List.nil_prefix⟩⟩

/-- A phase builds no image. -/
theorem PhaseRun.not_build_mem {container : Container} {steps : List PhaseStep}
    {records : List StepRecord} {ending : PhaseEnd} {d : Definition}
    {reply : Except GatewayError ImageTag} (run : PhaseRun container steps ds records ending) :
    .called (.build d) reply ∉ ds := by
  intro mem
  rcases run.call_of_mem mem with ⟨command, reply, same⟩ | ⟨reply, same⟩ <;> cases same

/-- How a phase ended is to be seen from its records: all of them passed, or the last one has the
exit code that was not zero, or it has none. -/
def EndsAs (i : Identity) (steps : List PhaseStep) (records : List StepRecord) : PhaseEnd → Prop
  | .passed => records.map StepRecord.ran = steps.map PhaseStep.ran ∧
    PhaseRecord.Passed ⟨i, records⟩
  | .exited _ code => code ≠ 0 ∧ PhaseRecord.StoppedWith ⟨i, records⟩ (some code)
  | .undispatched _ _ _ => PhaseRecord.StoppedWith ⟨i, records⟩ none

/-- A command that exited with zero, in front of a phase, ends as the phase does. This is the step
of the induction on commands. -/
theorem EndsAs.cons {i : Identity} {step : PhaseStep} {steps : List PhaseStep}
    {records : List StepRecord} {ending : PhaseEnd} {output : CommandOutput}
    (h : EndsAs i steps records ending) (zero : output.exitCode = 0) :
    EndsAs i (step :: steps) (ranRecord step output :: records) ending := by
  have first : (ranRecord step output).exitCode = some 0 := congrArg some zero
  have stopped : ∀ {code}, PhaseRecord.StoppedWith ⟨i, records⟩ code →
      PhaseRecord.StoppedWith ⟨i, ranRecord step output :: records⟩ code := by
    rintro code ⟨before, last, split, zeros, exit⟩
    refine ⟨ranRecord step output :: before, last, congrArg _ split, ?_, exit⟩
    exact List.forall_mem_cons.mpr ⟨first, zeros⟩
  cases ending with
  | passed => exact ⟨congrArg (step.ran :: ·) h.1, List.forall_mem_cons.mpr ⟨first, h.2⟩⟩
  | exited name code => exact ⟨h.1, stopped h.2⟩
  | undispatched name error logs => exact stopped h

/-- How the run of a phase ended can be seen from its records: every step before the last one
passed. The induction is on the run. -/
theorem PhaseRun.endsAs {container : Container} {steps : List PhaseStep}
    {records : List StepRecord} {ending : PhaseEnd} (i : Identity)
    (run : PhaseRun container steps ds records ending) : EndsAs i steps records ending := by
  induction run with
  | finished => exact ⟨rfl, List.forall_mem_nil _⟩
  | passed output zero rest ih => exact ih.cons zero
  | exited output nonzero => exact ⟨nonzero, [], _, rfl, List.forall_mem_nil _, rfl⟩
  | undispatched error reply durationMs => exact ⟨[], _, rfl, List.forall_mem_nil _, rfl⟩

/-! ### What a step notes -/

/-- `Notes ctx p ds p'`: what is noted in `p'` besides what was noted in `p`. -/
inductive Notes (ctx : RunContext) (p : Pipeline) (ds : List Deed) (p' : Pipeline) : Prop
  | nothing (artifact : p'.artifact = p.artifact) (image : p'.image = p.image)
      (phases : p'.phases = p.phases) (unbuilt : ∀ d t, .called (.build d) (.ok t) ∉ ds)
      (idle : ds.filter Deed.isCommand = [])
  | archive {chosen : Artifact} (found : archiveOf ctx p.cell = .ok chosen)
      (silent : ds = []) (artifact : p'.artifact = some chosen.fileName)
      (image : p'.image = p.image) (phases : p'.phases = p.phases)
  | image {d : Definition} {t : ImageTag} (built : ds = [.called (.build d) (.ok t)])
      (none : p.image = none) (artifact : p'.artifact = p.artifact) (image : p'.image = some t)
      (phases : p'.phases = p.phases)
  | phase {chosen : Artifact} {container : Container} {records : List StepRecord}
      {ending : PhaseEnd} (found : archiveOf ctx p.cell = .ok chosen)
      (run : PhaseRun container (stepsOf ctx p.cell chosen) ds records ending)
      (none : p.phases = []) (artifact : p'.artifact = p.artifact) (image : p'.image = p.image)
      (phases : p'.phases = [⟨p.cell.identity, records⟩])

/-- Archive and image are noted. -/
def Furnished (p : Pipeline) (artifact : Artifact) : Prop :=
  p.artifact = some artifact.fileName ∧ p.image.isSome = true

/-- The phase of the cell's identity is noted, with all its commands, and it passed. -/
def Ran (ctx : RunContext) (p : Pipeline) (artifact : Artifact) : Prop :=
  ∃ phase, p.phases = [phase] ∧ phase.identity = p.cell.identity ∧
    phase.steps.map StepRecord.ran = (stepsOf ctx p.cell artifact).map PhaseStep.ran ∧
    phase.Passed

/-- What is noted of a cell in each state. The archive is noted when it is chosen, the image when
it is built, and the phase when it has ended. -/
def Evidence (ctx : RunContext) (p : Pipeline) : CellState → Prop
  | .pending => p.artifact = none ∧ p.image = none ∧ p.phases = []
  | .artifactResolved artifact =>
    p.artifact = some artifact.fileName ∧ p.image = none ∧ p.phases = []
  | .imageBuilt artifact _ => Furnished p artifact ∧ p.phases = []
  | .containerRunning artifact _ => Furnished p artifact ∧ p.phases = []
  | .rootPhase artifact _ => Furnished p artifact ∧
    if p.cell.identity = .root then Ran ctx p artifact else p.phases = []
  | .userPhase artifact _ => Furnished p artifact ∧ Ran ctx p artifact
  | .completed _ => ∃ artifact, Furnished p artifact ∧ Ran ctx p artifact
  | .failed failure _ => ∀ now, (p.result now).Explains failure.kind

/-- Before its own phase, a cell has noted its image and no phase. -/
theorem Evidence.beforePhase {i : Identity} {artifact : Artifact} {container : Container}
    (h : Evidence ctx p (beforePhase i artifact container)) (own : p.cell.identity = i) :
    Furnished p artifact ∧ p.phases = [] := by
  subst own
  cases e : p.cell.identity with
  | root =>
    rw [e] at h
    exact h
  | user =>
    rw [e] at h
    obtain ⟨furnished, none⟩ := h
    rw [if_neg (by simp [e])] at none
    exact ⟨furnished, none⟩

/-- Until it is at its end, a cell has noted no phase or one that passed. -/
theorem Evidence.phases_of_unfinished (h : Evidence ctx p p.state)
    (unfinished : p.state.isTerminal = false) (now : Nat) :
    (p.result now).phases = [] ∨ (p.result now).OnePhase PhaseRecord.Passed := by
  have ran : ∀ {artifact}, Ran ctx p artifact → (p.result now).OnePhase PhaseRecord.Passed := by
    rintro artifact ⟨phase, one, own, -, passed⟩
    exact ⟨phase, one, own, passed⟩
  -- Before its phase a cell has recorded none, behind it the one that passed.
  cases state : p.state with
  | pending | artifactResolved =>
    rw [state] at h
    exact .inl h.2.2
  | imageBuilt | containerRunning =>
    rw [state] at h
    exact .inl h.2
  | rootPhase artifact container =>
    rw [state] at h
    obtain ⟨-, own⟩ := h
    split at own
    · exact .inr (ran own)
    · exact .inl own
  | userPhase artifact container =>
    rw [state] at h
    exact .inr (ran h.2)
  | completed | failed =>
    rw [state] at unfinished
    cases unfinished

/-- A step notes nothing, the archive, the image or the phase. What is noted belongs to the calls
that the step made. -/
theorem Advances.notes (step : Advances ctx p ds p') (evidence : Evidence ctx p p.state)
    (history : History ctx p.cell p.state before) : Notes ctx p ds p' := by
  cases step with
  | aborted unfinished => exact .nothing rfl rfl rfl (by simp) rfl
  | resolved stands =>
    -- The search for the archive is read twice, by the step and by what is expected of it.
    cases found : archiveOf ctx p.cell with
    | ok chosen =>
      have fixed : p.resolve ctx
          = { p with artifact := some chosen.fileName }.enter (.artifactResolved chosen) := by
        unfold archiveOf at found
        unfold resolve
        rw [found]
      rw [fixed]
      exact .archive found rfl rfl rfl rfl
    | error e =>
      unfold archiveOf at found
      unfold resolve
      rw [found]
      exact .nothing rfl rfl rfl (by simp) rfl
  | uncatalogued stands absent => exact .nothing rfl rfl rfl (by simp) rfl
  | built stands known reply =>
    rw [stands] at evidence
    cases reply with
    | ok t => exact .image rfl evidence.2.1 rfl rfl rfl
    | error e => cases e <;> exact .nothing rfl rfl rfl (by simp) rfl
  | started stands reply =>
    cases reply <;> exact .nothing rfl rfl rfl (by simp) rfl
  | @phase i artifact container _ records ending stands own run =>
    rw [stands] at evidence history
    obtain ⟨found, -⟩ := history.beforePhase own
    obtain ⟨-, none⟩ := evidence.beforePhase own
    subst own
    -- No phase was recorded before, so this is the only one, however it ended.
    have noted : (p.endPhase p.cell.identity artifact container records ending).phases
        = [⟨p.cell.identity, records⟩] := by
      have appended : (p.endPhase p.cell.identity artifact container records ending).phases
          = p.phases ++ [⟨p.cell.identity, records⟩] := by
        cases ending <;> rfl
      rw [appended, none]
      rfl
    refine .phase found run none ?_ ?_ noted <;> cases ending <;> rfl
  | passedThrough stands other => exact .nothing rfl rfl rfl (by simp) rfl
  | completed stands => exact .nothing rfl rfl rfl (by simp) rfl
  | stayed terminal => exact .nothing rfl rfl rfl (by simp) rfl

/-! ### What is noted in each state -/

/-- A cell that failed names what is noted, and the container that is left to the failure. -/
theorem names_failWith {kind : FailureKind} {stage : Stage} {message : String}
    {diagnostics : Option String} {container : Option Container} {artifact image : Bool}
    (hasArtifact : p.artifact.isSome = artifact) (hasImage : p.image.isSome = image) (now : Nat) :
    ((p.failWith kind stage message diagnostics container).result now).Names artifact image
      container.isSome :=
  ⟨hasArtifact, Option.isSome_map.trans hasImage, Option.isSome_map⟩

/-- A cell that is furnished with an archive shows one in its result. -/
theorem Furnished.isSome_artifact {artifact : Artifact} (h : Furnished p artifact) :
    p.artifact.isSome = true := by
  rw [h.1]
  rfl

/-- The archive was chosen, or the cell failed with nothing noted. -/
theorem evidence_resolve (evidence : Evidence ctx p .pending) :
    Evidence ctx (p.resolve ctx) (p.resolve ctx).state := by
  obtain ⟨artifact, image, phases⟩ := evidence
  have bare {kind : FailureKind} {message : String} (now : Nat) :
      ((p.failWith kind .artifactResolved message none none).result now).Names false false false :=
    names_failWith (congrArg Option.isSome artifact) (congrArg Option.isSome image) now
  unfold resolve
  split
  · exact ⟨rfl, image, phases⟩
  · next e _ =>
    intro now
    cases e <;> exact ⟨bare now, phases⟩

/-- The release is in the catalog, or the cell failed with its archive noted. -/
theorem evidence_uncatalogued {artifact : Artifact} {message : String}
    (evidence : Evidence ctx p (.artifactResolved artifact)) (now : Nat) :
    ((p.failWith .buildError .imageBuilt message none none).result now).Explains .buildError := by
  obtain ⟨noted, image, phases⟩ := evidence
  exact ⟨names_failWith (congrArg Option.isSome noted) (congrArg Option.isSome image) now, phases⟩

/-- The image was built, or the cell failed with its archive noted. -/
theorem evidence_afterBuild {artifact : Artifact}
    (evidence : Evidence ctx p (.artifactResolved artifact))
    (reply : Except GatewayError ImageTag) :
    Evidence ctx (p.afterBuild artifact reply) (p.afterBuild artifact reply).state := by
  obtain ⟨noted, image, phases⟩ := evidence
  have named {kind : FailureKind} {message : String} {output : Option String} (now : Nat) :
      ((p.failWith kind .imageBuilt message output none).result now).Names true false false :=
    names_failWith (congrArg Option.isSome noted) (congrArg Option.isSome image) now
  unfold afterBuild
  split
  · exact ⟨⟨noted, rfl⟩, phases⟩
  · exact fun now => ⟨named now, phases⟩
  · next e _ =>
    intro now
    -- A build that was cancelled is no error of the build.
    cases e.isCancelled with
    | true => exact .inl phases
    | false => exact ⟨named now, phases⟩

/-- The container was started, or the cell failed with its image noted. -/
theorem evidence_afterStart {artifact : Artifact} {image : ImageTag}
    (evidence : Evidence ctx p (.imageBuilt artifact image))
    (reply : Except GatewayError Container) :
    Evidence ctx (p.afterStart artifact reply) (p.afterStart artifact reply).state := by
  obtain ⟨furnished, phases⟩ := evidence
  unfold afterStart
  split
  · exact ⟨furnished, phases⟩
  · next e =>
    intro now
    cases e.isCancelled with
    | true => exact .inl phases
    | false => exact ⟨names_failWith furnished.isSome_artifact furnished.2 now, phases⟩

/-- The phase is noted as it ended, with the records of its commands. The state that follows is
the one for that ending. -/
theorem evidence_endPhase {i : Identity} {artifact : Artifact} {container : Container}
    {records : List StepRecord} {ending : PhaseEnd} (own : p.cell.identity = i)
    (furnished : Furnished p artifact) (none : p.phases = [])
    (ends : EndsAs i (stepsOf ctx p.cell artifact) records ending) :
    Evidence ctx (p.endPhase i artifact container records ending)
      (p.endPhase i artifact container records ending).state := by
  let noted := { p with phases := p.phases ++ [PhaseRecord.mk i records] }
  have one : noted.phases = [⟨i, records⟩] := congrArg (· ++ _) none
  have named {kind : FailureKind} {stage : Stage} {message : String}
      {diagnostics : Option String} (now : Nat) :
      ((noted.failWith kind stage message diagnostics (some container)).result now).Names
        true true true :=
    names_failWith (p := noted) furnished.isSome_artifact furnished.2 now
  -- A phase that passed leads on. The other two ends are failures, which must name what was used.
  cases ending with
  | passed =>
    have ran : Ran ctx noted artifact := ⟨_, one, own.symm, ends⟩
    show Evidence ctx (noted.enter (afterPhase i artifact container))
      (afterPhase i artifact container)
    cases i with
    | root =>
      refine ⟨furnished, ?_⟩
      split
      · exact ran
      · next other => exact absurd own other
    | user => exact ⟨furnished, ran⟩
  | exited step code =>
    intro now
    cases i with
    | root => exact ⟨own, named now, _, one, own.symm, code, ends⟩
    | user => exact ⟨own, named now, _, one, own.symm, code, ends⟩
  | undispatched step error logs =>
    intro now
    cases error.isCancelled with
    | true => exact .inr ⟨_, one, own.symm, .inr ends⟩
    | false => exact ⟨named now, _, one, own.symm, ends⟩

/-- The phase of the other identity notes nothing. -/
theorem evidence_passedThrough {i : Identity} {artifact : Artifact} {container : Container}
    (evidence : Evidence ctx p (Pipeline.beforePhase i artifact container))
    (other : p.cell.identity ≠ i) :
    Evidence ctx (p.enter (afterPhase i artifact container)) (afterPhase i artifact container) := by
  cases i with
  | root =>
    obtain ⟨furnished, none⟩ := evidence
    refine ⟨furnished, ?_⟩
    split
    · next own => exact absurd own other
    · exact none
  | user =>
    obtain ⟨furnished, own⟩ := evidence
    -- There are two identities, so a cell that is not the user's has run its phase as root.
    split at own
    · exact ⟨furnished, own⟩
    · next notRoot => cases e : p.cell.identity <;> contradiction

/-- One step keeps what is noted in agreement with the state. Each kind of step has its own lemma
above, and this one puts them together. -/
theorem evidence_step (evidence : Evidence ctx p p.state) (step : Advances ctx p ds p') :
    Evidence ctx p' p'.state := by
  -- One lemma for each kind of step, at the state the cell stands in.
  cases step with
  | aborted unfinished =>
    intro now
    exact (evidence.phases_of_unfinished unfinished now).imp id fun passed => by
      obtain ⟨phase, one, own, holds⟩ := passed
      exact ⟨phase, one, own, .inl holds⟩
  | resolved stands =>
    rw [stands] at evidence
    exact evidence_resolve evidence
  | uncatalogued stands absent =>
    rw [stands] at evidence
    exact evidence_uncatalogued evidence
  | built stands found reply =>
    rw [stands] at evidence
    exact evidence_afterBuild evidence reply
  | started stands reply =>
    rw [stands] at evidence
    exact evidence_afterStart evidence reply
  | phase stands own run =>
    rw [stands] at evidence
    obtain ⟨furnished, none⟩ := evidence.beforePhase own
    subst own
    exact evidence_endPhase rfl furnished none (run.endsAs _)
  | passedThrough stands other =>
    rw [stands] at evidence
    exact evidence_passedThrough evidence other
  | completed stands =>
    rw [stands] at evidence
    exact ⟨_, evidence⟩
  | stayed terminal => exact evidence

/-! ### What is noted is what was done -/

/-- Everything noted of a cell was done by it: the archive was found, the image is the reply to a
build, and the commands are those that were sent. -/
structure Noted (ctx : RunContext) (p : Pipeline) (ds : List Deed) : Prop where
  evidence : Evidence ctx p p.state
  archive : ∀ name, p.artifact = some name →
    ∃ artifact, archiveOf ctx p.cell = .ok artifact ∧ artifact.fileName = name
  image : ∀ t, p.image = some t ↔ ∃ d, .called (.build d) (.ok t) ∈ ds
  commands : List.Forall₂ Deed.RecordedAs (ds.filter Deed.isCommand)
    (p.phases.flatMap PhaseRecord.steps)
  planned : p.phases = [] ∨ ∃ artifact phase, archiveOf ctx p.cell = .ok artifact ∧
    p.phases = [phase] ∧ phase.identity = p.cell.identity ∧
    phase.steps.map StepRecord.ran <+: (stepsOf ctx p.cell artifact).map PhaseStep.ran

/-- One step keeps `Noted`, its calls being added to those before. -/
theorem noted_step (h : Noted ctx p before) (step : Advances ctx p ds p')
    (history : History ctx p.cell p.state before) : Noted ctx p' (before ++ ds) := by
  have evidence := evidence_step h.evidence step
  have cell := step.cell_eq
  cases step.notes h.evidence history with
  | nothing artifact image phases unbuilt idle =>
    refine ⟨evidence, ?_, fun t => ?_, ?_, ?_⟩
    · rw [artifact, cell]
      exact h.archive
    · rw [image, h.image]
      simp only [List.mem_append, unbuilt, or_false]
    · rw [List.filter_append, idle, List.append_nil, phases]
      exact h.commands
    · rw [phases, cell]
      exact h.planned
  | @archive chosen found silent artifact image phases =>
    subst silent
    rw [List.append_nil]
    refine ⟨evidence, fun name noted => ?_, ?_, ?_, ?_⟩
    · rw [artifact] at noted
      rw [cell]
      exact ⟨chosen, found, Option.some.inj noted⟩
    · rw [image]
      exact h.image
    · rw [phases]
      exact h.commands
    · rw [phases, cell]
      exact h.planned
  | @image d t built none artifact image phases =>
    subst built
    refine ⟨evidence, ?_, fun other => ?_, ?_, ?_⟩
    · rw [artifact, cell]
      exact h.archive
    · rw [image]
      constructor
      · rintro ⟨⟩
        exact ⟨d, by simp⟩
      · rintro ⟨d', mem⟩
        rcases List.mem_append.mp mem with earlier | last
        · -- The image is the first one that was built.
          have noted := (h.image other).mpr ⟨d', earlier⟩
          rw [none] at noted
          cases noted
        · cases List.mem_singleton.mp last
          rfl
    · rw [List.filter_append, phases]
      simpa [Deed.isCommand] using h.commands
    · rw [phases, cell]
      exact h.planned
  | @phase chosen container records ending found run none artifact image phases =>
    obtain ⟨recorded, first⟩ := run.recordedAs
    refine ⟨evidence, ?_, fun t => ?_, ?_, ?_⟩
    · rw [artifact, cell]
      exact h.archive
    · rw [image, h.image]
      simp only [List.mem_append, run.not_build_mem, or_false]
    · -- No command was run before the phase.
      have idle : before.filter Deed.isCommand = [] := by
        have commands := h.commands
        rw [none] at commands
        exact List.forall₂_nil_right_iff.mp commands
      rw [List.filter_append, idle, phases]
      simpa using recorded
    · rw [phases, cell]
      exact .inr ⟨chosen, _, found, rfl, rfl, first⟩

/-! ### The result -/

/-- Whatever steps a cell takes from its beginning, all that is noted of it was done. -/
theorem noted_of_advanceTimes {cell : Cell} {clock n : Nat}
    (steps : Does (advanceTimes ctx n (create cell clock)) ds p) : Noted ctx p ds := by
  have start : History ctx cell .pending [] ∧ Noted ctx (create cell clock) [] :=
    ⟨rfl, ⟨rfl, rfl, rfl⟩, nofun, fun t => ⟨nofun, fun ⟨_, mem⟩ => nomatch mem⟩, .nil, .inl rfl⟩
  have kept := advanceTimes_invariant
    (fun p ds => History ctx p.cell p.state ds ∧ Noted ctx p ds) ?_ start steps
  · exact kept.2
  · rintro p p' before ds ⟨history, noted⟩ step
    refine ⟨?_, noted_step noted step history⟩
    rw [step.cell_eq]
    exact history_step history step

/-- At its end, a cell has completed and passed the phase of its identity, or it has failed for
a reason that agrees with what is noted. -/
theorem Noted.completed_or_failed (h : Noted ctx p ds) (terminal : p.state.isTerminal = true) :
    (∃ container artifact, p.state = .completed container ∧ Furnished p artifact ∧
        Ran ctx p artifact) ∨
      ∃ failure container, p.state = .failed failure container ∧
        ∀ now, (p.result now).Explains failure.kind := by
  have evidence := h.evidence
  cases state : p.state with
  | completed container =>
    rw [state] at evidence
    obtain ⟨artifact, furnished, ran⟩ := evidence
    exact .inl ⟨container, artifact, rfl, furnished, ran⟩
  | failed failure container =>
    rw [state] at evidence
    exact .inr ⟨failure, container, rfl, evidence⟩
  | _ =>
    rw [state] at terminal
    cases terminal

/-- The result of a cell that has come to its end tells what happened, whatever the cell was
answered and whenever its run was cancelled. -/
theorem tells_of_advanceTimes {cell : Cell} {clock n : Nat}
    (steps : Does (advanceTimes ctx n (create cell clock)) ds p)
    (terminal : p.state.isTerminal = true) (now : Nat) :
    Tells ctx cell p.state ds (p.result now) := by
  obtain ⟨own, history⟩ := history_of_advanceTimes steps
  have noted := noted_of_advanceTimes steps
  have orderly := (traced_of_advanceTimes steps).orderly history
  -- The two ways a cell can end decide every field below.
  have ends := noted.completed_or_failed terminal
  subst own
  constructor
  case own => rfl
  case unskipped => rfl
  case pass_iff => exact status_result_eq_pass_iff
  case passed =>
    intro pass
    obtain ⟨container, state⟩ := status_result_eq_pass_iff.mp pass
    rcases ends with ⟨-, artifact, -, furnished, phase, one, own, all, passed⟩ | ⟨f, c, failed, -⟩
    · have names : phase.steps.map StepRecord.name = ["extract", "install", "verify"] := by
        have same := congrArg (List.map Prod.fst) all
        rw [List.map_map, List.map_map] at same
        exact same.trans (map_name_stepsOf ctx p.cell artifact)
      refine ⟨?_, ⟨furnished.isSome_artifact, ?_, ?_⟩, phase, one, own, names, passed⟩
      · show (verdict p.state).2 = none
        rw [state]
        rfl
      · exact Option.isSome_map.trans furnished.2
      · show (p.state.container?.map Container.name).isSome = true
        rw [state]
        rfl
    · rw [state] at failed
      cases failed
  case failed =>
    intro other
    rcases ends with ⟨container, -, completed, -⟩ | ⟨failure, container, state, explains⟩
    · exact absurd (status_result_eq_pass_iff.mpr ⟨container, completed⟩) other
    · refine ⟨?_, failure, container, state, ?_, explains now⟩
      · show (verdict p.state).1 = .fail
        rw [state]
        rfl
      · show (verdict p.state).2 = some failure
        rw [state]
        rfl
  case archive => exact noted.archive
  case image =>
    intro text
    show p.image.map ImageTag.text = some text ↔ _
    simp only [Option.map_eq_some_iff, noted.image]
    constructor
    · rintro ⟨t, ⟨d, mem⟩, rfl⟩
      exact ⟨d, t, mem, rfl⟩
    · rintro ⟨d, t, mem, rfl⟩
      exact ⟨t, ⟨d, mem⟩, rfl⟩
  case container =>
    intro name
    show p.state.container?.map Container.name = some name ↔ _
    simp only [Option.map_eq_some_iff, orderly.container]
    constructor
    · rintro ⟨c, ⟨image, options, mem⟩, rfl⟩
      exact ⟨image, options, c, mem, rfl⟩
    · rintro ⟨image, options, c, mem, rfl⟩
      exact ⟨c, ⟨image, options, mem⟩, rfl⟩
  case commands => exact noted.commands
  case planned =>
    refine noted.planned.imp id ?_
    rintro ⟨artifact, phase, found, one, own, first⟩
    exact ⟨artifact, found, phase, one, own, first⟩
  case failedSteps =>
    have phases : p.phases = [] ∨ (p.result now).OnePhase fun phase =>
        phase.Passed ∨ ∃ code, code ≠ some 0 ∧ phase.StoppedWith code := by
      rcases ends with ⟨-, artifact, -, -, phase, one, own, -, passed⟩ |
        ⟨failure, container, -, explains⟩
      · exact .inr ⟨phase, one, own, .inl passed⟩
      · exact (explains now).phases
    rcases phases with none | ⟨phase, one, -, passed | ⟨code, nonzero, stopped⟩⟩
    · exact .inl (congrArg _ none)
    · exact .inl (CellResult.failedSteps_of_passed one passed)
    · obtain ⟨step, last, only⟩ := CellResult.failedSteps_of_stoppedWith one nonzero stopped
      exact .inr ⟨phase, step, one, last, only⟩
  case trace => exact orderly.current

/-- The first command of a root install is answered with an error. The result names its
container, and shows one command, which has no exit code. -/
theorem tells_of_idle_engine :
    ∃ ds p, Does (advanceTimes Sample.context 4 (create Sample.cell 0)) ds p ∧
      p.state.isTerminal = true ∧ Tells Sample.context Sample.cell p.state ds (p.result 0) ∧
      (p.result 0).failure.map Failure.kind = some .infrastructureError := by
  let answer := Sample.answering Sample.idle
  obtain ⟨log, path⟩ := Program.path_of_run answer
    (advanceTimes Sample.context 4 (create Sample.cell 0)) ()
  have steps : Does (advanceTimes Sample.context 4 (create Sample.cell 0)) (deeds log) _ :=
    ⟨log, path, rfl⟩
  have terminal : (Program.run answer
      (advanceTimes Sample.context 4 (create Sample.cell 0)) ()).1.state.isTerminal = true := by
    decide +kernel
  refine ⟨_, _, steps, terminal, tells_of_advanceTimes steps terminal 0, ?_⟩
  decide +kernel

end Pipeline

end InstallMatrix
