import InstallMatrix.Proofs.Run.Advance

/-!
# `InstallMatrix.Proofs.Run.Protocol`: the calls of one cell

`CellCalls.Lawful` states the rules that the calls of one cell keep, sorted by what
they are for: one image, one container, the commands of the cell's own phase, the
container's logs, and the release.

`calls_lawful` proves them for every number of steps followed by a release, for
every answer and every moment of cancellation. The invariant behind it is
`History`, which says for each state which calls led there; `history_step` carries
it over one step. `History` knows more than the rules: a completed cell, for one,
has had every command of its phase exit with zero.
-/

set_option autoImplicit false

namespace InstallMatrix

open CellProgram

namespace Deed

/-- The call of a deed. A result that was handed in is no call, and so the calls of a cell are
filtered out of its deeds. -/
def call? : Deed → Option Call
  | .called c _ => some c
  | .recorded _ => none

/-- A command that ran and exited with this code. It says nothing of what the command printed. -/
def Exited (code : Int) : Deed → Prop
  | .called (.exec _ _) (.ok output) => output.exitCode = code
  | _ => False

/-- A command that was answered with an error: the gateway could not run it, so there is no exit
code. -/
def Undispatched : Deed → Prop
  | .called (.exec _ _) (.error _) => True
  | _ => False

end Deed

/-- The calls of one cell, sorted by what they are for. A cell makes them in the order of the
fields, so putting the parts together again gives its calls in time. -/
structure CellCalls where
  builds : List Deed
  starts : List Deed
  execs : List Deed
  logs : List Deed
  releases : List Deed

namespace Pipeline

variable {ctx : RunContext} {p p' : Pipeline} {ds : List Deed}

/-- The steps of the phase of a cell's own identity. They depend on the settings of the installer
and on the archive, and not on anything the cell has seen. -/
def stepsOf (ctx : RunContext) (cell : Cell) (artifact : Artifact) : List PhaseStep :=
  Install.phaseSteps cell.identity artifact.fileName ctx.settings.installer
    ctx.settings.testUser

/-- The names of the three commands. A phase extracts the archive, installs it and verifies the
installation, whichever identity it is for. -/
theorem map_name_stepsOf (ctx : RunContext) (cell : Cell) (artifact : Artifact) :
    (stepsOf ctx cell artifact).map PhaseStep.name = ["extract", "install", "verify"] := rfl

/-- The definition of the environment that a cell of the release asks for. -/
def definitionOf (ctx : RunContext) (cell : Cell) (release : Release) : Definition :=
  Environment.recipe ctx.settings.testUser release cell.architecture

/-- The one call that gives a container up: it is retained when the settings say so,
else it is removed. -/
def Releases (ctx : RunContext) (container : Container) (ds : List Deed) : Prop :=
  if ctx.settings.retainContainers then ds = [.called (.retain container) ()]
  else ∃ reply, ds = [.called (.remove container) reply]

end Pipeline

namespace CellCalls

open Pipeline

/-- The container that was handed to the cell, by the reply to its start. -/
def Holds (c : CellCalls) (container : Container) : Prop :=
  ∃ image options, .called (.start image options) (.ok container) ∈ c.starts

/-- The rules for the calls of a cell:

- `builds`: at most one image is built, once the archive is known;
- `starts`: at most one container is started, from the image that was built;
- `execs`: the commands are the first ones of the phase of the cell's own identity,
  in order and all in the container that was handed over;
- `inOrder`: a command follows another only if that one exited with zero;
- `logs`: the logs of that container are read, once, just if a command was answered
  with an error;
- `releases`: the container is given up, once, just if there is one. -/
structure Lawful (ctx : RunContext) (cell : Cell) (c : CellCalls) : Prop where
  builds : c.builds = [] ∨ ∃ artifact release reply, archiveOf ctx cell = .ok artifact ∧
    ctx.catalog.find? cell.distribution cell.version = some release ∧
    c.builds = [.called (.build (definitionOf ctx cell release)) reply]
  starts : c.starts = [] ∨ ∃ definition image options reply,
    c.builds = [.called (.build definition) (.ok image)] ∧
    c.starts = [.called (.start image options) reply]
  execs : c.execs = [] ∨ ∃ artifact container, archiveOf ctx cell = .ok artifact ∧
    c.Holds container ∧ c.execs.map Deed.call?
      <+: (stepsOf ctx cell artifact).map fun step => some (.exec container step.command)
  inOrder : ∀ d ∈ c.execs.dropLast, d.Exited 0
  logs : ((∃ d ∈ c.execs, d.Undispatched) ∧ ∃ container reply, c.Holds container ∧
      c.logs = [.called (.logs container) reply]) ∨
    (∀ d ∈ c.execs, ¬ d.Undispatched) ∧ c.logs = []
  releases : (∃ container, c.Holds container ∧ Releases ctx container c.releases) ∨
    (∀ container, ¬ c.Holds container) ∧ c.releases = []

end CellCalls

namespace Pipeline

variable {ctx : RunContext} {p p' : Pipeline} {ds : List Deed}

/-! ### Which calls lead to a state -/

/-- The calls that lead to the image of a cell: one build, of the definition for its release, that
was answered with this image. -/
def Built (ctx : RunContext) (cell : Cell) (image : ImageTag) (ds : List Deed) : Prop :=
  ∃ release, ctx.catalog.find? cell.distribution cell.version = some release ∧
    ds = [.called (.build (definitionOf ctx cell release)) (.ok image)]

/-- The calls that lead to the container of a cell: its image was built, and a start of it was
answered with this container. -/
def Started (ctx : RunContext) (cell : Cell) (artifact : Artifact) (container : Container)
    (ds : List Deed) : Prop :=
  ∃ image setup, Built ctx cell image setup ∧
    ds = setup ++ [.called (.start image (startOptions cell artifact)) (.ok container)]

/-- The calls of a phase that passed: every step was sent to the container, and each of them
exited with zero. -/
def Passed (ctx : RunContext) (cell : Cell) (artifact : Artifact) (container : Container)
    (ds : List Deed) : Prop :=
  ∃ records, PhaseRun container (stepsOf ctx cell artifact) ds records .passed

/-- The calls of a cell that never had a container: none, a build, or a build and a start that
failed. -/
def Unstarted (ctx : RunContext) (cell : Cell) (ds : List Deed) : Prop :=
  ds = [] ∨ ∃ artifact, archiveOf ctx cell = .ok artifact ∧
    ((∃ release reply, ctx.catalog.find? cell.distribution cell.version = some release ∧
        ds = [.called (.build (definitionOf ctx cell release)) reply]) ∨
      ∃ image setup error, Built ctx cell image setup ∧
        ds = setup ++ [.called (.start image (startOptions cell artifact)) (.error error)])

/-- The calls of a cell that has a container: those that led to it, and then none or
those of its phase. -/
def Equipped (ctx : RunContext) (cell : Cell) (container : Container) (ds : List Deed) : Prop :=
  ∃ artifact setup phase, archiveOf ctx cell = .ok artifact ∧
    Started ctx cell artifact container setup ∧ ds = setup ++ phase ∧
    (phase = [] ∨
      ∃ records ending, PhaseRun container (stepsOf ctx cell artifact) phase records ending)

/-- `History ctx cell s ds`: the calls `ds` lead the cell to the state `s`. -/
def History (ctx : RunContext) (cell : Cell) : CellState → List Deed → Prop
  | .pending, ds => ds = []
  | .artifactResolved artifact, ds => archiveOf ctx cell = .ok artifact ∧ ds = []
  | .imageBuilt artifact image, ds =>
    archiveOf ctx cell = .ok artifact ∧ Built ctx cell image ds
  | .containerRunning artifact container, ds =>
    archiveOf ctx cell = .ok artifact ∧ Started ctx cell artifact container ds
  | .rootPhase artifact container, ds =>
    archiveOf ctx cell = .ok artifact ∧ ∃ setup phase,
      Started ctx cell artifact container setup ∧ ds = setup ++ phase ∧
      (if cell.identity = .root then Passed ctx cell artifact container phase else phase = [])
  | .userPhase artifact container, ds =>
    archiveOf ctx cell = .ok artifact ∧ ∃ setup phase,
      Started ctx cell artifact container setup ∧ ds = setup ++ phase ∧
      Passed ctx cell artifact container phase
  | .completed container, ds =>
    ∃ artifact, archiveOf ctx cell = .ok artifact ∧ ∃ setup phase,
      Started ctx cell artifact container setup ∧ ds = setup ++ phase ∧
      Passed ctx cell artifact container phase
  | .failed _ none, ds => Unstarted ctx cell ds
  | .failed _ (some container), ds => Equipped ctx cell container ds

/-- A state with a container has had the calls of one. In all states from the start on the history
begins with the same calls. -/
theorem History.equipped {cell : Cell} {s : CellState} {container : Container}
    (h : History ctx cell s ds) (holds : s.container? = some container) :
    Equipped ctx cell container ds := by
  -- The first three states hold no container. The others know how theirs was started and
  -- differ in how far the phase has come.
  cases s with
  | pending => cases holds
  | artifactResolved artifact => cases holds
  | imageBuilt artifact image => cases holds
  | containerRunning artifact c =>
    cases holds
    obtain ⟨found, started⟩ := h
    exact ⟨artifact, ds, [], found, started, by simp, .inl rfl⟩
  | rootPhase artifact c =>
    cases holds
    obtain ⟨found, setup, phase, started, rfl, own⟩ := h
    refine ⟨artifact, setup, phase, found, started, rfl, ?_⟩
    split at own
    · obtain ⟨records, run⟩ := own
      exact .inr ⟨records, _, run⟩
    · exact .inl own
  | userPhase artifact c =>
    cases holds
    obtain ⟨found, setup, phase, started, rfl, records, run⟩ := h
    exact ⟨artifact, setup, phase, found, started, rfl, .inr ⟨records, _, run⟩⟩
  | completed c =>
    cases holds
    obtain ⟨artifact, found, setup, phase, started, rfl, records, run⟩ := h
    exact ⟨artifact, setup, phase, found, started, rfl, .inr ⟨records, _, run⟩⟩
  | failed failure c =>
    cases holds
    exact h

/-- A state without a container has had none. This includes the failures before and in the start.
-/
theorem History.unstarted {cell : Cell} {s : CellState} (h : History ctx cell s ds)
    (none : s.container? = none) : Unstarted ctx cell ds := by
  cases s with
  | pending => exact .inl h
  | artifactResolved artifact => exact .inl h.2
  | imageBuilt artifact image =>
    obtain ⟨found, release, known, rfl⟩ := h
    exact .inr ⟨artifact, found, .inl ⟨release, _, known, rfl⟩⟩
  | containerRunning artifact c => cases none
  | rootPhase artifact c => cases none
  | userPhase artifact c => cases none
  | completed c => cases none
  | failed failure c =>
    cases none
    exact h

/-- What a cell holds when it fails stays with it, so a failure is reached with the same calls as
the state before it. -/
theorem History.failed {cell : Cell} {s : CellState} (h : History ctx cell s ds)
    (failure : Failure) : History ctx cell (.failed failure s.container?) ds := by
  cases holds : s.container? with
  | none => exact h.unstarted holds
  | some container => exact h.equipped holds

/-- Before its own phase, a cell has had the calls of its container and no more. -/
theorem History.beforePhase {cell : Cell} {i : Identity} {artifact : Artifact}
    {container : Container} (h : History ctx cell (beforePhase i artifact container) ds)
    (own : cell.identity = i) :
    archiveOf ctx cell = .ok artifact ∧ Started ctx cell artifact container ds := by
  subst own
  -- The user's phase comes after root's, which a cell of the user has passed through.
  cases e : cell.identity with
  | root =>
    rw [e] at h
    exact h
  | user =>
    rw [e] at h
    obtain ⟨found, setup, phase, started, rfl, none⟩ := h
    rw [if_neg (by simp [e])] at none
    rw [none, List.append_nil]
    exact ⟨found, started⟩

/-- After its own phase, a cell has had the calls of its container and the phase. -/
theorem History.afterPhase {cell : Cell} {artifact : Artifact} {container : Container}
    {setup phase : List Deed} (found : archiveOf ctx cell = .ok artifact)
    (started : Started ctx cell artifact container setup)
    (passed : Passed ctx cell artifact container phase) :
    History ctx cell (afterPhase cell.identity artifact container) (setup ++ phase) := by
  cases e : cell.identity with
  | root => exact ⟨found, setup, phase, started, rfl, by rw [if_pos e]; exact passed⟩
  | user => exact ⟨found, setup, phase, started, rfl, passed⟩

/-- The phase of the other identity adds no call: the cell goes past it, and its history is that
of the state behind it as well. -/
theorem History.passThrough {cell : Cell} {i : Identity} {artifact : Artifact}
    {container : Container}
    (h : History ctx cell (Pipeline.beforePhase i artifact container) ds)
    (other : cell.identity ≠ i) :
    History ctx cell (Pipeline.afterPhase i artifact container) ds := by
  cases i with
  | root =>
    obtain ⟨found, started⟩ := h
    refine ⟨found, ds, [], started, by simp, ?_⟩
    rw [if_neg other]
  | user =>
    obtain ⟨found, setup, phase, started, rfl, own⟩ := h
    -- There are two identities, so a cell that is not the user's is root's.
    have root : cell.identity = .root := by
      cases e : cell.identity with
      | root => rfl
      | user => exact absurd e other
    rw [if_pos root] at own
    exact ⟨found, setup, phase, started, rfl, own⟩

/-- One step keeps `History`, its calls being added to those before. The cases are those of
`Advances`, one for each thing a step can do. -/
theorem history_step {before : List Deed} (h : History ctx p.cell p.state before)
    (step : Advances ctx p ds p') : History ctx p.cell p'.state (before ++ ds) := by
  -- Each step either ends in a failure that keeps the container or adds to the calls just
  -- what `History` asks for in the next state.
  cases step with
  | aborted unfinished =>
    rw [List.append_nil]
    exact h.failed _
  | resolved stands =>
    rw [stands] at h
    obtain rfl : before = [] := h
    rcases resolve_state ctx p with ⟨artifact, found, leads⟩ | ⟨failure, leads⟩ <;> rw [leads]
    · exact ⟨found, rfl⟩
    · exact .inl rfl
  | uncatalogued stands absent =>
    rw [stands] at h
    obtain ⟨-, rfl⟩ := h
    exact .inl rfl
  | @built artifact release stands known reply =>
    rw [stands] at h
    obtain ⟨found, rfl⟩ := h
    rcases afterBuild_state p artifact reply with ⟨image, rfl, leads⟩ | ⟨e, failure, rfl, leads⟩ <;>
      rw [leads]
    · exact ⟨found, release, known, rfl⟩
    · exact .inr ⟨artifact, found, .inl ⟨release, _, known, rfl⟩⟩
  | @started artifact image stands reply =>
    rw [stands] at h
    obtain ⟨found, built⟩ := h
    rcases afterStart_state p artifact reply with ⟨c, rfl, leads⟩ | ⟨e, failure, rfl, leads⟩ <;>
      rw [leads]
    · exact ⟨found, image, before, built, rfl⟩
    · exact .inr ⟨artifact, found, .inr ⟨image, before, e, built, rfl⟩⟩
  | @phase i artifact container _ records ending stands own run =>
    rw [stands] at h
    obtain ⟨found, started⟩ := h.beforePhase own
    subst own
    -- A phase that did not pass leaves the container to the failure, with what was run.
    rcases endPhase_state p p.cell.identity artifact container records ending
      with ⟨rfl, leads⟩ | ⟨-, failure, leads⟩ <;> rw [leads]
    · exact .afterPhase found started ⟨records, run⟩
    · exact ⟨artifact, before, ds, found, started, rfl, .inr ⟨records, ending, run⟩⟩
  | @passedThrough i artifact container stands other =>
    rw [stands] at h
    rw [List.append_nil]
    exact h.passThrough other
  | @completed artifact container stands =>
    rw [stands] at h
    rw [List.append_nil]
    exact ⟨artifact, h⟩
  | stayed terminal =>
    rw [List.append_nil]
    exact h

/-- Any number of steps keep `History`. This is `history_step` by induction on the number, with
the cell carried along because the history depends on it. -/
theorem history_advanceTimes {cell : Cell} {n : Nat} {before : List Deed} (own : p.cell = cell)
    (h : History ctx cell p.state before) (steps : Does (advanceTimes ctx n p) ds p') :
    p'.cell = cell ∧ History ctx cell p'.state (before ++ ds) := by
  refine advanceTimes_invariant (fun p ds => p.cell = cell ∧ History ctx cell p.state ds)
    ?_ ⟨own, h⟩ steps
  rintro p p' before ds ⟨rfl, kept⟩ step
  exact ⟨step.cell_eq, history_step kept step⟩

/-- Whatever steps a cell takes from its beginning, its calls are those that lead to
the state it is in. -/
theorem history_of_advanceTimes {cell : Cell} {clock n : Nat}
    (h : Does (advanceTimes ctx n (create cell clock)) ds p) :
    p.cell = cell ∧ History ctx cell p.state ds :=
  by
  have start : History ctx cell (create cell clock).state [] := rfl
  exact history_advanceTimes rfl start h

/-! ### The container of a cell -/

/-- A phase starts no container. -/
theorem PhaseRun.not_start_mem {c : Container} {image : ImageTag} {options : StartOptions}
    {steps : List PhaseStep} {records : List StepRecord} {ending : PhaseEnd}
    {reply : Except GatewayError Container} (run : PhaseRun c steps ds records ending) :
    .called (.start image options) reply ∉ ds := by
  intro mem
  rcases run.call_of_mem mem with ⟨command, reply, same⟩ | ⟨reply, same⟩ <;> cases same

/-- A cell has the container that was handed to it. -/
theorem Equipped.start_mem {cell : Cell} {c : Container} (h : Equipped ctx cell c ds) :
    ∃ image options, .called (.start image options) (.ok c) ∈ ds := by
  obtain ⟨artifact, -, phase, -, ⟨image, first, -, rfl⟩, rfl, -⟩ := h
  exact ⟨image, startOptions cell artifact, by simp⟩

/-- A cell is handed one container: any start that was answered with a container was answered with
this one. -/
theorem Equipped.eq_of_start_mem {cell : Cell} {c c' : Container} {image : ImageTag}
    {options : StartOptions} (h : Equipped ctx cell c ds)
    (mem : .called (.start image options) (.ok c') ∈ ds) : c' = c := by
  obtain ⟨artifact, -, phase, -, ⟨image, -, ⟨release, -, rfl⟩, rfl⟩, rfl, ran⟩ := h
  rcases List.mem_append.mp mem with setup | inPhase
  · rcases List.mem_cons.mp setup with same | last
    · cases same
    · cases List.mem_singleton.mp last
      rfl
  · rcases ran with rfl | ⟨records, ending, run⟩
    · cases inPhase
    · exact absurd inPhase run.not_start_mem

/-- A cell that never had a container was handed none. -/
theorem Unstarted.not_start_mem {cell : Cell} {c : Container} {image : ImageTag}
    {options : StartOptions} (h : Unstarted ctx cell ds) :
    .called (.start image options) (.ok c) ∉ ds := by
  rcases h with rfl | ⟨artifact, -, ⟨release, reply, -, rfl⟩ |
    ⟨image, -, error, ⟨release, -, rfl⟩, rfl⟩⟩ <;> simp

/-- A state holds the container that was handed to the cell. So what a cell holds can be read off
its calls, and the other way round. -/
theorem History.container?_eq_some_iff {cell : Cell} {s : CellState} {c : Container}
    (h : History ctx cell s ds) :
    s.container? = some c ↔ ∃ image options, .called (.start image options) (.ok c) ∈ ds := by
  refine ⟨fun holds => (h.equipped holds).start_mem, ?_⟩
  rintro ⟨image, options, mem⟩
  cases holds : s.container? with
  | none => exact absurd mem (h.unstarted holds).not_start_mem
  | some other => rw [(h.equipped holds).eq_of_start_mem mem]

/-! ### The release -/

/-- A cell without a container makes no call when it is released. -/
theorem does_release_none {u : Unit} (none : p.state.container? = none) :
    Does (p.release ctx) ds u ↔ ds = [] := by
  unfold release
  rw [none]
  simp [does_pure]

/-- A cell with a container gives it up with one call when it is released. -/
theorem does_release_some {container : Container} {u : Unit}
    (holds : p.state.container? = some container) :
    Does (p.release ctx) ds u ↔ Releases ctx container ds := by
  unfold release Releases
  rw [holds]
  simp only
  split
  · exact does_call
  · constructor
    · intro h
      obtain ⟨reply, rest, rfl, stops⟩ := does_call_bind.mp h
      obtain ⟨rfl, -⟩ := does_pure.mp stops
      exact ⟨reply, rfl⟩
    · rintro ⟨reply, rfl⟩
      exact does_call_bind.mpr ⟨reply, [], rfl, does_pure.mpr ⟨rfl, rfl⟩⟩

/-! ### The rules -/

/-- The calls of a phase are commands, each but the last exited with zero, and then
the logs just if the last was answered with an error. -/
theorem PhaseRun.split {container : Container} {steps : List PhaseStep}
    {records : List StepRecord} {ending : PhaseEnd}
    (run : PhaseRun container steps ds records ending) :
    ∃ execs logs, ds = execs ++ logs ∧
      execs.map Deed.call? <+: (steps.map fun step => some (.exec container step.command)) ∧
      (∀ d ∈ execs.dropLast, d.Exited 0) ∧
      ((∃ d ∈ execs, d.Undispatched) ∧ (∃ reply, logs = [.called (.logs container) reply]) ∨
        (∀ d ∈ execs, ¬ d.Undispatched) ∧ logs = []) := by
  induction run with
  | finished => exact ⟨[], [], rfl, List.nil_prefix, by simp, .inr ⟨by simp, rfl⟩⟩
  | @passed step steps ds records ending output zero rest ih =>
    obtain ⟨execs, logs, rfl, first, order, last⟩ := ih
    refine ⟨.called (.exec container step.command) (.ok output) :: execs, logs, rfl,
      List.cons_prefix_cons.mpr ⟨rfl, first⟩, ?_, ?_⟩
    · intro d mem
      -- `dropLast` keeps the new command only if another one follows it.
      cases execs with
      | nil => cases mem
      | cons e execs =>
        rcases List.mem_cons.mp mem with rfl | mem
        · exact zero
        · exact order d mem
    · rcases last with ⟨⟨d, mem, failed⟩, logged⟩ | ⟨none, logged⟩
      · exact .inl ⟨⟨d, List.mem_cons_of_mem _ mem, failed⟩, logged⟩
      · refine .inr ⟨fun d mem => ?_, logged⟩
        rcases List.mem_cons.mp mem with rfl | mem
        · exact id
        · exact none d mem
  | @exited step steps output nonzero =>
    refine ⟨[.called (.exec container step.command) (.ok output)], [], rfl,
      List.cons_prefix_cons.mpr ⟨rfl, List.nil_prefix⟩, by simp, .inr ⟨fun d mem => ?_, rfl⟩⟩
    obtain rfl := List.mem_singleton.mp mem
    exact id
  | @undispatched step steps error reply durationMs =>
    exact ⟨[.called (.exec container step.command) (.error error)],
      [.called (.logs container) reply], rfl,
      List.cons_prefix_cons.mpr ⟨rfl, List.nil_prefix⟩, by simp,
      .inl ⟨⟨_, List.mem_singleton.mpr rfl, trivial⟩, reply, rfl⟩⟩

/-- Only the call that started a container hands it over, and there is one such call. -/
theorem holds_iff_of_started {builds execs logs releases : List Deed} {image : ImageTag}
    {options : StartOptions} {container other : Container} :
    (CellCalls.mk builds [.called (.start image options) (.ok container)] execs logs
      releases).Holds other ↔ other = container := by
  constructor
  · rintro ⟨image', options', mem⟩
    cases List.mem_singleton.mp mem
    rfl
  · rintro rfl
    exact ⟨image, options, List.mem_singleton.mpr rfl⟩

/-- Where no container was started, none is held. -/
theorem not_holds_of_unstarted {builds execs logs releases : List Deed}
    (container : Container) : ¬ (CellCalls.mk builds [] execs logs releases).Holds container := by
  rintro ⟨image, options, mem⟩
  cases mem

/-- The calls of a cell that never had a container keep the rules. There are no commands, no logs
and no release among them. -/
theorem lawful_of_unstarted {cell : Cell} (h : Unstarted ctx cell ds) :
    ∃ c : CellCalls, ds = c.builds ++ c.starts ++ c.execs ++ c.logs ∧ c.releases = [] ∧
      c.Lawful ctx cell := by
  -- No call at all, a build and no more, or a build and a start that came to nothing.
  rcases h with rfl | ⟨artifact, found, ⟨release, reply, known, rfl⟩ |
    ⟨image, -, error, ⟨release, known, rfl⟩, rfl⟩⟩
  · exact ⟨⟨[], [], [], [], []⟩, rfl, rfl, .inl rfl, .inl rfl, .inl rfl, by simp,
      .inr ⟨by simp, rfl⟩, .inr ⟨not_holds_of_unstarted, rfl⟩⟩
  · exact ⟨⟨[.called (.build (definitionOf ctx cell release)) reply], [], [], [], []⟩, rfl, rfl,
      .inr ⟨artifact, release, reply, found, known, rfl⟩, .inl rfl, .inl rfl, by simp,
      .inr ⟨by simp, rfl⟩, .inr ⟨not_holds_of_unstarted, rfl⟩⟩
  · refine ⟨⟨[.called (.build (definitionOf ctx cell release)) (.ok image)],
      [.called (.start image (startOptions cell artifact)) (.error error)], [], [], []⟩, rfl, rfl,
      .inr ⟨artifact, release, _, found, known, rfl⟩, .inr ⟨_, image, _, _, rfl, rfl⟩, .inl rfl,
      by simp, .inr ⟨by simp, rfl⟩, .inr ⟨?_, rfl⟩⟩
    rintro container ⟨image', options', mem⟩
    cases List.mem_singleton.mp mem

/-- The calls of a cell that has a container, and those that give it up, keep the
rules. -/
theorem lawful_of_equipped {cell : Cell} {container : Container} {released : List Deed}
    (h : Equipped ctx cell container ds) (gives : Releases ctx container released) :
    ∃ c : CellCalls, ds = c.builds ++ c.starts ++ c.execs ++ c.logs ∧ c.releases = released ∧
      c.Lawful ctx cell := by
  obtain ⟨artifact, -, phase, found, ⟨image, -, ⟨release, known, rfl⟩, rfl⟩, rfl, ran⟩ := h
  -- A phase that was not begun has no commands, which is a run cut short.
  obtain ⟨execs, logs, rfl, first, order, last⟩ : ∃ execs logs, phase = execs ++ logs ∧
      execs.map Deed.call? <+:
        ((stepsOf ctx cell artifact).map fun step => some (.exec container step.command)) ∧
      (∀ d ∈ execs.dropLast, d.Exited 0) ∧
      ((∃ d ∈ execs, d.Undispatched) ∧ (∃ reply, logs = [.called (.logs container) reply]) ∨
        (∀ d ∈ execs, ¬ d.Undispatched) ∧ logs = []) := by
    rcases ran with rfl | ⟨records, ending, run⟩
    · exact ⟨[], [], rfl, List.nil_prefix, by simp, .inr ⟨by simp, rfl⟩⟩
    · exact run.split
  refine ⟨⟨[.called (.build (definitionOf ctx cell release)) (.ok image)],
    [.called (.start image (startOptions cell artifact)) (.ok container)], execs, logs, released⟩,
    by simp, rfl, ?_⟩
  constructor
  case builds => exact .inr ⟨artifact, release, _, found, known, rfl⟩
  case starts => exact .inr ⟨_, image, _, _, rfl, rfl⟩
  case execs =>
    exact .inr ⟨artifact, container, found, holds_iff_of_started.mpr rfl, first⟩
  case inOrder => exact order
  case logs =>
    refine last.imp ?_ id
    rintro ⟨failed, reply, logged⟩
    exact ⟨failed, container, reply, holds_iff_of_started.mpr rfl, logged⟩
  case releases => exact .inl ⟨container, holds_iff_of_started.mpr rfl, gives⟩

/-- A cell that takes any number of steps and is then released keeps the rules for its
calls, whatever it is answered and whenever its run is cancelled. -/
theorem calls_lawful {cell : Cell} {clock n : Nat} {driven released : List Deed} {u : Unit}
    (steps : Does (advanceTimes ctx n (create cell clock)) driven p)
    (release : Does (p.release ctx) released u) :
    ∃ c : CellCalls, driven = c.builds ++ c.starts ++ c.execs ++ c.logs ∧
      released = c.releases ∧ c.Lawful ctx cell := by
  obtain ⟨-, history⟩ := history_of_advanceTimes steps
  -- The release goes by the container of the state, and so does `History`.
  cases holds : p.state.container? with
  | none =>
    obtain rfl := (does_release_none holds).mp release
    obtain ⟨c, driven_eq, released_eq, lawful⟩ := lawful_of_unstarted (history.unstarted holds)
    exact ⟨c, driven_eq, released_eq.symm, lawful⟩
  | some container =>
    have gives := (does_release_some holds).mp release
    obtain ⟨c, driven_eq, released_eq, lawful⟩ :=
      lawful_of_equipped (history.equipped holds) gives
    exact ⟨c, driven_eq, released_eq.symm, lawful⟩

end Pipeline

/-! ### A cell to look at

One release, one archive and the cell of its root install, for closed cases of the
statements about runs. -/

namespace Sample

/-- The release of the examples: one version of one distribution, for one architecture and one C
library. -/
def release : Release :=
  ⟨"alpine", "3.19", [.x86_64], [.musl], "alpine:3.19", .apk, []⟩

/-- A run of this one release, with the one archive that fits it and settings as they come. -/
def context : RunContext where
  catalog := ⟨[release]⟩
  artifacts := ⟨"/dist", .ok [⟨"q-x86_64-linux-musl.zip", false⟩]⟩
  settings := .default

/-- The first cell of the release, which is installed by root. The examples of other modules use
it as well. -/
def cell : Cell := ⟨"alpine", "3.19", .x86_64, .musl, .root⟩

/-- The same cell installed by an ordinary user. It shares the image with `cell`, so the two meet
when they are run side by side. -/
def user : Cell := { cell with identity := .user }

/-- The archive both cells are given, with the directory it lies in. -/
def artifact : Artifact := ⟨"/dist/q-x86_64-linux-musl.zip", "q-x86_64-linux-musl.zip"⟩

/-- A container of the first cell, as an engine may have started it. -/
def container : Container := ⟨"c1", "install-matrix-1", ⟨"image"⟩, cell.label⟩

/-- The engine at its best: every call is answered as hoped for. Examples in which something goes
wrong change one of these answers. -/
def hopeful : (c : Call) → c.Reply
  | .build _ => .ok ⟨"image"⟩
  | .start _ _ => .ok container
  | .exec _ _ => .ok ⟨0, "", "", 0⟩
  | .logs _ => .ok ""
  | .remove _ => .ok ()
  | .retain _ => ()

/-- The archive is found for the cell, by its architecture and C library. -/
theorem archiveOf_cell : Pipeline.archiveOf context cell = .ok artifact := by
  have found : (Pipeline.archiveOf context cell).toOption = some artifact := by decide +kernel
  cases h : Pipeline.archiveOf context cell with
  | ok a =>
    rw [h] at found
    cases found
    rfl
  | error e =>
    rw [h] at found
    cases found

end Sample

namespace Pipeline

/-- The second command of a root install is answered with an error: the calls are one
build, one start, two commands and the logs, and then the container is removed. -/
theorem calls_lawful_of_undispatched_command :
    ∃ p driven, Does (advanceTimes Sample.context 4 (create Sample.cell 0)) driven p ∧
      driven.length = 5 ∧
      Does (p.release Sample.context) [.called (.remove Sample.container) (.ok ())] () ∧
      ∃ c : CellCalls, driven = c.builds ++ c.starts ++ c.execs ++ c.logs ∧
        [.called (.remove Sample.container) (.ok ())] = c.releases ∧
        c.Lawful Sample.context Sample.cell := by
  -- The pipeline after each of its four steps.
  let p₁ := (create Sample.cell 0).resolve Sample.context
  let p₂ := p₁.afterBuild Sample.artifact (.ok ⟨"image"⟩)
  let p₃ := p₂.afterStart Sample.artifact (.ok Sample.container)
  have chosen : p₁.state = .artifactResolved Sample.artifact :=
    resolve_state_of_ok Sample.archiveOf_cell
  have known : Sample.context.catalog.find? p₁.cell.distribution p₁.cell.version
      = some Sample.release := by
    rw [resolve_cell]
    rfl
  have root : p₃.cell.identity = .root := by
    rw [afterStart_cell, afterBuild_cell, resolve_cell]
    rfl
  have run : ∃ ds records ending, ds.length = 3 ∧ PhaseRun Sample.container
      (Install.phaseSteps .root Sample.artifact.fileName Sample.context.settings.installer
        Sample.context.settings.testUser) ds records ending ∧ ending ≠ .passed :=
    ⟨_, _, _, rfl, .passed ⟨0, "", "", 0⟩ rfl (.undispatched (.timeout "exec") (.ok "") 0), nofun⟩
  obtain ⟨ds, records, ending, three, run, stopped⟩ := run
  let p₄ := p₃.endPhase .root Sample.artifact Sample.container records ending
  have first : Advances Sample.context (create Sample.cell 0) [] p₁ := .resolved rfl
  have second : Advances Sample.context p₁ _ p₂ := .built chosen known _
  have third : Advances Sample.context p₂ _ p₃ := .started rfl _
  have fourth : Advances Sample.context p₃ ds p₄ :=
    .phase (show p₃.state = beforePhase .root Sample.artifact Sample.container from rfl) root run
  have last := Advances.does_advanceTimes (n := 0) fourth (does_pure.mpr ⟨rfl, rfl⟩)
  have steps := first.does_advanceTimes (second.does_advanceTimes (third.does_advanceTimes last))
  have holds : p₄.state.container? = some Sample.container := by
    rcases endPhase_state p₃ .root Sample.artifact Sample.container records ending
      with ⟨passed, -⟩ | ⟨-, failure, leads⟩
    · exact absurd passed stopped
    · rw [leads]
      rfl
  have gives : Does (p₄.release Sample.context) [.called (.remove Sample.container) (.ok ())] () :=
    (does_release_some holds).mpr ⟨.ok (), rfl⟩
  exact ⟨_, _, steps, by simp [three], gives, calls_lawful steps gives⟩

end Pipeline

end InstallMatrix
