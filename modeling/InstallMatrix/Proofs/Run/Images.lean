import InstallMatrix.Command.Run
import InstallMatrix.Proofs.Catalog.Label
import InstallMatrix.Proofs.Command.Inspect
import InstallMatrix.Proofs.Run.Findings
import InstallMatrix.Proofs.Run.Permits
import InstallMatrix.Proofs.Run.Stock
import Mathlib.Data.Finset.Card

/-!
# `InstallMatrix.Proofs.Run.Images`: one image for a release and an architecture

`Cell.environment` is what the image of a cell depends on, and `RunContext.definition?` the
definition that is built for it. Cells of all C libraries and identities share both.

* `Lives.definition?_of_build`: of all definitions a cell asks for no other, as long as it
  lives. `Faithful.definition?_of_requests` says so of the tasks of a run.
* `Valid.find?_eq_some`: a release is found under its name in any case of the letters, and
  no other release is. So `definition?_runCell` and `definition_eq` come to the same
  definition, the one on the way of a cell, the other for whoever asks to see it.
* `buildRequests_of_step`: the memory gateway notes a build just if a task stands at it.

`one_image_each` puts these together, for every rehearsal of every plan.
-/

set_option autoImplicit false

namespace InstallMatrix

open CellProgram

/-- Of all that makes a cell, what its image depends on: release and architecture. Cells that
agree on these ask for the same image. -/
def Cell.environment (c : Cell) : String × String × Architecture :=
  (c.distribution, c.version, c.architecture)

/-- The definition that is built for a distribution, a version and an architecture. It says
nothing of any cell but these three. -/
def RunContext.definition? (ctx : RunContext) : String × String × Architecture → Option Definition
  | (distribution, version, architecture) =>
    (ctx.catalog.find? distribution version).map fun release =>
      Environment.recipe ctx.settings.testUser release architecture

/-! ### What a cell asks for -/

namespace Pipeline

variable {ctx : RunContext} {cell : Cell} {ds : List Deed} {d : Definition}
  {reply : Except GatewayError ImageTag}

/-- With its release in the catalog, an environment has the definition that release gives it. -/
theorem definition?_of_found {release : Release}
    (found : ctx.catalog.find? cell.distribution cell.version = some release) :
    ctx.definition? cell.environment = some (definitionOf ctx cell release) := by
  show (ctx.catalog.find? cell.distribution cell.version).map _ = _
  rw [found]
  rfl

/-- A cell whose release is known asks for the one definition, once. The definition depends on the
environment of the cell, and so cells that share the environment ask for the same. -/
theorem build_of_definition? {p : Pipeline} (artifact : Artifact)
    (known : ctx.definition? p.cell.environment = some d) :
    p.build ctx artifact = do return p.afterBuild artifact (← call (.build d)) := by
  obtain ⟨release, found, rfl⟩ := Option.map_eq_some_iff.mp known
  unfold build
  rw [found]

/-- A cell without a container has built the image of its own environment, if any. -/
theorem Unstarted.definition?_of_build (h : Unstarted ctx cell ds)
    (mem : .called (.build d) reply ∈ ds) : ctx.definition? cell.environment = some d := by
  rcases h with rfl | ⟨artifact, -, ⟨release, reply', found, rfl⟩ |
    ⟨image, -, error, ⟨release, found, rfl⟩, rfl⟩⟩
  · cases mem
  · cases List.mem_singleton.mp mem
    exact definition?_of_found found
  · rcases List.mem_cons.mp mem with same | mem
    · cases same
      exact definition?_of_found found
    · cases List.mem_singleton.mp mem

/-- So has a cell with a container: its only build is the one before the start. -/
theorem Equipped.definition?_of_build {container : Container} (h : Equipped ctx cell container ds)
    (mem : .called (.build d) reply ∈ ds) : ctx.definition? cell.environment = some d := by
  obtain ⟨artifact, -, phase, -, ⟨image, -, ⟨release, found, rfl⟩, rfl⟩, rfl, ran⟩ := h
  rcases List.mem_append.mp mem with mem | mem
  · rcases List.mem_cons.mp mem with same | mem
    · cases same
      exact definition?_of_found found
    · cases List.mem_singleton.mp mem
  · rcases ran with rfl | ⟨records, ending, run⟩
    · cases mem
    · exact absurd mem run.not_build_mem

/-- In its life, a cell asks for no definition but its own. It asks once at most, before its
container is started. -/
theorem Lives.definition?_of_build (life : Lives ctx cell ds)
    (mem : .called (.build d) reply ∈ ds) : ctx.definition? cell.environment = some d := by
  cases life with
  | skipped clock => cases List.mem_singleton.mp mem
  | @went p calls released clock arrives release =>
    rcases List.mem_append.mp mem with inside | behind
    · cases holds : p.state.container? with
      | none => exact (arrives.history.unstarted holds).definition?_of_build inside
      | some container => exact (arrives.history.equipped holds).definition?_of_build inside
    · -- Behind the result there is at most the call that gives the container up.
      rcases List.mem_cons.mp behind with same | behind
      · cases same
      · obtain ⟨c, reply', releases, same⟩ := isRelease_of_mem_release release behind
        cases same
        cases releases

end Pipeline

/-! ### What the tasks of a run ask for -/

namespace RunState

variable {s t : RunState} {i : Nat} {c : Call} {d : Definition}

/-- The task made the call: it stands at it, was answered, or broke off in it. A gateway may have
seen the call in all three cases. -/
def Makes (s : RunState) (i : Nat) (c : Call) : Prop :=
  s.StandsAt i c ∨ (∃ reply, .answered i c reply ∈ s.journal) ∨ .panicked i c ∈ s.journal

/-- Where a task stands at a call, there is a life of its cell with the call. -/
theorem Stands.exists_life {cell : Cell} {next : c.Reply → CellProgram Unit}
    (stands : Stands s i cell (.ask (.call c) next)) :
    ∃ ds reply, Pipeline.Lives s.context cell ds ∧ .called c reply ∈ ds := by
  obtain ⟨log, path, -, -⟩ := stands
  -- The call is answered, and the path goes on to a life that has it among its deeds.
  let reply : c.Reply := c.failed (.timeout "")
  obtain ⟨more, -, life⟩ := Pipeline.lives_of_path (path.answer reply)
  refine ⟨_, reply, life, List.mem_append_left _ ?_⟩
  rw [deeds_append]
  exact List.mem_append_right _ List.mem_cons_self

/-- Where a task stands there is a life of its cell with all it has done. -/
theorem Stands.exists_life_of_mem {cell : Cell} {rest : CellProgram Unit} {reply : c.Reply}
    (stands : Stands s i cell rest) (mem : .called c reply ∈ s.deeds i) :
    ∃ ds reply, Pipeline.Lives s.context cell ds ∧ .called c reply ∈ ds := by
  obtain ⟨log, path, deeds_eq, -⟩ := stands
  obtain ⟨more, -, life⟩ := Pipeline.lives_of_path path
  exact ⟨_, reply, life, List.mem_append_left _ (deeds_eq ▸ mem)⟩

/-- Whatever call a task made, there is a life of its cell with the call. -/
theorem Faithful.exists_life_of_makes (h : Faithful s) (makes : s.Makes i c) :
    ∃ cell status, s.tasks[i]? = some ⟨cell, status⟩ ∧
      ∃ ds reply, Pipeline.Lives s.context cell ds ∧ .called c reply ∈ ds := by
  -- The call may still be open, be answered, or be the one that broke the task.
  rcases makes with ⟨cell, next, stands⟩ | ⟨reply, answered⟩ | panicked
  · exact ⟨cell, _, stands, (h.follows stands).1.exists_life⟩
  · have mem : .called c reply ∈ s.deeds i := mem_deeds_iff.mpr answered
    obtain ⟨cell, status, found⟩ := h.exists_task fun silent => List.ne_nil_of_mem mem silent.1
    have follows := h.follows found
    refine ⟨cell, status, found, ?_⟩
    cases status with
    | waiting => exact absurd follows.1 (List.ne_nil_of_mem mem)
    | running rest => exact follows.1.exists_life_of_mem mem
    | done => exact follows.1.exists_life_of_mem mem
    | panicked =>
      obtain ⟨c', next, stands, -⟩ := follows
      exact stands.exists_life_of_mem mem
  · have broke : c ∈ s.breaks i := mem_breaks_iff.mpr panicked
    obtain ⟨cell, status, found⟩ := h.exists_task fun silent => List.ne_nil_of_mem broke silent.2
    have follows := h.follows found
    refine ⟨cell, status, found, ?_⟩
    cases status with
    | waiting => exact absurd follows.2 (List.ne_nil_of_mem broke)
    | running rest => exact absurd follows.2.1 (List.ne_nil_of_mem broke)
    | done => exact absurd follows.2 (List.ne_nil_of_mem broke)
    | panicked =>
      obtain ⟨c', next, stands, once⟩ := follows
      rw [once] at broke
      obtain rfl := List.mem_singleton.mp broke
      exact stands.exists_life

/-- A task asks for no definition but that of its cell. Whether the call was answered, is under
way or broke off makes no difference. -/
theorem Faithful.definition?_of_makes (h : Faithful s) (makes : s.Makes i (.build d)) :
    ∃ cell status, s.tasks[i]? = some ⟨cell, status⟩ ∧
      s.context.definition? cell.environment = some d := by
  obtain ⟨cell, status, found, ds, reply, life, mem⟩ := h.exists_life_of_makes makes
  exact ⟨cell, status, found, life.definition?_of_build mem⟩

/-- The cells of the tasks are among those of the plan that are to be run. -/
theorem cell_mem_runCells_of_reaches {context : RunContext} {plan : List PlannedCell}
    {cancelled : Bool} {events : List RunEvent}
    (run : Reaches (start context plan cancelled) events s) {task : Task}
    (found : s.tasks[i]? = some task) : task.cell ∈ PlannedCell.runCells plan := by
  have taken : ∀ {u : RunState}, TakenUp plan u → u.tasks = s.tasks →
      task.cell ∈ PlannedCell.runCells plan := by
    rintro u ⟨taken, rfl, cells, -⟩ same
    rw [PlannedCell.runCells_append, ← cells, same]
    exact List.mem_append_left _ (List.mem_map_of_mem (List.mem_of_getElem? found))
  cases past : s.finished with
  | false => exact taken (takenUp_of_reaches run past) rfl
  | true =>
    -- The tasks of a finished run are those it had when it was ready to be finished.
    obtain ⟨u, clock, earlier, reached, unfinished, concludes⟩ := exists_concludes rfl run past
    exact taken (takenUp_of_reaches reached unfinished) concludes.tasks.symm

end RunState

/-! ### What the gateway notes -/

namespace MemoryGateway

variable {g : MemoryGateway} {cancelled : Bool}

/-- A build is noted when it is asked for, and its end adds nothing. -/
theorem buildRequests_finishBuild (g : MemoryGateway) (d : Definition) :
    (g.finishBuild d).2.buildRequests = g.buildRequests := by
  unfold finishBuild
  cases g.behaviour.buildFailure <;> rfl

/-- A build that is served is noted once, by its tag, whether it succeeds or not. -/
theorem buildRequests_serve_build (g : MemoryGateway) (d : Definition) :
    (g.serve cancelled (.build d)).2.buildRequests = g.buildRequests ++ [d.imageTag] := by
  unfold serve
  simp only
  split
  · rfl
  · exact buildRequests_finishBuild (g.requestBuild d) d

/-- A call that is no build notes no build. -/
theorem buildRequests_serve_of_ne {c : Call} (other : ∀ d, c ≠ .build d) :
    (g.serve cancelled c).2.buildRequests = g.buildRequests := by
  cases c with
  | build d => exact absurd rfl (other d)
  | start image options =>
    simp only [serve, start]
    split
    · rfl
    · split <;> rfl
  | exec container command =>
    have same : (g.exec container command).2.buildRequests = g.buildRequests := by
      unfold exec
      split <;> rfl
    rw [← same]
    unfold serve
    simp only
    split <;> next e => rw [e]
  | logs | remove | retain => rfl

end MemoryGateway

namespace Rehearsal

open RunState PlannedCell

variable {r q : Rehearsal} {e : RehearsalEvent} {context : RunContext} {plan : List PlannedCell}
  {cancelled : Bool} {behaviour : MemoryBehaviour}

/-- A build is noted just when a task stands at it, by its tag. All other events leave the notes
as they are. -/
theorem buildRequests_of_step (h : r.step e = some q) :
    q.gateway.buildRequests = r.gateway.buildRequests ∨
      ∃ i d, r.run.StandsAt i (.build d) ∧
        q.gateway.buildRequests = r.gateway.buildRequests ++ [d.imageTag] := by
  -- Requests are added by a build that is served at once and by one that is begun.
  cases occurs_of_step h with
  | @serve i c stands =>
    by_cases other : ∀ d, c ≠ .build d
    · exact .inl (MemoryGateway.buildRequests_serve_of_ne other)
    · simp only [not_forall, not_not] at other
      obtain ⟨d, rfl⟩ := other
      exact .inr ⟨i, d, callOf?_eq_some stands,
        MemoryGateway.buildRequests_serve_build r.gateway d⟩
  | @begin i d stands => exact .inr ⟨i, d, callOf?_eq_some stands, rfl⟩
  | @complete i d => exact .inl (MemoryGateway.buildRequests_finishBuild r.gateway d)
  | inner | giveUp | fail | panic | sweep | sweepFails => exact .inl rfl

/-- Every tag that was noted is that of a cell of the plan that is to be run. This bounds the tags
by the environments of these cells. -/
def Accounted (context : RunContext) (plan : List PlannedCell) (g : MemoryGateway) : Prop :=
  ∀ tag ∈ g.buildRequests, ∃ cell ∈ runCells plan, ∃ d,
    context.definition? cell.environment = some d ∧ tag = d.imageTag

/-- One event keeps the notes accounted for. A new note is that of a task, whose cell is one of
the plan. -/
theorem accounted_step {events : List RunEvent}
    (run : RunState.Reaches (.start context plan cancelled) events r.run)
    (h : Accounted context plan r.gateway) (stepped : r.step e = some q) :
    Accounted context plan q.gateway := by
  intro tag mem
  rcases buildRequests_of_step stepped with same | ⟨i, d, stands, grown⟩
  · exact h tag (same ▸ mem)
  · rw [grown] at mem
    rcases List.mem_append.mp mem with before | last
    · exact h tag before
    · obtain ⟨cell, status, found, known⟩ :=
        (faithful_of_reaches run).definition?_of_makes (.inl stands)
      rw [run.context_eq] at known
      exact ⟨cell, cell_mem_runCells_of_reaches run found, d, known, List.mem_singleton.mp last⟩

/-- The run of a rehearsal is a run, and what was noted in it is accounted for. -/
theorem accounted_of_reaches {events : List RehearsalEvent}
    (rehearsal : Reaches (start context plan cancelled behaviour) events q) :
    (∃ events, RunState.Reaches (.start context plan cancelled) events q.run) ∧
      Accounted context plan q.gateway := by
  refine rehearsal.invariant (fun r =>
    (∃ events, RunState.Reaches (.start context plan cancelled) events r.run) ∧
      Accounted context plan r.gateway) ?_
    ⟨⟨[], .here _⟩, fun _ none => (List.not_mem_nil none).elim⟩
  rintro r e q ⟨⟨events, run⟩, accounted⟩ stepped
  exact ⟨exists_run_reaches_step stepped ⟨events, run⟩, accounted_step run accounted stepped⟩

/-- No more tags are noted than there are environments to build. An environment determines its
definition and with it the tag, and equal tags are counted once. -/
theorem Accounted.card_le {g : MemoryGateway} (h : Accounted context plan g) :
    g.buildRequests.toFinset.card ≤ ((runCells plan).map Cell.environment).toFinset.card := by
  let tagOf (e : String × String × Architecture) : Option ImageTag :=
    (context.definition? e).map Definition.imageTag
  have noted : g.buildRequests.toFinset.image some ⊆
      ((runCells plan).map Cell.environment).toFinset.image tagOf := by
    intro tag mem
    obtain ⟨tag, requested, rfl⟩ := Finset.mem_image.mp mem
    obtain ⟨cell, toRun, d, known, rfl⟩ := h tag (List.mem_toFinset.mp requested)
    refine Finset.mem_image.mpr ⟨cell.environment, ?_, congrArg (Option.map _) known⟩
    exact List.mem_toFinset.mpr (List.mem_map_of_mem toRun)
  -- Tags that were requested are tags of environments, so there are no more of them.
  calc g.buildRequests.toFinset.card
      = (g.buildRequests.toFinset.image some).card :=
        (Finset.card_image_of_injective _ (Option.some_injective _)).symm
    _ ≤ (((runCells plan).map Cell.environment).toFinset.image tagOf).card :=
        Finset.card_le_card noted
    _ ≤ _ := Finset.card_image_le

end Rehearsal

/-! ### What a configuration shows -/

section Configured

open PlannedCell

variable {c : Configuration} {catalog : Catalog} {f : CellFilter} {plan : List PlannedCell}

/-- What a run of the configuration goes by. The options of the command line are already part of
it. -/
def Configuration.context (c : Configuration) (catalog : Catalog) (artifacts : Directory)
    (o : RunOptions) : RunContext :=
  ⟨catalog, artifacts, Command.settingsOf c.run o⟩

/-- The catalog of a configuration was checked when it was read. -/
theorem Configuration.accepted (configured : c.catalog = .ok catalog) :
    Catalog.Accepted catalog := by
  unfold Configuration.catalog at configured
  cases made : Catalog.withExtra c.releases with
  | error e =>
    rw [made] at configured
    cases configured
  | ok known =>
    rw [made] at configured
    cases configured
    exact .withExtra made

/-- A cell that is to be run is one of a release that supports it. So the release can be found
again by what the cell is called. -/
theorem Catalog.exists_release_of_runCell (planned : catalog.plan f = .ok plan) {cell : Cell}
    (toRun : cell ∈ runCells plan) :
    ∃ r ∈ catalog.releases, cell.distribution = r.name ∧ cell.version = r.version ∧
      r.supports cell.architecture cell.libc = true := by
  obtain ⟨entry, mem, is⟩ := List.mem_filterMap.mp toRun
  cases entry with
  | skip _ reason => cases is
  | run _ =>
    cases is
    obtain ⟨r, isRelease, asked, eq⟩ := (mem_plan_iff planned).mp mem
    refine ⟨r, isRelease, asked.distribution, asked.version, ?_⟩
    -- Otherwise the entry would be a skipped one.
    by_contra unsupported
    dsimp only [entryFor, PlannedCell.cell] at eq
    rw [if_neg unsupported] at eq
    cases eq

/-- The definition of a cell that is to be run is the one shown for its release and
architecture, under whatever case of the letters. -/
theorem exists_definition (configured : c.catalog = .ok catalog)
    (planned : catalog.plan f = .ok plan) (artifacts : Directory) (o : RunOptions) {cell : Cell}
    (toRun : cell ∈ runCells plan) :
    ∃ d, (c.context catalog artifacts o).definition? cell.environment = some d ∧ d.Fits ∧
      ∀ shown : DefinitionOptions, Text.lower shown.distribution = Text.lower cell.distribution →
        shown.version = cell.version → shown.architecture = cell.architecture →
          Command.definitionFor c shown = .ok d := by
  obtain ⟨r, isRelease, name, version, supports⟩ :=
    Catalog.exists_release_of_runCell planned toRun
  -- The two searches differ in the letter case of the name at most.
  have found : ∀ {distribution : String}, Text.lower distribution = Text.lower cell.distribution →
      catalog.find? distribution cell.version = some r := by
    intro distribution letters
    refine (Configuration.accepted configured).valid.find?_eq_some isRelease ?_
    simp [Release.isCalled, Text.sameLetters, letters, name, version]
  refine ⟨_, Pipeline.definition?_of_found (found rfl), Definition.fits_recipe _ r _, ?_⟩
  rintro ⟨distribution, _, _, format⟩ letters rfl rfl
  have supported : cell.architecture ∈ r.architectures := (Catalog.supports_iff.mp supports).1
  dsimp only at letters
  simp only [Command.definitionFor, configured, bind, Except.bind, found letters, if_pos supported]
  rfl

/-- **One image for a release and an architecture, and the same one everywhere.** Whatever a
configuration says, whatever is planned from its catalog and whatever happens in a rehearsal of
the plan:

- each cell that is to be run has one definition, which depends on nothing but its release and
  its architecture, and which is what it asks to be built;
- whoever asks for the definition of that release and architecture, under any case of the
  letters, is given this definition, and what is printed shows it and its tag: as JSON it is
  read back, and as a page it is all there (`Definition.Shows`);
- the tasks ask for no others, so two tasks whose cells agree in release and architecture ask
  for the same definition, by the same tag;
- no more tags are asked for than there are such pairs among the cells to be run. -/
theorem one_image_each (configured : c.catalog = .ok catalog)
    (planned : catalog.plan f = .ok plan) (artifacts : Directory) (o : RunOptions) :
    (∀ cell ∈ runCells plan, ∃ d,
      (c.context catalog artifacts o).definition? cell.environment = some d ∧
      (∀ (p : Pipeline) (artifact : Artifact), p.cell = cell →
        p.build (c.context catalog artifacts o) artifact
          = do return p.afterBuild artifact (← call (.build d))) ∧
      ∀ shown : DefinitionOptions, Text.lower shown.distribution = Text.lower cell.distribution →
        shown.version = cell.version → shown.architecture = cell.architecture →
          Command.definitionFor c shown = .ok d ∧
          ∀ colour, ∃ printout, Command.definition colour c shown = .ok printout ∧
            printout = Command.definitionShown colour shown.format d ∧
            d.Shows colour shown.format (printout.on .results)) ∧
    ∀ {cancelled : Bool} {behaviour : MemoryBehaviour} {events : List RehearsalEvent}
      {r : Rehearsal}, Rehearsal.Reaches
          (.start (c.context catalog artifacts o) plan cancelled behaviour) events r →
        (∀ i d, r.run.Makes i (.build d) → ∃ cell ∈ runCells plan,
          (r.run.tasks.map Task.cell)[i]? = some cell ∧
            (c.context catalog artifacts o).definition? cell.environment = some d) ∧
        (∀ i j cell other d d', (r.run.tasks.map Task.cell)[i]? = some cell →
          (r.run.tasks.map Task.cell)[j]? = some other → cell.environment = other.environment →
            r.run.Makes i (.build d) → r.run.Makes j (.build d') →
              d = d' ∧ d.imageTag = d'.imageTag) ∧
        r.gateway.buildRequests.toFinset.card
          ≤ ((runCells plan).map Cell.environment).toFinset.card := by
  constructor
  · intro cell toRun
    obtain ⟨d, known, fits, asked⟩ := exists_definition configured planned artifacts o toRun
    refine ⟨d, known, ?_, fun shown letters version architecture => ?_⟩
    · rintro p artifact rfl
      exact Pipeline.build_of_definition? artifact known
    · have given := asked shown letters version architecture
      refine ⟨given, fun colour => ⟨_, ?_, rfl, Command.shows_definitionShown fits colour _⟩⟩
      unfold Command.definition
      rw [given]
      rfl
  · intro cancelled behaviour events r rehearsal
    obtain ⟨⟨earlier, run⟩, accounted⟩ := Rehearsal.accounted_of_reaches rehearsal
    -- What a task asks to be built comes from the catalog by the environment of its cell.
    have asks : ∀ i d, r.run.Makes i (.build d) → ∃ cell ∈ runCells plan,
        (r.run.tasks.map Task.cell)[i]? = some cell ∧
          (c.context catalog artifacts o).definition? cell.environment = some d := by
      intro i d makes
      obtain ⟨cell, status, found, known⟩ :=
        (RunState.faithful_of_reaches run).definition?_of_makes makes
      rw [run.context_eq] at known
      refine ⟨cell, RunState.cell_mem_runCells_of_reaches run found, ?_, known⟩
      rw [List.getElem?_map, found]
      rfl
    refine ⟨asks, ?_, accounted.card_le⟩
    intro i j cell other d d' foundI foundJ same makesI makesJ
    obtain ⟨cell', -, foundI', known⟩ := asks i d makesI
    obtain ⟨other', -, foundJ', known'⟩ := asks j d' makesJ
    rw [foundI] at foundI'
    rw [foundJ] at foundJ'
    cases foundI'
    cases foundJ'
    rw [← same, known, Option.some.injEq] at known'
    exact ⟨known', congrArg Definition.imageTag known'⟩

/-- The cells of Alpine on one architecture. -/
def Sample.alpine : CellFilter :=
  { CellFilter.everything with distributions := ["Alpine"], architectures := [.x86_64] }

/-- A run of these cells, with nothing else changed on the command line. -/
def Sample.runOptions : RunOptions :=
  ⟨Sample.alpine, none, false, none, .table, none⟩

/-- Root and user of one release are rehearsed with slow builds. Both ask for an image, and it
is the same one. Whoever asks for the definition of `ALPINE` is shown the one it is built
from. -/
theorem one_image_each_of_both_identities :
    ∃ catalog plan events r, Configuration.default.catalog = .ok catalog ∧
      catalog.plan Sample.alpine = .ok plan ∧
      Rehearsal.Reaches (.start (Configuration.default.context catalog Sample.context.artifacts
        Sample.runOptions) plan false ⟨[], none, none, true⟩) events r ∧
      r.gateway.buildRequests.length = 2 ∧ r.gateway.buildRequests.toFinset.card ≤ 1 ∧
      ∃ d printout, (Configuration.default.context catalog Sample.context.artifacts
          Sample.runOptions).definition? ("alpine", "3.19", .x86_64) = some d ∧
        Command.definition false Configuration.default ⟨"ALPINE", "3.19", .x86_64, .json⟩
          = .ok printout ∧ Definition.readShown (Printout.on .results printout)
            = some (d.imageTag, d.render, d) := by
  have made : Configuration.default.catalog = .ok Catalog.builtin := by
    have passed : Catalog.check [] (Catalog.builtinReleases ++ []) = .ok () := by decide +kernel
    rw [Configuration.catalog]
    show (Catalog.ofList (Catalog.builtinReleases ++ [])).mapError _ = _
    rw [Catalog.ofList, passed]
    rfl
  let cell (i : Identity) : Cell := ⟨"alpine", "3.19", .x86_64, .musl, i⟩
  let plan : List PlannedCell := [.run (cell .root), .run (cell .user)]
  have planned : Catalog.builtin.plan Sample.alpine = .ok plan := by decide +kernel
  obtain ⟨r, rehearsal, two⟩ : ∃ r, Rehearsal.Reaches (.start
        (Configuration.default.context Catalog.builtin Sample.context.artifacts Sample.runOptions)
        plan false ⟨[], none, none, true⟩)
      -- Both builds are begun before either is finished, so one image is asked for twice.
      [.inner (.take 0), .inner (.take 0), .inner (.grant 0), .inner (.grant 1),
        .inner (.proceed 0 1), .inner (.proceed 0 2), .inner (.proceed 0 3),
        .inner (.proceed 1 1), .inner (.proceed 1 2), .inner (.proceed 1 3), .begin 0, .begin 1] r
        ∧ (r.gateway.buildRequests.length == 2) = true :=
    Rehearsal.exists_reaches_of_foreseen (by decide +kernel)
  obtain ⟨shown, requested⟩ :=
    one_image_each made planned Sample.context.artifacts Sample.runOptions
  obtain ⟨-, -, atMost⟩ := requested rehearsal
  have one : ((runCells plan).map Cell.environment).toFinset.card = 1 := by decide +kernel
  obtain ⟨d, known, -, asked⟩ := shown (cell .root) List.mem_cons_self
  obtain ⟨-, prints⟩ :=
    asked ⟨"ALPINE", "3.19", .x86_64, .json⟩ (by decide +kernel) rfl rfl
  obtain ⟨printout, printed, -, reads⟩ := prints false
  exact ⟨_, plan, _, r, made, planned, rehearsal, beq_iff_eq.mp two, one ▸ atMost, d, printout,
    known, printed, reads⟩

end Configured

end InstallMatrix
