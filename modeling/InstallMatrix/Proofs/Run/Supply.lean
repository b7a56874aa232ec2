import InstallMatrix.Proofs.Run.Essence
import InstallMatrix.Proofs.Run.Stopping
import InstallMatrix.Run.Alone

/-!
# `InstallMatrix.Proofs.Run.Supply`: what a cell calls for is there

A memory gateway that has the image or the container a call needs gives the ideal reply.
A cell never calls for anything else: `grounded_of_path` says that it starts a container
only of an image it was built, and runs commands only in a container it was handed.

So a gateway that keeps what a cell was handed always gives that cell the ideal reply, and
the cell has the ideal result: `timeless_resultOf` says so of a cell that is driven alone, and
`timeless_of_given` of a task whose answers are known to be the ideal ones.
-/

set_option autoImplicit false

namespace InstallMatrix

open CellProgram

/-! ### The gateway -/

/-- No rule lets a command hang. A command that hangs has no reply, so a run with one may never
end. -/
def MemoryBehaviour.Prompt (b : MemoryBehaviour) : Prop := ∀ rule ∈ b.rules, rule.reply ≠ .hang

/-- Being prompt can be decided, as it is about the commands that are scripted. -/
instance (b : MemoryBehaviour) : Decidable b.Prompt :=
  inferInstanceAs (Decidable (∀ rule ∈ b.rules, rule.reply ≠ .hang))

namespace MemoryGateway

variable {g g' : MemoryGateway} {c : Call} {ds : List Deed}

/-- The gateway has the image or the container that the call needs. Other calls need nothing. -/
def Ready (g : MemoryGateway) : Call → Prop
  | .start image _ => image ∈ g.images
  | .exec container _ => container.id ∈ g.live
  | _ => True

/-- `Replies g c reply g'`: the gateway gives the ideal reply to the call, and keeps what it
has. -/
structure Replies (g : MemoryGateway) (c : Call) (reply : c.Reply) (g' : MemoryGateway) :
    Prop where
  ideal : c.essence reply = g.behaviour.ideal c
  behaviour : g'.behaviour = g.behaviour
  images : g.images ⊆ g'.images
  built : ∀ {d image}, Deed.called c reply = .called (.build d) (.ok image) → image ∈ g'.images
  /-- Only a call that gives a container up takes one from the live ones. -/
  live : c.isRelease = false → g.live ⊆ g'.live
  started : ∀ {image options container},
    Deed.called c reply = .called (.start image options) (.ok container) →
      container.id ∈ g'.live

/-- A prompt gateway lets no command hang. -/
theorem replyTo_ne_hang {b : MemoryBehaviour} (prompt : b.Prompt) (command : ShellCommand) :
    replyTo b command ≠ .hang := by
  unfold replyTo
  split
  · next rule found => exact prompt rule (List.mem_of_find?_eq_some found)
  · nofun

/-- An image that was built is there, and so are the others. -/
theorem mem_images_iff {images : List ImageTag} {tag image : ImageTag} :
    image ∈ (if tag ∈ images then images else images ++ [tag]) ↔ image ∈ images ∨ image = tag := by
  split
  · next there => exact ⟨.inl, fun h => h.elim id fun same => same ▸ there⟩
  · rw [List.mem_append, List.mem_singleton]

/-- A build that comes to its end has the ideal reply, and its image is there afterwards if it
succeeded. -/
theorem replies_finishBuild (g : MemoryGateway) (d : Definition) :
    Replies g (.build d) (g.finishBuild d).1 (g.finishBuild d).2 := by
  unfold finishBuild
  cases failure : g.behaviour.buildFailure with
  | some message =>
    refine ⟨?_, rfl, fun _ => id, nofun, fun _ _ => id, nofun⟩
    simp only [Call.essence, MemoryBehaviour.ideal, failure]
  | none =>
    refine ⟨?_, rfl, ?_, ?_, fun _ _ => id, nofun⟩
    · simp only [Call.essence, MemoryBehaviour.ideal, failure]
    · exact fun image mem => mem_images_iff.mpr (.inl mem)
    · rintro d' image same
      cases same
      exact mem_images_iff.mpr (.inr rfl)

/-- A start for which the image is there has the ideal reply, but for the id; the container lives
afterwards if it succeeded. -/
theorem replies_start {image : ImageTag} {options : StartOptions}
    (ready : g.Ready (.start image options)) :
    Replies g (.start image options) (g.start image options).1 (g.start image options).2 := by
  have there : image ∈ g.images := ready
  unfold start
  cases failure : g.behaviour.startFailure with
  | some message =>
    refine ⟨?_, rfl, fun _ => id, nofun, fun _ _ => id, nofun⟩
    simp only [Call.essence, MemoryBehaviour.ideal, failure]
    rfl
  | none =>
    simp only [there, if_true]
    refine ⟨?_, rfl, fun _ => id, nofun, fun _ _ => List.mem_append_left _, ?_⟩
    · simp only [Call.essence, MemoryBehaviour.ideal, failure]
      rfl
    · rintro image' options' container same
      cases same
      exact List.mem_append_right _ List.mem_cons_self

/-- A command in a container that lives is replied to at once, ideally but for the running time.
-/
theorem replies_exec {container : Container} {command : ShellCommand}
    (ready : g.Ready (.exec container command)) (prompt : g.behaviour.Prompt) :
    ∃ reply, (g.exec container command).1 = some reply ∧
      Replies g (.exec container command) reply (g.exec container command).2 := by
  have there : container.id ∈ g.live := ready
  unfold exec
  simp only [there, if_true]
  cases scripted : replyTo g.behaviour command with
  | hang => exact absurd scripted (replyTo_ne_hang prompt command)
  | ran exitCode stdout stderr =>
    refine ⟨_, rfl, ?_, rfl, fun _ => id, nofun, fun _ _ => id, nofun⟩
    simp only [Call.essence, MemoryBehaviour.ideal, scripted, commandReply]
  | notDispatched message =>
    refine ⟨_, rfl, ?_, rfl, fun _ => id, nofun, fun _ _ => id, nofun⟩
    simp only [Call.essence, MemoryBehaviour.ideal, scripted, commandReply]

/-- A gateway gives the ideal reply to a call for what it has. The cases are the kinds of calls,
and each has a lemma of its own above. -/
theorem serve_of_ready (ready : g.Ready c) (prompt : g.behaviour.Prompt) :
    ∃ reply g', g.serve false c = (.replied reply, g') ∧ Replies g c reply g' := by
  cases c with
  | build d =>
    -- A build that takes its time comes to its end all the same, unless the run is cancelled.
    refine ⟨_, _, by rw [serve, Bool.and_false, if_neg Bool.false_ne_true], ?_⟩
    have h := replies_finishBuild (g.requestBuild d) d
    exact ⟨h.ideal, h.behaviour, h.images, h.built, h.live, h.started⟩
  | start image options => exact ⟨_, _, rfl, replies_start ready⟩
  | exec container command =>
    obtain ⟨reply, served, replies⟩ := replies_exec ready prompt
    refine ⟨reply, _, ?_, replies⟩
    rw [serve]
    split
    · next reply' g' whole =>
      rw [whole] at served
      cases served
      rw [whole]
    · next g' whole =>
      rw [whole] at served
      cases served
  | logs container => exact ⟨_, _, rfl, rfl, rfl, fun _ => id, nofun, fun _ _ => id, nofun⟩
  | remove container => exact ⟨_, _, rfl, rfl, rfl, fun _ => id, nofun, nofun, nofun⟩
  | retain container => exact ⟨_, _, rfl, rfl, rfl, fun _ => id, nofun, nofun, nofun⟩

/-- The gateway has the images that were built for a cell, and its container is live. -/
structure Supplies (g : MemoryGateway) (ds : List Deed) : Prop where
  images : ∀ {d image}, .called (.build d) (.ok image) ∈ ds → image ∈ g.images
  live : ∀ {image options container},
    .called (.start image options) (.ok container) ∈ ds → container.id ∈ g.live

/-- Only the calls among the deeds count for what a gateway has to have. -/
theorem Supplies.of_calls {ds' : List Deed} (h : g.Supplies ds)
    (calls : ∀ {c reply}, .called c reply ∈ ds' → .called c reply ∈ ds) : g.Supplies ds' :=
  ⟨fun mem => h.images (calls mem), fun mem => h.live (calls mem)⟩

/-- As long as no container is given up, a gateway keeps what it has handed out. -/
theorem Replies.supplies {reply : c.Reply} (h : Replies g c reply g') (keeps : c.isRelease = false)
    (supplies : g.Supplies ds) : g'.Supplies (ds ++ [.called c reply]) where
  images mem := by
    rcases List.mem_append.mp mem with old | last
    · exact h.images (supplies.images old)
    · exact h.built (List.mem_singleton.mp last).symm
  live mem := by
    rcases List.mem_append.mp mem with old | last
    · exact h.live keeps (supplies.live old)
    · exact h.started (List.mem_singleton.mp last).symm

end MemoryGateway

/-! ### What a cell calls for -/

/-- What a call needs was handed to the cell: to a start the image, to a command the
container. -/
def Call.Grounded (ds : List Deed) : Call → Prop
  | .start image _ => ∃ d, .called (.build d) (.ok image) ∈ ds
  | .exec container _ => ∃ image options, .called (.start image options) (.ok container) ∈ ds
  | _ => True

/-- A gateway that has kept what it handed out is ready for every call that is grounded in it. -/
theorem MemoryGateway.Supplies.ready {g : MemoryGateway} {c : Call} {ds : List Deed}
    (h : g.Supplies ds) (grounded : c.Grounded ds) : g.Ready c := by
  cases c with
  | start image options =>
    obtain ⟨d, mem⟩ := grounded
    exact h.images mem
  | exec container command =>
    obtain ⟨image, options, mem⟩ := grounded
    exact h.live mem
  | _ => trivial

/-- What a call needs was handed over, and later deeds do not take it back. -/
theorem Call.Grounded.append {c : Call} {ds : List Deed} (h : c.Grounded ds) (more : List Deed) :
    c.Grounded (ds ++ more) := by
  cases c with
  | start image options =>
    obtain ⟨d, mem⟩ := h
    exact ⟨d, List.mem_append_left _ mem⟩
  | exec container command =>
    obtain ⟨image, options, mem⟩ := h
    exact ⟨image, options, List.mem_append_left _ mem⟩
  | _ => trivial

/-- Removing and retaining need nothing, so they are grounded in any case. -/
theorem Call.grounded_of_isRelease {c : Call} {ds : List Deed} (releases : c.isRelease = true) :
    c.Grounded ds := by
  cases c with
  | start | exec => cases releases
  | _ => trivial

namespace Pipeline

variable {ctx : RunContext} {cell : Cell} {p p' : Pipeline} {c : Call} {reply : c.Reply}
  {ds before : List Deed} {log : Program.Transcript CellAnswer}

/-- The calls of a step are for what the state holds, and that was handed to the cell. -/
theorem Advances.grounded (h : Advances ctx p ds p') (history : History ctx cell p.state before)
    (mem : .called c reply ∈ ds) : c.Grounded before := by
  -- A start needs the image, and the calls of a phase need the container.
  cases h with
  | aborted | resolved | uncatalogued | passedThrough | completed | stayed => cases mem
  | built =>
    cases List.mem_singleton.mp mem
    trivial
  | started stands =>
    cases List.mem_singleton.mp mem
    rw [stands] at history
    obtain ⟨-, release, -, rfl⟩ := history
    exact ⟨_, List.mem_singleton.mpr rfl⟩
  | @phase i artifact container _ records ending stands own run =>
    have holds : p.state.container? = some container := by
      rw [stands]
      cases i <;> rfl
    rcases run.call_of_mem mem with ⟨command, reply, same⟩ | ⟨reply, same⟩
    · cases same
      exact (history.equipped holds).start_mem
    · cases same
      trivial

/-- A call within a step is for what was handed to the cell before the step. A step makes one call
for a build or a start, or runs one phase in one container. -/
theorem grounded_of_inside {next : c.Reply → CellProgram Pipeline}
    (inside : Program.Path (p.advance ctx) log (.ask (.call c) next))
    (history : History ctx cell p.state before) : c.Grounded before := by
  -- The step is taken to its end, where the call is one of its deeds.
  obtain ⟨later, p', onward⟩ := Program.Path.complete (next (c.failed (.timeout "")))
  have step := advances_of_does ⟨_, (inside.answer _).trans onward, rfl⟩
  rw [deeds_append, deeds_append] at step
  exact step.grounded history
    (List.mem_append_left _ (List.mem_append_right _ List.mem_cons_self))

/-- Behind its result, a cell calls for nothing but the release. -/
theorem releases_of_closing {next : c.Reply → CellProgram Unit}
    (path : Program.Path (closing ctx p) log (.ask (.call c) next)) : c.isRelease = true := by
  have meets : (closing ctx p).Meets (fun _ _ => True)
      (fun q => ∀ c, q = .call c → c.isRelease = true) fun _ => True := by
    refine Program.meets_question_bind.mpr ⟨nofun, fun last _ => ?_⟩
    refine Program.meets_question_bind.mpr ⟨nofun, fun _ _ => ?_⟩
    unfold release
    split
    · trivial
    · split
      · exact ⟨fun c same => by cases same; rfl, fun _ _ => trivial⟩
      · exact ⟨fun c same => by cases same; rfl, fun _ _ => trivial⟩
  exact (meets.along path fun _ => trivial).1 c rfl

/-- A cell calls for nothing it was not handed, anywhere on its way. Where it stands is told by
`Standing`, and only in a step is there something to show. -/
theorem grounded_of_path {next : c.Reply → CellProgram Unit}
    (path : Program.Path (task ctx cell) log (.ask (.call c) next)) :
    c.Grounded (deeds log) := by
  have standing := standing_of_path path
  generalize deeds log = ds at standing
  generalize rest_eq : (Program.ask (.call c) next : CellProgram Unit) = rest at standing
  -- A program stands at a call in the middle of a step or in its closing.
  cases standing with
  | fresh => cases rest_eq
  | skipped clock => cases rest_eq
  | inStep inside =>
    cases inside with
    | intro came unfinished inside enough =>
      cases rest_eq
      exact (grounded_of_inside inside (history_of_advanceTimes came).2).append _
  | closing arrives last =>
    subst rest_eq
    exact Call.grounded_of_isRelease (releases_of_closing last)

/-- A cell on its way gives no container up. -/
theorem not_isRelease_of_drive {clock : Nat} {next : c.Reply → CellProgram Pipeline}
    (path : Program.Path ((create cell clock).drive ctx) log (.ask (.call c) next)) :
    c.isRelease = false := by
  obtain ⟨later, p, onward⟩ := Program.Path.complete (next (c.failed (.timeout "")))
  have arrives := arrives_of_drive ⟨_, (path.answer _).trans onward, rfl⟩
  rw [deeds_append, deeds_append] at arrives
  obtain ⟨c', reply, works, same⟩ := arrives.history.work (.called c (c.failed (.timeout "")))
    (List.mem_append_left _ (List.mem_append_right _ List.mem_cons_self))
  cases same
  exact works

/-- A cell on its way calls for nothing it was not handed. -/
theorem grounded_of_drive {clock : Nat} {next : c.Reply → CellProgram Pipeline}
    (path : Program.Path ((create cell clock).drive ctx) log (.ask (.call c) next)) :
    c.Grounded (deeds log) := by
  -- The way is a part of the life of a cell that begins at this clock reading.
  have begins : Program.Path (goAlong ctx cell clock) log
      (.ask (.call c) fun reply => next reply >>= closing ctx) := path.bind (closing ctx)
  have whole : Program.Path (task ctx cell) (⟨.observe, ⟨false, clock⟩⟩ :: log)
      (.ask (.call c) fun reply => next reply >>= closing ctx) := by
    apply Program.Path.step (q := CellQuestion.observe)
    exact begins
  have grounded := grounded_of_path whole
  rwa [deeds_observe] at grounded

/-! ### Ideal results -/

variable {b : MemoryBehaviour}

/-- Times apart, a cell that has lived its life on the ideal answers has handed in the ideal
result. -/
theorem timeless_of_given (path : Program.Path (task ctx cell) log (.pure ()))
    (given : Program.Allowed (Given b) log) :
    ∃ r, (deeds log).filterMap Deed.result? = [r] ∧ r.timeless = idealResult ctx b cell := by
  rw [task_eq] at path
  obtain ⟨moment, rest, rfl, onward⟩ := path.of_question_bind
  -- The run is not cancelled, so the cell begins.
  have begins : moment.cancelled = false := given List.mem_cons_self
  rw [begins, if_neg Bool.false_ne_true, goAlong_eq] at onward
  obtain ⟨p, first, second, rfl, drove, closes⟩ := onward.split_pure
  have givenFirst : Program.Allowed (Given b) first :=
    (Program.allowed_append.mp fun mem => given (List.mem_cons_of_mem _ mem)).1
  obtain ⟨last, released, deeds_eq, release⟩ := does_closing ⟨second, closes, rfl⟩
  refine ⟨p.result last, ?_, timeless_result_of_drive drove givenFirst⟩
  rw [deeds_observe, deeds_append, deeds_eq]
  exact (arrives_of_drive ⟨_, drove, rfl⟩).results (filterMap_result?_of_release release)

end Pipeline

/-! ### A cell driven alone -/

namespace Alone

open Pipeline

variable {ctx : RunContext} {b : MemoryBehaviour} {cell : Cell} {clock : Nat}

/-- The surroundings of a cell before it is driven: a fresh gateway of its own, without
faults in front of it. -/
def fresh (b : MemoryBehaviour) (clock : Nat) : Alone := ⟨false, clock, [], ⟨[], [], .fresh b⟩⟩

/-- The result of a cell that is driven alone, by a gateway of its own and without anybody who
could disturb it. -/
def resultOf (ctx : RunContext) (b : MemoryBehaviour) (cell : Cell) (clock : Nat) : CellResult :=
  let (p, s) := run ((create cell clock).drive ctx) (fresh b clock)
  p.result s.clock

/-- The result of a cell that is driven alone is that of the cell. -/
theorem cell_resultOf (ctx : RunContext) (b : MemoryBehaviour) (cell : Cell) (clock : Nat) :
    (resultOf ctx b cell clock).cell = cell := by
  obtain ⟨log, path⟩ := Program.path_of_run answer ((create cell clock).drive ctx) (fresh b clock)
  exact (arrives_of_drive ⟨_, path, rfl⟩).own

/-- What holds of the surroundings all along: the cell was given its answers so far, and its
gateway still has what it was handed. The second part is what makes the next answer the ideal one.
-/
structure Kind (b : MemoryBehaviour) (log : Program.Transcript CellAnswer) (s : Alone) : Prop where
  uncancelled : s.cancelled = false
  faultless : s.gateway.faults = []
  behaviour : s.gateway.gateway.behaviour = b
  supplies : s.gateway.gateway.Supplies (deeds log)
  given : Program.Allowed (Given b) log

/-- The surroundings are kind before the first question. -/
theorem kind_fresh (b : MemoryBehaviour) (clock : Nat) : Kind b [] (fresh b clock) :=
  ⟨rfl, rfl, rfl, ⟨nofun, nofun⟩, nofun⟩

/-- Without faults in front of it, the gateway serves the call. -/
theorem answer_call {s : Alone} {c : Call} {reply : c.Reply} {g : MemoryGateway}
    (faultless : s.gateway.faults = []) (uncancelled : s.cancelled = false)
    (served : s.gateway.gateway.serve false c = (.replied reply, g)) :
    answer (.call c) s = (reply, { s with
      gateway := { s.gateway.counted c.kind with gateway := g } }) := by
  have striking : s.gateway.striking c.kind = [] := by
    unfold FaultyGateway.striking
    rw [faultless]
    rfl
  unfold answer FaultyGateway.serve
  have reached : (s.gateway.counted c.kind).gateway = s.gateway.gateway := rfl
  simp only [striking, interfere, uncancelled, Bool.or_self, reached, served, settle]

/-- Every answer on its way leaves the cell in kind surroundings. It is here that a call is
grounded, so that the gateway is ready for it and replies ideally. -/
theorem Kind.answer (prompt : b.Prompt) {log : Program.Transcript CellAnswer} {s : Alone}
    {q : CellQuestion} {next : CellAnswer q → CellProgram Pipeline}
    (path : Program.Path ((create cell clock).drive ctx) log (.ask q next)) (h : Kind b log s) :
    Kind b (log ++ [⟨q, (Alone.answer q s).1⟩]) (Alone.answer q s).2 := by
  -- Neither a look nor a result changes the gateway.
  cases q with
  | observe =>
    refine ⟨h.uncancelled, h.faultless, h.behaviour, h.supplies.of_calls fun mem => ?_, ?_⟩
    · rw [deeds_append] at mem
      exact (List.mem_append.mp mem).resolve_right nofun
    · apply Program.Allowed.answer h.given
      exact h.uncancelled
  | record r =>
    refine ⟨h.uncancelled, h.faultless, h.behaviour, h.supplies.of_calls fun mem => ?_, ?_⟩
    · rw [deeds_append] at mem
      exact (List.mem_append.mp mem).resolve_right nofun
    · apply Program.Allowed.answer h.given
      exact trivial
  | call c =>
    have ready := h.supplies.ready (grounded_of_drive path)
    obtain ⟨reply, g, served, replies⟩ :=
      MemoryGateway.serve_of_ready ready (h.behaviour.symm ▸ prompt)
    rw [answer_call h.faultless h.uncancelled served]
    refine ⟨h.uncancelled, h.faultless, replies.behaviour.trans h.behaviour, ?_, ?_⟩
    · rw [deeds_append]
      exact replies.supplies (not_isRelease_of_drive path) h.supplies
    · apply Program.Allowed.answer h.given
      exact h.behaviour ▸ replies.ideal

/-- Times apart, a cell that is driven alone has the ideal result. The run goes along a path whose
answers are given, and such a path leads to the essence of the ideal one. -/
theorem timeless_resultOf (ctx : RunContext) (prompt : b.Prompt) (cell : Cell) (clock : Nat) :
    (resultOf ctx b cell clock).timeless = idealResult ctx b cell := by
  obtain ⟨log, path, kind⟩ := Program.path_of_run_invariant Alone.answer
    (p := (create cell clock).drive ctx) (Kind b) (Kind.answer prompt) (kind_fresh b clock)
  exact timeless_result_of_drive path kind.given

end Alone

end InstallMatrix
