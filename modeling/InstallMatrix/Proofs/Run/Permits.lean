import InstallMatrix.Proofs.Run.Ending

/-!
# `InstallMatrix.Proofs.Run.Permits`: how much a run does at once

A run lets at most as many tasks go as it has permits. `bounded_of_reaches` says what this
bounds, in every state of every run, however the tasks interleave, break off or are cancelled:

* no more tasks run than there are permits, and there is at least one permit;
* every call is made by a task that holds a permit, until it is answered or broken off;
* as long as no task broke off and no removal failed, there are at most as many containers as
  permits that were started, or are being started, and are neither removed nor retained;
* the containers left behind are swept only when every entry of the plan was taken up and every
  task has ended.

A permit is held from the start of a cell to the release of its container. So the containers are
counted task by task: `Faithful.held_le` says that a running task has one at most, that it has
none when it asks for one, and that a task without a permit has none at all.
-/

set_option autoImplicit false

namespace InstallMatrix

open CellProgram

/-! ### The starts of one cell -/

namespace Deed

/-- Asking for a container, with or without success. A start that failed counts, since it may have
left a container behind. -/
def isStart : Deed → Bool
  | .called (.start _ _) _ => true
  | _ => false

/-- The container that was handed over. -/
def handed? : Deed → Option Container
  | .called (.start _ _) (.ok c) => some c
  | _ => none

/-- The container was removed, or it was left running on purpose. A removal that failed frees
nothing. -/
def frees (c : Container) : Deed → Bool
  | .called (.remove d) (.ok _) => d == c
  | .called (.retain d) _ => d == c
  | _ => false

/-- A deed hands a container over just when it is a start that succeeded with it. -/
theorem handed?_eq_some_iff {d : Deed} {c : Container} :
    d.handed? = some c ↔ ∃ image options, d = .called (.start image options) (.ok c) := by
  refine ⟨fun h => ?_, ?_⟩
  · cases d with
    | recorded r => cases h
    | called call reply =>
      cases call with
      | build | exec | logs | remove | retain => cases h
      | start image options =>
        cases reply with
        | error e => cases h
        | ok c' =>
          cases h
          exact ⟨image, options, rfl⟩
  · rintro ⟨image, options, rfl⟩
    rfl

/-- Only a start hands a container over. -/
theorem isStart_of_handed? {d : Deed} (h : d.handed?.isSome = true) : d.isStart = true := by
  obtain ⟨c, handed⟩ := Option.isSome_iff_exists.mp h
  obtain ⟨image, options, rfl⟩ := handed?_eq_some_iff.mp handed
  rfl

end Deed

/-- A task broke off, or it could not remove its container. These are the entries after which a
container may be left without a task that holds a permit. -/
def RunEntry.isFailure : RunEntry → Bool
  | .panicked _ _ => true
  | .answered _ (.remove _) (.error _) => true
  | _ => false

namespace Pipeline

variable {ctx : RunContext} {cell : Cell} {ds : List Deed} {container : Container}

/-- The run of a phase starts no container. -/
theorem PhaseRun.countP_isStart {steps : List PhaseStep} {records : List StepRecord}
    {ending : PhaseEnd} (run : PhaseRun container steps ds records ending) :
    ds.countP Deed.isStart = 0 := by
  refine List.countP_eq_zero.mpr fun d mem => ?_
  rcases run.call_of_mem mem with ⟨command, reply, rfl⟩ | ⟨reply, rfl⟩ <;> exact Bool.false_ne_true

/-- A cell without a container has tried to start one at most once. -/
theorem Unstarted.countP_isStart_le (h : Unstarted ctx cell ds) : ds.countP Deed.isStart ≤ 1 := by
  rcases h with rfl | ⟨artifact, -, ⟨release, reply, -, rfl⟩ |
    ⟨image, -, error, ⟨release, -, rfl⟩, rfl⟩⟩ <;> simp [Deed.isStart]

/-- A cell with a container has started just that one, so the bound is the same. -/
theorem Equipped.countP_isStart_le (h : Equipped ctx cell container ds) :
    ds.countP Deed.isStart ≤ 1 := by
  obtain ⟨artifact, -, phase, -, ⟨image, -, ⟨release, -, rfl⟩, rfl⟩, rfl, ran⟩ := h
  have none : phase.countP Deed.isStart = 0 := by
    rcases ran with rfl | ⟨records, ending, run⟩
    · rfl
    · exact run.countP_isStart
  rw [List.countP_append, none]
  simp [Deed.isStart]

/-- In its life a cell starts one container at most. It tries once, and a failed start ends its
way. -/
theorem Lives.countP_isStart_le (life : Lives ctx cell ds) : ds.countP Deed.isStart ≤ 1 := by
  cases life with
  | skipped clock => exact Nat.zero_le 1
  | @went p calls released clock arrives release =>
    -- Giving a container up starts none.
    have none : released.countP Deed.isStart = 0 := by
      refine List.countP_eq_zero.mpr fun d mem => ?_
      obtain ⟨c, reply, releases, rfl⟩ := isRelease_of_mem_release release mem
      cases c with
      | build | start | exec | logs => cases releases
      | remove | retain => exact Bool.false_ne_true
    have calls_le : calls.countP Deed.isStart ≤ 1 := by
      cases holds : p.state.container? with
      | none => exact (arrives.history.unstarted holds).countP_isStart_le
      | some container => exact (arrives.history.equipped holds).countP_isStart_le
    rw [List.countP_append, List.countP_cons_of_neg Bool.false_ne_true, none]
    exact calls_le

/-- On its way a cell has started one container at most. Every path is the beginning of a life, so
this follows from the bound on lives. -/
theorem countP_isStart_le_of_path {log : Program.Transcript CellAnswer} {rest : CellProgram Unit}
    (path : Program.Path (task ctx cell) log rest) :
    (deeds log).countP Deed.isStart ≤ 1 := by
  obtain ⟨more, -, life⟩ := lives_of_path path
  have whole := life.countP_isStart_le
  rw [List.countP_append] at whole
  omega

/-- A cell that asks for a container has not asked before. Otherwise it would ask twice in the
life that begins so. -/
theorem countP_isStart_of_starting {log : Program.Transcript CellAnswer} {image : ImageTag}
    {options : StartOptions} {next : Except GatewayError Container → CellProgram Unit}
    (path : Program.Path (task ctx cell) log (.ask (.call (.start image options)) next)) :
    (deeds log).countP Deed.isStart = 0 := by
  have whole := countP_isStart_le_of_path (path.answer (.error (.timeout "")))
  rw [deeds_append, List.countP_append] at whole
  have one : (deeds [⟨.call (.start image options), (.error (.timeout "") : Except _ _)⟩]).countP
      Deed.isStart = 1 := rfl
  omega

end Pipeline

/-! ### Permits -/

namespace Task

/-- Does the task ask for a container. -/
def isStarting (t : Task) : Bool :=
  match t.status with
  | .running (.ask (.call (.start _ _)) _) => true
  | _ => false

end Task

/-- One element is replaced by another one. The sums stand on both sides, since one element may
count where the other does not. -/
theorem countP_modify {α : Type} {p : α → Bool} {l : List α} {i : Nat} {a : α} {f : α → α}
    (found : l[i]? = some a) :
    (l.modify i f).countP p + (p a).toNat = l.countP p + (p (f a)).toNat := by
  induction l generalizing i with
  | nil => cases found
  | cons b l ih =>
    cases i with
    | zero =>
      cases found
      rw [List.modify_zero_cons]
      cases before : p a <;> cases after : p (f a) <;> simp [before, after]
    | succ i =>
      have tail := ih found
      rw [List.modify_succ_cons, List.countP_cons, List.countP_cons]
      omega

namespace RunState

variable {s t : RunState} {e : RunEvent} {i : Nat}

section Status
variable {cell : Cell} {before : TaskStatus}

/-- The permits in use change by those of the one task whose status is set. The equation is
written with sums on both sides, since subtraction of natural numbers would cut off. -/
theorem inUse_setStatus (found : s.tasks[i]? = some ⟨cell, before⟩) (status : TaskStatus) :
    (s.setStatus i status).inUse + (Task.isRunning ⟨cell, before⟩).toNat =
      s.inUse + (Task.isRunning ⟨cell, status⟩).toNat :=
  countP_modify found

/-- A task that holds a permit or takes none needs no further one. So only `grant` has to be
looked at when permits are counted. -/
theorem inUse_setStatus_le (found : s.tasks[i]? = some ⟨cell, before⟩) {status : TaskStatus}
    (needless : Task.isRunning ⟨cell, status⟩ = true → Task.isRunning ⟨cell, before⟩ = true) :
    (s.setStatus i status).inUse ≤ s.inUse := by
  have count := inUse_setStatus found status
  have le : (Task.isRunning ⟨cell, status⟩).toNat ≤ (Task.isRunning ⟨cell, before⟩).toNat :=
    Bool.toNat_le_toNat needless
  omega

end Status

/-- Only a free permit is granted. All other events give permits back or leave them where they
are. -/
theorem inUse_le_step (h : s.inUse ≤ s.context.settings.permits) (happens : Happens s e t) :
    t.inUse ≤ t.context.settings.permits := by
  rw [happens.context_eq]
  cases happens with
  | @take entry planned clock next =>
    cases entry with
    | skip cell reason => exact h
    | run cell =>
      have waits : inUse ({ s with planned }.takeUp clock (.run cell)) = s.inUse := by
        simp [inUse, takeUp, Task.isRunning]
      rw [waits]
      exact h
  | @grant i cell waits free =>
    -- The task did not count before, and now it counts for one, for which there was room.
    have count := inUse_setStatus waits (statusOf (Pipeline.task s.context cell))
    have one := Bool.toNat_le (Task.isRunning ⟨cell, statusOf (Pipeline.task s.context cell)⟩)
    have none : (Task.isRunning ⟨cell, .waiting⟩).toNat = 0 := rfl
    omega
  | abort clock waits cancelled =>
    exact Nat.le_trans (inUse_setStatus_le waits fun runs => absurd runs Bool.false_ne_true) h
  | look clock stands => exact Nat.le_trans (inUse_setStatus_le stands fun _ => rfl) h
  | handIn clock stands => exact Nat.le_trans (inUse_setStatus_le stands fun _ => rfl) h
  | reply answer stands => exact Nat.le_trans (inUse_setStatus_le stands fun _ => rfl) h
  | abandon stands cancelled => exact Nat.le_trans (inUse_setStatus_le stands fun _ => rfl) h
  | panic stands => exact Nat.le_trans (inUse_setStatus_le stands fun _ => rfl) h
  | cancel => exact h
  | finish removed clock taken ended unfinished => exact h

/-- No more tasks hold a permit than there are. In the beginning there is no task, and each event
keeps the bound. -/
theorem inUse_le_of_reaches {events : List RunEvent} {context : RunContext}
    {plan : List PlannedCell} {cancelled : Bool}
    (run : Reaches (start context plan cancelled) events s) :
    s.inUse ≤ s.context.settings.permits :=
  run.invariant (fun s => s.inUse ≤ s.context.settings.permits) inUse_le_step (Nat.zero_le _)

/-! ### What is noted -/

/-- The task holds a permit and stands at this call. -/
def StandsAt (s : RunState) (i : Nat) (c : Call) : Prop :=
  ∃ cell next, s.tasks[i]? = some ⟨cell, .running (.ask (.call c) next)⟩

/-- `Warrants s entry`: as the state is, the entry may be noted. A call is answered only to a task
that holds a permit, and the sweep comes when all tasks have ended. -/
def Warrants (s : RunState) : RunEntry → Prop
  | .answered i c _ => s.StandsAt i c
  | .panicked i c => s.StandsAt i c
  | .swept _ => s.planned = [] ∧ ∀ task ∈ s.tasks, task.isEnded = true
  | .recorded _ _ => True
  | .cancelled => True

/-- Whatever is noted is warranted by the state the event happens in. The cases are the events. -/
theorem warrants_of_happens (happens : Happens s e t) :
    ∃ entries, t.journal = s.journal ++ entries ∧ ∀ entry ∈ entries, s.Warrants entry := by
  have nothing : ∀ entry ∈ [], s.Warrants entry := List.forall_mem_nil _
  have single : ∀ {entry}, s.Warrants entry → ∀ entry' ∈ [entry], s.Warrants entry' :=
    List.forall_mem_singleton.mpr
  -- An event adds at most one entry. Only the end of the run adds more.
  cases happens with
  | @take entry planned clock next =>
    cases entry with
    | run cell => exact ⟨[], (List.append_nil _).symm, nothing⟩
    | skip cell reason => exact ⟨[.recorded none _], rfl, single trivial⟩
  | grant | look => exact ⟨[], (List.append_nil _).symm, nothing⟩
  | abort | handIn => exact ⟨[.recorded (some _) _], rfl, single trivial⟩
  | cancel => exact ⟨[.cancelled], rfl, single trivial⟩
  | reply answer stands => exact ⟨[.answered _ _ _], rfl, single ⟨_, _, stands⟩⟩
  | abandon stands => exact ⟨[.answered _ _ _], rfl, single ⟨_, _, stands⟩⟩
  | panic stands => exact ⟨[.panicked _ _], rfl, single ⟨_, _, stands⟩⟩
  | finish removed clock taken ended unfinished =>
    refine ⟨_, (grows_complete s removed clock).journal, List.forall_mem_cons.mpr ⟨?_, ?_⟩⟩
    · exact ⟨taken, ended⟩
    · -- The results that were left out are recorded by the run itself.
      intro entry own
      obtain ⟨cell, -, rfl⟩ := List.mem_map.mp own
      trivial

/-! ### Containers -/

/-- No task has broken off, and no removal has failed. -/
def Unfailed (s : RunState) : Prop := ∀ entry ∈ s.journal, entry.isFailure = false

/-- The containers that a task was handed and that it has neither removed nor retained. -/
def heldBy (s : RunState) (i : Nat) : List Container :=
  ((s.deeds i).filterMap Deed.handed?).filter fun c => !(s.deeds i).any (Deed.frees c)

/-- The containers of all tasks that were handed over and not freed. Their number is what the
permits bound. -/
def unreleased (s : RunState) : List Container := s.tasks.zipIdx.flatMap fun x => s.heldBy x.2

/-- A task holds no more containers than it has tried to start. -/
theorem length_heldBy_le (s : RunState) (i : Nat) :
    (s.heldBy i).length ≤ (s.deeds i).countP Deed.isStart := by
  refine Nat.le_trans (List.length_filter_le _ _) ?_
  rw [List.length_filterMap_eq_countP]
  exact List.countP_mono_left fun d _ => Deed.isStart_of_handed?

/-- A task that has lived its life holds no container, unless a removal failed. -/
theorem heldBy_eq_nil_of_lives {cell : Cell} (unfailed : Unfailed s)
    (life : Pipeline.Lives s.context cell (s.deeds i)) : s.heldBy i = [] := by
  refine List.filter_eq_nil_iff.mpr fun c mem => ?_
  obtain ⟨d, done, handed⟩ := List.mem_filterMap.mp mem
  obtain ⟨image, options, rfl⟩ := Deed.handed?_eq_some_iff.mp handed
  obtain ⟨released, gives, within⟩ := life.released done
  have freed : ∃ d ∈ s.deeds i, Deed.frees c d = true := by
    -- A container is retained or removed, and no removal has failed so far.
    unfold Pipeline.Releases at gives
    split at gives
    · subst gives
      exact ⟨_, within _ List.mem_cons_self, beq_self_eq_true c⟩
    · obtain ⟨reply, rfl⟩ := gives
      have gaveUp := within _ List.mem_cons_self
      cases reply with
      | ok u => exact ⟨_, gaveUp, beq_self_eq_true c⟩
      | error e => cases unfailed _ (mem_deeds_iff.mp gaveUp)
  simpa using freed

/-- A running task has one container at most, and none yet if it asks for one. A task that does
not run has none, unless it broke off or a removal failed. -/
theorem Faithful.held_le (h : Faithful s) (unfailed : Unfailed s) {task : Task}
    (found : s.tasks[i]? = some task) :
    (s.heldBy i).length + task.isStarting.toNat ≤ task.isRunning.toNat := by
  have bound := s.length_heldBy_le i
  obtain ⟨cell, status⟩ := task
  have follows := h.follows found
  cases status with
  | waiting =>
    rw [follows.1] at bound
    exact bound
  | running rest =>
    obtain ⟨⟨log, path, deeds_eq, -⟩, -, q, next, rfl⟩ := follows
    rw [deeds_eq] at bound
    have running : (Task.isRunning ⟨cell, .running (.ask q next)⟩).toNat = 1 := rfl
    rw [running]
    -- A task that asks for a container counts for the one it may get, and it has no other.
    cases starts : Task.isStarting ⟨cell, .running (.ask q next)⟩ with
    | false => exact Nat.le_trans bound (Pipeline.countP_isStart_le_of_path path)
    | true =>
      have none : (CellProgram.deeds log).countP Deed.isStart = 0 := by
        simp only [Task.isStarting] at starts
        split at starts
        · next same =>
          cases same
          exact Pipeline.countP_isStart_of_starting path
        · cases starts
      rw [none] at bound
      exact Nat.add_le_add_right bound 1
  | done =>
    -- Its life is over, so it gave up what it was handed.
    rw [heldBy_eq_nil_of_lives unfailed (h.lives_of_done found).1]
    exact Nat.le_refl 0
  | panicked =>
    obtain ⟨c, next, -, broke⟩ := follows
    cases unfailed _ (mem_breaks_iff.mp (broke ▸ List.mem_cons_self))

/-- What every element has at most, all have at most. -/
theorem length_flatMap_add_countP_le {α β : Type} {l : List α} {f : α → List β} {p q : α → Bool}
    (le : ∀ a ∈ l, (f a).length + (q a).toNat ≤ (p a).toNat) :
    (l.flatMap f).length + l.countP q ≤ l.countP p := by
  induction l with
  | nil => exact Nat.le_refl 0
  | cons a l ih =>
    have head := le a List.mem_cons_self
    have tail := ih fun b mem => le b (List.mem_cons_of_mem _ mem)
    have counts (b : Bool) : (if b = true then 1 else 0) = b.toNat := by cases b <;> rfl
    rw [List.flatMap_cons, List.length_append, List.countP_cons, List.countP_cons, counts, counts]
    omega

/-- The containers that were started and not released, and those that are being started, are no
more than the tasks that run. -/
theorem Faithful.unreleased_le (h : Faithful s) (unfailed : Unfailed s) :
    s.unreleased.length + s.tasks.countP Task.isStarting ≤ s.inUse := by
  -- Tasks are counted together with their places, by which their containers are known.
  have tasks_eq : s.tasks.zipIdx.map Prod.fst = s.tasks := List.zipIdx_map_fst 0 s.tasks
  have count (p : Task → Bool) : s.tasks.countP p = s.tasks.zipIdx.countP fun x => p x.1 := by
    conv_lhs => rw [← tasks_eq, List.countP_map]
    rfl
  rw [inUse, count, count]
  refine length_flatMap_add_countP_le fun x mem => ?_
  exact h.held_le unfailed (List.mem_zipIdx_iff_getElem?.mp mem)

/-! ### Runs -/

/-- However the tasks of a run interleave, break off or are cancelled: no more of them hold a
permit than `maxParallel` says, or one if it says zero; every call is made by a task that holds
one, and the sweep comes when all tasks have ended; and as long as no task broke off and no
removal failed, no more containers than that are being started or were started and not
released. -/
theorem bounded_of_reaches {context : RunContext} {plan : List PlannedCell} {cancelled : Bool}
    {events : List RunEvent} (run : Reaches (start context plan cancelled) events s) :
    s.inUse ≤ max 1 context.settings.maxParallel ∧
      (∀ e t, s.step e = some t →
        ∃ entries, t.journal = s.journal ++ entries ∧ ∀ entry ∈ entries, s.Warrants entry) ∧
      (s.Unfailed → s.unreleased.length + s.tasks.countP Task.isStarting ≤
        max 1 context.settings.maxParallel) := by
  have inUse_le : s.inUse ≤ max 1 context.settings.maxParallel := by
    have permits := inUse_le_of_reaches run
    rw [run.context_eq] at permits
    exact permits
  refine ⟨inUse_le, fun e t step => warrants_of_happens (happens_of_step step), fun unfailed => ?_⟩
  exact Nat.le_trans ((faithful_of_reaches run).unreleased_le unfailed) inUse_le

/-- No parallelism at all: one permit, so that cells wait for each other. -/
def Sample.serial : RunContext :=
  { InstallMatrix.Sample.context with
    settings := { InstallMatrix.Sample.context.settings with maxParallel := 0 } }

/-- Two cells, of which one has a container. The other one has to wait. -/
theorem bounded_of_waiting_cell :
    ∃ events s, Reaches
        (start Sample.serial [.run Sample.cell, .run Sample.cell] false) events s ∧
      s.unreleased = [Sample.container] ∧ (s.step (.grant 1)).isNone = true ∧ s.inUse ≤ 1 ∧
        s.unreleased.length + s.tasks.countP Task.isStarting ≤ 1 := by
  let plan : List PlannedCell := [.run Sample.cell, .run Sample.cell]
  obtain ⟨s, run, test⟩ : ∃ s, Reaches (start Sample.serial plan false)
      [.take 0, .take 0, .grant 0, .proceed 0 1, .proceed 0 2, .proceed 0 3,
        .reply 0 Sample.hopeful, .proceed 0 4, .reply 0 Sample.hopeful] s ∧
      (s.unreleased == [Sample.container] && (s.step (.grant 1)).isNone &&
        s.journal.all fun entry => !entry.isFailure) = true :=
    exists_reaches_of_after (by decide +kernel)
  -- The one permit is taken by a cell with its container up, so the second cell cannot start.
  simp only [Bool.and_eq_true, beq_iff_eq, List.all_eq_true, Bool.not_eq_true'] at test
  obtain ⟨⟨held, waits⟩, unfailed⟩ := test
  obtain ⟨permits, -, containers⟩ := bounded_of_reaches run
  exact ⟨_, s, run, held, waits, permits, containers unfailed⟩

end RunState

end InstallMatrix
