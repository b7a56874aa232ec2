import InstallMatrix.Proofs.Run.Protocol

/-!
# `InstallMatrix.Proofs.Run.Stages`: the order of the stages

A cell goes through the stages of `Stage.way` one by one. It may fail in the attempt to
reach the next one, and once it has failed or completed it stays as it is. The theorems:

* `Advances.onward`: a step out of a state that is not terminal reaches the next stage, or
  fails and names that stage.
* `Traced` is the invariant, `traced_step` carries it over one step: the trace is the way
  up to the stage of the state or, after a failure, up to the stage before it.
* `run_driveFor`: driving takes steps as long as the state is not terminal, and then stops.
* `orderly_of_advanceTimes` puts these together, for any number of steps, all answers and
  every moment of cancellation.
-/

set_option autoImplicit false

namespace InstallMatrix

open CellProgram

namespace Stage

/-- The stages of a cell that nothing stops, in order. The two phases are both on the way, and a
cell passes through the one that is not its own. -/
def way : List Stage :=
  [.pending, .artifactResolved, .imageBuilt, .containerRunning, .rootPhase, .userPhase,
    .completed]

/-- The way up to a stage, and with it. For the trace of a cell that has not failed this is the
whole trace. -/
def upTo (s : Stage) : List Stage := way.take (way.idxOf s + 1)

/-- What has been gone through is always a beginning of the whole way. -/
theorem upTo_isPrefix (s : Stage) : upTo s <+: way := List.take_prefix _ _

/-- The way up to a stage ends in that stage. A failure is left out, because it does not lie on
the way: a cell may turn to it from anywhere. -/
theorem getLast?_upTo {s : Stage} (h : s ≠ .failed) : (upTo s).getLast? = some s := by
  cases s with
  | failed => exact absurd rfl h
  | _ => rfl

/-- There is always something behind a cell, if only its first stage. -/
theorem upTo_ne_nil (s : Stage) : upTo s ≠ [] := by
  cases s <;> decide

/-- The way to the next stage is one stage longer. -/
theorem upTo_next {s : Stage} (unfinished : s ≠ .completed) (sound : s ≠ .failed) :
    upTo s.next = upTo s ++ [s.next] := by
  cases s with
  | completed => exact absurd rfl unfinished
  | failed => exact absurd rfl sound
  | _ => rfl

/-- The next stage is another one, unless there is none. -/
theorem next_ne {s : Stage} (unfinished : s ≠ .completed) (sound : s ≠ .failed) :
    s.next ≠ s := by
  cases s with
  | completed => exact absurd rfl unfinished
  | failed => exact absurd rfl sound
  | _ => nofun

/-- Going on from a sound stage leads to a sound one, so that a failure is always a turn off the
way. -/
theorem next_ne_failed {s : Stage} (sound : s ≠ .failed) : s.next ≠ .failed := by
  cases s with
  | failed => exact absurd rfl sound
  | _ => nofun

end Stage

/-- The two terminal states are those of the last stage and of a failure. -/
theorem CellState.stage_ne_of_unfinished {s : CellState} (unfinished : s.isTerminal = false) :
    s.stage ≠ .completed ∧ s.stage ≠ .failed := by
  cases s with
  | completed | failed => cases unfinished
  | _ => exact ⟨nofun, nofun⟩

namespace Pipeline

variable {ctx : RunContext} {p p' q : Pipeline} {ds : List Deed}

/-! ### One step -/

/-- `Onward p p'`: the cell went on to the next stage, or failed in the attempt. -/
inductive Onward (p p' : Pipeline) : Prop
  | reached (stage : p'.state.stage = p.state.stage.next)
      (trace : p'.trace = p.trace ++ [p.state.stage.next])
  | failed {failure : Failure} {container : Option Container}
      (state : p'.state = .failed failure container)
      (attempted : failure.stage = p.state.stage.next) (trace : p'.trace = p.trace ++ [.failed])

section Enter
variable (unfinished : p.state.isTerminal = false) (state : q.state = p.state)
  (trace : q.trace = p.trace)
include unfinished state trace

/-- Entering a state of the next stage. What else is noted of the cell does not matter. -/
theorem onward_enter {s : CellState} (next : s.stage = p.state.stage.next) :
    Onward p (q.enter s) := by
  obtain ⟨completed, failed⟩ := CellState.stage_ne_of_unfinished unfinished
  have other : s.stage ≠ q.state.stage := by
    rw [next, state]
    exact Stage.next_ne completed failed
  refine .reached next ?_
  unfold enter
  rw [if_neg other, trace, next]

/-- Failing with the next stage named. -/
theorem onward_failWith {kind : FailureKind} {stage : Stage} {message : String}
    {diagnostics : Option String} {container : Option Container}
    (next : stage = p.state.stage.next) :
    Onward p (q.failWith kind stage message diagnostics container) := by
  obtain ⟨-, failed⟩ := CellState.stage_ne_of_unfinished unfinished
  refine .failed rfl next ?_
  have other : Stage.failed ≠ q.state.stage := by
    rw [state]
    exact failed.symm
  show (if Stage.failed = q.state.stage then q.trace else q.trace ++ [.failed]) = _
  rw [if_neg other, trace]

end Enter

/-- A step out of a state that is not terminal reaches the next stage, or fails in the
attempt. -/
theorem Advances.onward (h : Advances ctx p ds p') (unfinished : p.state.isTerminal = false) :
    Onward p p' := by
  cases h with
  | aborted => exact onward_failWith unfinished rfl rfl rfl
  | resolved stands =>
    unfold resolve
    split
    · next artifact _ =>
      refine onward_enter (q := { p with artifact := some artifact.fileName }) unfinished rfl rfl ?_
      rw [stands]
      rfl
    · exact onward_failWith unfinished rfl rfl (by rw [stands]; rfl)
  | uncatalogued stands absent =>
    exact onward_failWith unfinished rfl rfl (by rw [stands]; rfl)
  | built stands found reply =>
    unfold afterBuild
    split
    · next image =>
      refine onward_enter (q := { p with image := some image }) unfinished rfl rfl ?_
      rw [stands]
      rfl
    · exact onward_failWith unfinished rfl rfl (by rw [stands]; rfl)
    · exact onward_failWith unfinished rfl rfl (by rw [stands]; rfl)
  | started stands reply =>
    cases reply with
    | ok container => exact onward_enter unfinished rfl rfl (by rw [stands]; rfl)
    | error e => exact onward_failWith unfinished rfl rfl (by rw [stands]; rfl)
  | @phase i artifact container _ records ending stands own run =>
    -- Passed or not, the phase is that of the stage behind the one it begins at.
    have next : phaseStage i = p.state.stage.next := by
      rw [stands]
      cases i <;> rfl
    let noted := { p with phases := p.phases ++ [PhaseRecord.mk i records] }
    cases ending with
    | passed =>
      refine onward_enter (q := noted) unfinished rfl rfl ?_
      rw [← next]
      cases i <;> rfl
    | exited step code => exact onward_failWith (q := noted) unfinished rfl rfl next
    | undispatched step error logs => exact onward_failWith (q := noted) unfinished rfl rfl next
  | @passedThrough i artifact container stands other =>
    refine onward_enter unfinished rfl rfl ?_
    rw [stands]
    cases i <;> rfl
  | completed stands => exact onward_enter unfinished rfl rfl (by rw [stands]; rfl)
  | stayed terminal =>
    rw [terminal] at unfinished
    cases unfinished

/-- A terminal cell stays as it is and calls nobody. The state at the end absorbs all further
steps. -/
theorem Advances.eq_of_terminal (h : Advances ctx p ds p') (terminal : p.state.isTerminal = true) :
    ds = [] ∧ p' = p := by
  cases h with
  | stayed => exact ⟨rfl, rfl⟩
  | aborted unfinished =>
    rw [terminal] at unfinished
    cases unfinished
  | @phase i artifact container _ records ending stands own run =>
    rw [stands] at terminal
    cases i <;> cases terminal
  | @passedThrough i artifact container stands other =>
    rw [stands] at terminal
    cases i <;> cases terminal
  | resolved stands | uncatalogued stands | built stands | started stands | completed stands =>
    rw [stands] at terminal
    cases terminal

/-- Further steps of a terminal cell change nothing. -/
theorem does_advanceTimes_of_terminal {n : Nat} (terminal : p.state.isTerminal = true) :
    Does (advanceTimes ctx n p) ds p' ↔ ds = [] ∧ p' = p := by
  induction n generalizing ds with
  | zero => exact does_pure
  | succ n ih =>
    constructor
    · intro h
      obtain ⟨q, first, second, rfl, one, more⟩ := does_bind.mp h
      obtain ⟨rfl, rfl⟩ := (advances_of_does one).eq_of_terminal terminal
      exact ih.mp more
    · rintro ⟨rfl, rfl⟩
      exact (Advances.stayed terminal).does_advanceTimes (ih.mpr ⟨rfl, rfl⟩)

/-! ### The trace -/

/-- The trace agrees with the state. A cell that is going has the way up to its stage behind it;
one that failed has a part of the way, and the failure. -/
inductive Traced (p : Pipeline) : Prop
  | going (sound : p.state.stage ≠ .failed) (trace : p.trace = Stage.upTo p.state.stage)
  | failed {failure : Failure} {container : Option Container} {stage : Stage}
      (state : p.state = .failed failure container) (sound : stage ≠ .failed)
      (trace : p.trace = Stage.upTo stage ++ [.failed]) (attempted : failure.stage = stage.next)

/-- One step keeps trace and state in agreement. It goes on to the next stage or fails in the
attempt, as `Onward` says. -/
theorem traced_step (h : Traced p) (step : Advances ctx p ds p') : Traced p' := by
  -- A cell that is over stays as it is. Any other goes on by one stage or fails.
  cases terminal : p.state.isTerminal with
  | true =>
    obtain ⟨-, rfl⟩ := step.eq_of_terminal terminal
    exact h
  | false =>
    obtain ⟨completed, sound⟩ := CellState.stage_ne_of_unfinished terminal
    cases h with
    | failed state =>
      rw [state] at terminal
      cases terminal
    | going _ trace =>
      cases step.onward terminal with
      | reached stage longer =>
        refine .going ?_ ?_
        · rw [stage]
          exact Stage.next_ne_failed sound
        · rw [longer, trace, stage, Stage.upTo_next completed sound]
      | failed state attempted longer =>
        exact .failed state sound (by rw [longer, trace]) attempted

/-- What the trace, the state and the calls of a cell have to do with each other. -/
structure Orderly (p : Pipeline) (ds : List Deed) : Prop where
  /-- The stages visited are the first ones of the way. A failure may end them. -/
  trace : ∃ stages last, p.trace = stages ++ last ∧ stages ≠ [] ∧ stages <+: Stage.way ∧
    (last = [] ∨ last = [.failed])
  current : p.trace.getLast? = some p.state.stage
  /-- The state holds a container just if it was handed over. -/
  container : ∀ c, p.state.container? = some c ↔
    ∃ image options, .called (.start image options) (.ok c) ∈ ds
  /-- A failure names the stage behind the last one that was reached. -/
  attempted : ∀ failure container, p.state = .failed failure container →
    ∃ stages stage, p.trace = stages ++ [stage, .failed] ∧ failure.stage = stage.next

/-- A cell that is traced keeps to the order. This is put together from the trace, which fixes the
stages, and from the history, which ties the calls to the state. -/
theorem Traced.orderly {cell : Cell} (h : Traced p) (history : History ctx cell p.state ds) :
    Orderly p ds := by
  cases h with
  | going sound trace =>
    refine ⟨⟨Stage.upTo p.state.stage, [], ?_, Stage.upTo_ne_nil _, Stage.upTo_isPrefix _,
      .inl rfl⟩, ?_, fun c => history.container?_eq_some_iff, fun failure container state => ?_⟩
    · rw [trace, List.append_nil]
    · rw [trace]
      exact Stage.getLast?_upTo sound
    · rw [state] at sound
      exact absurd rfl sound
  | @failed failure container stage state sound trace attempted =>
    refine ⟨⟨_, _, trace, Stage.upTo_ne_nil _, Stage.upTo_isPrefix _, .inr rfl⟩, ?_,
      fun c => history.container?_eq_some_iff, fun failure' container' state' => ?_⟩
    · rw [trace, state, List.getLast?_append]
      rfl
    · rw [state] at state'
      cases state'
      -- The way up to a stage ends with it, so the stage stands right before the failure.
      obtain ⟨before, split⟩ := List.getLast?_eq_some_iff.mp (Stage.getLast?_upTo sound)
      refine ⟨before, stage, ?_, attempted⟩
      rw [trace, split, List.append_assoc]
      rfl

/-- Whatever steps a cell takes from its beginning, its trace tells of them. -/
theorem traced_of_advanceTimes {cell : Cell} {clock n : Nat}
    (steps : Does (advanceTimes ctx n (create cell clock)) ds p) : Traced p := by
  -- The deeds play no part, so nothing but this tells that there are none at the beginning.
  exact @advanceTimes_invariant ctx (create cell clock) p ds (fun p _ => Traced p)
    (fun kept step => traced_step kept step) n [] (.going nofun rfl) steps

/-! ### Driving -/

/-- `n` steps lower what remains by `n`, as long as anything remains. -/
theorem remaining_advanceTimes_le {n : Nat} (h : Does (advanceTimes ctx n p) ds p') :
    p'.state.remaining ≤ p.state.remaining - n := by
  induction n generalizing p ds with
  | zero =>
    obtain ⟨-, rfl⟩ := does_pure.mp h
    exact Nat.le_refl _
  | succ n ih =>
    obtain ⟨q, first, second, rfl, one, more⟩ := does_bind.mp h
    have later := ih more
    -- Once the cell is over nothing remains. Until then each step takes something off.
    cases terminal : p.state.isTerminal with
    | true =>
      obtain ⟨-, rfl⟩ := (advances_of_does one).eq_of_terminal terminal
      have none : q.state.remaining = 0 := remaining_of_isTerminal terminal
      omega
    | false =>
      have nearer := (advances_of_does one).remaining_lt terminal
      omega

/-- Driving takes as many steps as it needs to come to a terminal state, and no more. -/
theorem run_driveFor {σ : Type} (answer : (q : CellQuestion) → σ → CellAnswer q × σ) {n : Nat}
    (enough : p.state.remaining ≤ n) (s : σ) :
    ∃ k ≤ n, Program.run answer (driveFor ctx n p) s = Program.run answer (advanceTimes ctx k p) s ∧
      (Program.run answer (advanceTimes ctx k p) s).1.state.isTerminal = true ∧
      ∀ j < k, (Program.run answer (advanceTimes ctx j p) s).1.state.isTerminal = false := by
  induction n generalizing p s with
  | zero =>
    exact ⟨0, Nat.le_refl 0, rfl, isTerminal_of_remaining (Nat.le_zero.mp enough), nofun⟩
  | succ n ih =>
    unfold driveFor
    cases terminal : p.state.isTerminal with
    | true => exact ⟨0, Nat.zero_le _, rfl, terminal, nofun⟩
    | false =>
      obtain ⟨log, path⟩ := Program.path_of_run answer (p.advance ctx) s
      have nearer := (advances_of_does ⟨log, path, rfl⟩).remaining_lt terminal
      have enough' : (Program.run answer (p.advance ctx) s).1.state.remaining ≤ n := by omega
      obtain ⟨k, le, same, ends, before⟩ := ih enough' (Program.run answer (p.advance ctx) s).2
      -- One step comes before the `k` that the cell goes on with.
      refine ⟨k + 1, by omega, ?_, ?_, fun j lt => ?_⟩
      · simp only [Bool.false_eq_true, if_false, advanceTimes, Program.run_bind]
        exact same
      · simp only [advanceTimes, Program.run_bind]
        exact ends
      · cases j with
        | zero => exact terminal
        | succ j =>
          simp only [advanceTimes, Program.run_bind]
          exact before j (by omega)

/-- A cell that takes any number of steps goes through its stages in order, stays where it
is once it has completed or failed, and is driven there in at most six steps. -/
theorem orderly_of_advanceTimes {cell : Cell} {clock n : Nat}
    (steps : Does (advanceTimes ctx n (create cell clock)) ds p) :
    Orderly p ds ∧
      (p.state.isTerminal = true → ∀ (m : Nat) (more : List Deed) (q : Pipeline),
        Does (advanceTimes ctx m p) more q ↔ more = [] ∧ q = p) ∧
      (6 ≤ n → p.state.isTerminal = true) ∧
      ∀ {σ : Type} (answer : (q : CellQuestion) → σ → CellAnswer q × σ) (s : σ), ∃ k ≤ 6,
        Program.run answer ((create cell clock).drive ctx) s
            = Program.run answer (advanceTimes ctx k (create cell clock)) s ∧
          (Program.run answer (advanceTimes ctx k (create cell clock)) s).1.state.isTerminal
            = true ∧
          ∀ j < k, (Program.run answer
            (advanceTimes ctx j (create cell clock)) s).1.state.isTerminal = false := by
  obtain ⟨-, history⟩ := history_of_advanceTimes steps
  refine ⟨(traced_of_advanceTimes steps).orderly history,
    fun terminal m more q => does_advanceTimes_of_terminal terminal,
    fun enough => ?_, fun answer s => ?_⟩
  · have left : p.state.remaining ≤ 6 - n := remaining_advanceTimes_le steps
    exact isTerminal_of_remaining (by omega)
  · exact run_driveFor (p := create cell clock) (n := 6) answer (Nat.le_refl 6) s

end Pipeline

namespace Sample

/-- Answers to a cell that is driven alone: no cancellation, one clock reading, and these
replies. -/
def answering (replies : (c : Call) → c.Reply) : (q : CellQuestion) → Unit → CellAnswer q × Unit
  | .observe, _ => (⟨false, 0⟩, ())
  | .call c, _ => (replies c, ())
  | .record _, _ => ((), ())

/-- An engine that does everything but run commands. A cell then comes as far as its container. -/
def idle : (c : Call) → c.Reply
  | .exec _ _ => .error (.timeout "exec")
  | c => hopeful c

end Sample

namespace Pipeline

/-- The first command of a root install is answered with an error, and two more steps change
nothing. -/
theorem orderly_of_idle_engine :
    ∃ ds p, Does (advanceTimes Sample.context 6 (create Sample.cell 0)) ds p ∧
      p.trace = [.pending, .artifactResolved, .imageBuilt, .containerRunning, .failed] ∧
      Orderly p ds := by
  let answer := Sample.answering Sample.idle
  obtain ⟨log, path⟩ := Program.path_of_run answer
    (advanceTimes Sample.context 6 (create Sample.cell 0)) ()
  have steps : Does (advanceTimes Sample.context 6 (create Sample.cell 0)) (deeds log) _ :=
    ⟨log, path, rfl⟩
  refine ⟨_, _, steps, ?_, (orderly_of_advanceTimes steps).1⟩
  decide +kernel

end Pipeline

end InstallMatrix
