import InstallMatrix.Proofs.Run.Stages
import InstallMatrix.Proofs.Run.Task

/-!
# `InstallMatrix.Proofs.Run.Stopping`: a cell whose run was cancelled

A cell learns that its run was cancelled when it looks at the run, which it does before
every step, but not between the commands of a phase. `SeenOff` are the answers of a
cancelled run. The theorems about paths with such answers:

* `heeds_task`: wherever a cell stands, it begins no build and no start behind the question
  it stands at, and no command unless it is bound to one.
* `meets_task`, `skipped_of_path`: a cell that has not begun calls nothing and is skipped.
* `InStep.failedFrom`: a cell that is in the middle of a step fails and keeps its container.
  `standing_of_path` says where else a cell may stand.

`Heeds` is about every place in a program. `heeds_bind` puts it together from the parts,
where a part that is not begun yet has to be `Calm`.
-/

set_option autoImplicit false

namespace InstallMatrix

namespace CellProgram

variable {α β : Type}

/-! ### What may still begin -/

/-- The answers of a cancelled run: every look shows the cancellation. -/
def SeenOff : (q : CellQuestion) → CellAnswer q → Prop
  | .observe, moment => moment.cancelled = true
  | _, _ => True

/-- Every question can be answered in a cancelled run, so that paths with such answers go to their
end. -/
theorem exists_seenOff (q : CellQuestion) : ∃ a, SeenOff q a := by
  cases q with
  | observe => exact ⟨⟨true, 0⟩, rfl⟩
  | call c => exact ⟨c.failed (.timeout ""), trivial⟩
  | record r => exact ⟨(), trivial⟩

/-- The program makes a command its next call, whatever its looks show before. This is what a task
in the middle of a phase is bound to. -/
def RunsNext : CellProgram α → Prop
  | .pure _ => False
  | .ask .observe next => ∀ moment : Moment, RunsNext (next moment)
  | .ask (.call c) _ => ∃ container command, c = .exec container command
  | .ask (.record _) _ => False

/-- What may still be asked: anything but a build or a start, and a command only if
`commands` says so. -/
def MayAsk (commands : Prop) : CellQuestion → Prop
  | .call (.build _) => False
  | .call (.start _ _) => False
  | .call (.exec _ _) => commands
  | _ => True

/-- In a cancelled run the program begins no build, no start and no command. A part of a program
that has not been entered is calm if it looks at the run before it calls anything. -/
def Calm (p : CellProgram α) : Prop := p.Meets SeenOff (MayAsk False) fun _ => True

/-- Wherever the program stands when its run is cancelled, it begins no build and no start behind
that, and no command unless it is bound to one. The definition goes along with the program,
because the place at which it stands is any of its questions. -/
def Heeds : CellProgram α → Prop
  | .pure _ => True
  | .ask q next => ∀ a,
    (SeenOff q a → (next a).Meets SeenOff (MayAsk (RunsNext (.ask q next))) fun _ => True) ∧
      Heeds (next a)

/-- Where commands are allowed more easily, no question is lost. -/
theorem MayAsk.mono {commands commands' : Prop} (wider : commands → commands') {q : CellQuestion}
    (h : MayAsk commands q) : MayAsk commands' q := by
  cases q with
  | call c =>
    cases c with
    | exec container command => exact wider h
    | _ => exact h
  | _ => trivial

/-- A calm program asks nothing that may not be asked, whether commands are allowed or not. -/
theorem Calm.mayAsk {p : CellProgram α} (h : Calm p) (commands : Prop) :
    p.Meets SeenOff (MayAsk commands) fun _ => True :=
  Program.Meets.mono h (fun _ => MayAsk.mono False.elim) fun _ => id

/-- A program is calm if its parts are. -/
theorem calm_bind {p : CellProgram α} {f : α → CellProgram β} (h : Calm p)
    (rest : ∀ a, Calm (f a)) : Calm (p >>= f) :=
  Program.meets_bind.mpr (Program.Meets.mono h (fun _ => id) fun a _ => rest a)

/-- What follows a program does not change what it is bound to. -/
theorem RunsNext.bind {p : CellProgram α} (h : RunsNext p) (f : α → CellProgram β) :
    RunsNext (p >>= f) := by
  induction p with
  | pure a => cases h
  | ask q next ih =>
    cases q with
    | observe => exact fun moment => ih moment (h moment)
    | call c => exact h
    | record r => cases h

/-- A program heeds the cancellation if its parts do, and a part that is not begun yet begins
nothing. -/
theorem heeds_bind {p : CellProgram α} {f : α → CellProgram β} (h : Heeds p)
    (calm : ∀ a, Calm (f a)) (rest : ∀ a, Heeds (f a)) : Heeds (p >>= f) := by
  induction p with
  | pure a => exact rest a
  | ask q next ih =>
    intro a
    obtain ⟨later, inside⟩ := h a
    refine ⟨fun seen => Program.meets_bind.mpr ?_, ih a inside⟩
    exact Program.Meets.mono (later seen) (fun _ => MayAsk.mono fun bound => bound.bind f)
      fun b _ => (calm b).mayAsk _

/-- A look goes on calmly if it shows the cancellation. What follows a look that does not show it
need only heed a later one. -/
theorem heeds_observe_bind {f : Moment → CellProgram β}
    (calm : ∀ moment : Moment, moment.cancelled = true → Calm (f moment))
    (rest : ∀ moment, Heeds (f moment)) : Heeds (observe >>= f) :=
  fun moment => ⟨fun seen => (calm moment seen).mayAsk _, rest moment⟩

/-- A call is followed by what has to be calm, for the cancellation may come while it is under
way. -/
theorem heeds_call_bind {c : Call} {f : c.Reply → CellProgram β} (calm : ∀ reply, Calm (f reply))
    (rest : ∀ reply, Heeds (f reply)) : Heeds (call c >>= f) :=
  fun reply => ⟨fun _ => (calm reply).mayAsk _, rest reply⟩

/-- A program that heeds the cancellation does so from everywhere along its paths. -/
theorem Heeds.along {p r : CellProgram α} {log : Program.Transcript CellAnswer} (h : Heeds p)
    (path : Program.Path p log r) : Heeds r := by
  induction path with
  | here p => exact h
  | step a rest ih => exact ih (h a).2

/-- The call a program stands at. It has been begun, since the task waits for its answer. -/
def callAt : CellProgram α → Option Call
  | .ask (.call c) _ => some c
  | _ => none

/-- The calls that are begun along a path, with the one its end stands at. -/
def begins (log : Program.Transcript CellAnswer) (r : CellProgram α) : List Call :=
  (deeds log).filterMap Deed.call? ++ (callAt r).toList

/-- What is begun along a path is the call it begins with, if it begins with one, and what is
begun behind it. -/
theorem begins_cons (q : CellQuestion) (a : CellAnswer q) (log : Program.Transcript CellAnswer)
    (next : CellAnswer q → CellProgram α) (r : CellProgram α) :
    begins (⟨q, a⟩ :: log) r = (callAt (.ask q next)).toList ++ begins log r := by
  cases q <;> rfl

/-- A call that is begun along a path was asked for on it, or is about to be. In both cases it is
one of the questions the program may ask. -/
theorem asks_of_mem_begins {asks : CellQuestion → Prop} {p r : CellProgram α}
    {log : Program.Transcript CellAnswer} {post : α → Prop} (h : p.Meets SeenOff asks post)
    (path : Program.Path p log r) (off : Program.Allowed SeenOff log) {c : Call}
    (mem : c ∈ begins log r) : asks (.call c) := by
  -- A call that was begun is answered in the log, or it is the question the program stands at.
  rcases List.mem_append.mp mem with answered | open_
  · obtain ⟨d, noted, is⟩ := List.mem_filterMap.mp answered
    obtain ⟨⟨q, a⟩, asked, deed⟩ := List.mem_filterMap.mp noted
    cases q with
    | observe => cases deed
    | call c' =>
      cases deed
      cases is
      exact h.asks_of_path path off asked
    | record r =>
      cases deed
      cases is
  · have left := h.along path off
    cases r with
    | pure a => cases open_
    | ask q next =>
      cases q with
      | call c' =>
        obtain rfl : c = c' := List.mem_singleton.mp open_
        exact left.1
      | _ => cases open_

/-- Behind the question it stands at, a program that heeds the cancellation begins what it may.
The question itself was begun before, so it is set apart from the later calls. -/
theorem Heeds.begins {p r : CellProgram α} {log : Program.Transcript CellAnswer} (h : Heeds p)
    (path : Program.Path p log r) (off : Program.Allowed SeenOff log) :
    ∃ later, CellProgram.begins log r = (callAt p).toList ++ later ∧
      ∀ c ∈ later, MayAsk (RunsNext p) (.call c) := by
  cases path with
  | here => exact ⟨[], (List.append_nil _).symm, nofun⟩
  | @step q next log r a rest =>
    refine ⟨CellProgram.begins log r, begins_cons q a log next r, fun c mem => ?_⟩
    have offLater : Program.Allowed SeenOff log := fun mem => off (List.mem_cons_of_mem _ mem)
    exact asks_of_mem_begins ((h a).1 (off List.mem_cons_self)) rest offLater mem

end CellProgram

namespace Pipeline

open CellProgram

variable {ctx : RunContext} {cell : Cell} {p p' : Pipeline}

/-- What is left of a cell's life once its way is at its end: a last look at the clock, the result
and the release. -/
def closing (ctx : RunContext) (p : Pipeline) : CellProgram Unit := do
  let last ← observe
  record (p.result last.clock)
  p.release ctx

/-- A cell is driven along its way, and then closes. -/
theorem goAlong_eq (ctx : RunContext) (cell : Cell) (clock : Nat) :
    goAlong ctx cell clock = (create cell clock).drive ctx >>= closing ctx := rfl

/-! ### A cell heeds the cancellation -/

/-- A release removes or retains a container, and begins nothing. -/
theorem calm_release (ctx : RunContext) (p : Pipeline) : Calm (p.release ctx) := by
  unfold release
  split
  · trivial
  · split
    · exact ⟨trivial, fun _ _ => trivial⟩
    · exact ⟨trivial, fun _ _ => trivial⟩

/-- Closing hands in the result and releases the container. -/
theorem calm_closing (ctx : RunContext) (p : Pipeline) : Calm (closing ctx p) :=
  ⟨trivial, fun _ _ => ⟨trivial, fun _ _ => calm_release ctx p⟩⟩

/-- What a step makes of a cell in a cancelled run. At its end it stays what it is, and otherwise
it fails and keeps its container. -/
def aborted (p : Pipeline) : Pipeline :=
  if p.state.isTerminal then p
  else p.failWith .cancelled p.state.stage.next "run aborted" none p.state.container?

/-- A step of a cancelled run calls nothing and aborts the cell. It looks at the run before
anything else. -/
theorem meets_advance (ctx : RunContext) (p : Pipeline) :
    (p.advance ctx).Meets SeenOff (MayAsk False) (· = p.aborted) := by
  rw [advance_eq]
  refine Program.meets_question_bind.mpr ⟨trivial, fun moment seen => ?_⟩
  have off : moment.cancelled = true := seen
  unfold aborted
  cases terminal : p.state.isTerminal with
  | false =>
    simp only [off, Bool.not_false, Bool.and_self, if_true]
    exact Program.meets_pure.mpr rfl
  | true =>
    simp only [Bool.not_true, Bool.and_false, Bool.false_eq_true, if_false, if_true]
    rw [goOn_of_terminal terminal]
    exact Program.meets_pure.mpr rfl

/-- In a cancelled run an advance calls nothing, as `meets_advance` says in full. -/
theorem calm_advance (ctx : RunContext) (p : Pipeline) : Calm (p.advance ctx) :=
  (meets_advance ctx p).mono (fun _ => id) fun _ _ => trivial

/-- Several advances are calm if one is. The induction is on their number. -/
theorem calm_driveFor (ctx : RunContext) (n : Nat) (p : Pipeline) : Calm (driveFor ctx n p) := by
  induction n generalizing p with
  | zero => trivial
  | succ n ih =>
    unfold driveFor
    split
    · trivial
    · exact calm_bind (calm_advance ctx p) ih

section Phase
variable {container : Container} {step : PhaseStep} {before : Moment}
  {rest : CellProgram (List StepRecord × PhaseEnd)}

/-- Behind a command, a phase runs its other commands or reads the logs. -/
theorem meets_afterCommand (h : rest.Meets SeenOff (MayAsk True) fun _ => True)
    (reply : Except GatewayError CommandOutput) :
    (afterCommand container step rest before reply).Meets SeenOff (MayAsk True) fun _ => True := by
  cases reply with
  | error e => exact ⟨trivial, fun after _ => ⟨trivial, fun logs _ => trivial⟩⟩
  | ok output =>
    simp only [afterCommand]
    split
    · exact Program.meets_bind.mpr (h.mono (fun _ => id) fun _ _ => trivial)
    · trivial

/-- Behind a command stand the other commands of the phase, or a look and the call for the logs.
-/
theorem heeds_afterCommand (h : Heeds rest) (reply : Except GatewayError CommandOutput) :
    Heeds (afterCommand container step rest before reply) := by
  cases reply with
  | error e =>
    refine heeds_observe_bind (fun after _ => ⟨trivial, fun _ _ => trivial⟩) fun after => ?_
    exact heeds_call_bind (fun _ => trivial) fun _ => trivial
  | ok output =>
    simp only [afterCommand]
    split
    · exact heeds_bind h (fun _ => trivial) fun _ => trivial
    · trivial

end Phase

/-- A phase asks for nothing but commands and logs. -/
theorem meets_runSteps (container : Container) (steps : List PhaseStep) :
    (runSteps container steps).Meets SeenOff (MayAsk True) fun _ => True := by
  induction steps with
  | nil => trivial
  | cons step steps ih =>
    rw [runSteps_cons]
    exact ⟨trivial, fun before _ => ⟨trivial, fun reply _ => meets_afterCommand ih reply⟩⟩

/-- A phase that has begun is bound to its next command, so it may run to its end. -/
theorem heeds_runSteps (container : Container) (steps : List PhaseStep) :
    Heeds (runSteps container steps) := by
  induction steps with
  | nil => trivial
  | cons step steps ih =>
    rw [runSteps_cons]
    have all := meets_runSteps container steps
    -- The program stands at the look before the command, and then at the command itself.
    refine fun before => ⟨fun _ => ?_, fun reply => ⟨fun _ => ?_, heeds_afterCommand ih reply⟩⟩
    · have bound : ∀ moment : Moment, RunsNext (call (.exec container step.command) >>=
          afterCommand container step (runSteps container steps) moment) := fun _ => ⟨_, _, rfl⟩
      exact ⟨bound, fun reply _ => (meets_afterCommand all reply).mono
        (fun _ => MayAsk.mono fun _ => bound) fun _ _ => trivial⟩
    · exact (meets_afterCommand all reply).mono
        (fun _ => MayAsk.mono fun _ => ⟨_, _, rfl⟩) fun _ _ => trivial

/-- A phase is its commands, and what comes behind them asks nothing. -/
theorem heeds_runPhase (ctx : RunContext) (p : Pipeline) (i : Identity) (artifact : Artifact)
    (container : Container) : Heeds (p.runPhase ctx i artifact container) := by
  unfold runPhase
  split
  · exact heeds_bind (heeds_runSteps container _) (fun _ => trivial) fun _ => trivial
  · trivial

/-- One step looks for a cancellation before each call, except inside a phase. -/
theorem heeds_advance (ctx : RunContext) (p : Pipeline) : Heeds (p.advance ctx) := by
  rw [advance_eq]
  -- A step looks once and then makes one call at most, except for a phase.
  refine heeds_observe_bind (fun moment seen => ?_) fun moment => ?_
  · exact ((meets_advance ctx p).2 moment seen).mono (fun _ => id) fun _ _ => trivial
  · split
    · trivial
    · unfold goOn
      split
      case h_2 artifact _ =>
        unfold build
        split
        · trivial
        · exact heeds_call_bind (fun _ => trivial) fun _ => trivial
      case h_3 artifact image _ => exact heeds_call_bind (fun _ => trivial) fun _ => trivial
      case h_4 artifact container _ => exact heeds_runPhase ctx p .root artifact container
      case h_5 artifact container _ => exact heeds_runPhase ctx p .user artifact container
      all_goals trivial

/-- Several advances heed the cancellation: the one the cell is in does, and those that are still
to come are calm. -/
theorem heeds_driveFor (ctx : RunContext) (n : Nat) (p : Pipeline) : Heeds (driveFor ctx n p) := by
  induction n generalizing p with
  | zero => trivial
  | succ n ih =>
    unfold driveFor
    split
    · trivial
    · exact heeds_bind (heeds_advance ctx p) (calm_driveFor ctx n) ih

/-- A release is a single call at most, and nothing follows it. -/
theorem heeds_release (ctx : RunContext) (p : Pipeline) : Heeds (p.release ctx) := by
  unfold release
  split
  · trivial
  · split
    · exact fun _ => ⟨fun _ => trivial, trivial⟩
    · exact fun _ => ⟨fun _ => trivial, trivial⟩

/-- Closing heeds the cancellation, as it begins nothing. -/
theorem heeds_closing (ctx : RunContext) (p : Pipeline) : Heeds (closing ctx p) := by
  refine heeds_observe_bind (fun last _ => ?_) fun last => ?_
  · exact ⟨trivial, fun _ _ => calm_release ctx p⟩
  · exact fun _ => ⟨fun _ => (calm_release ctx p).mayAsk _, heeds_release ctx p⟩

/-- A cell heeds the cancellation all its life. It looks before it begins and before every step,
and the steps do so in turn. -/
theorem heeds_task (ctx : RunContext) (cell : Cell) : Heeds (task ctx cell) := by
  rw [task_eq]
  refine heeds_observe_bind (fun moment seen => ?_) fun moment => ?_
  · rw [seen]
    exact ⟨trivial, fun _ _ => trivial⟩
  · split
    · exact fun _ => ⟨fun _ => trivial, trivial⟩
    · rw [goAlong_eq]
      exact heeds_bind (heeds_driveFor ctx _ _) (calm_closing ctx) (heeds_closing ctx)

/-! ### A cell that has not begun -/

/-- In a cancelled run, a cell that has not begun calls nothing. It is skipped after its first
look. -/
theorem meets_task (ctx : RunContext) (cell : Cell) :
    (task ctx cell).Meets SeenOff (fun q => ∀ c, q ≠ .call c) fun _ => True := by
  rw [task_eq]
  refine Program.meets_question_bind.mpr ⟨nofun, fun moment seen => ?_⟩
  rw [show moment.cancelled = true from seen]
  exact ⟨nofun, fun _ _ => trivial⟩

/-- It is skipped. -/
theorem skipped_of_path {log : Program.Transcript CellAnswer}
    (path : Program.Path (task ctx cell) log (.pure ())) (off : Program.Allowed SeenOff log) :
    ∃ clock, deeds log = [.recorded (.skipped cell abortReason (.ofNanoseconds clock))] := by
  rw [task_eq] at path
  obtain ⟨moment, rest, rfl, onward⟩ := path.of_question_bind
  have seen : moment.cancelled = true := off List.mem_cons_self
  rw [seen] at onward
  obtain ⟨u, last, rfl, stops⟩ := Program.Path.of_ask_pure onward
  obtain ⟨rfl, -⟩ := stops.of_pure
  exact ⟨moment.clock, rfl⟩

/-! ### A cell in the middle of a step -/

/-- `InStep ctx cell p ds rest`: the cell has come to `p`, which is not its end, and is in
the middle of the next step. It has done `ds` and has `rest` left to do. -/
inductive InStep (ctx : RunContext) (cell : Cell) (p : Pipeline) :
    List Deed → CellProgram Unit → Prop
  | intro {clock n fuel : Nat} {before : List Deed} {log : Program.Transcript CellAnswer}
      {q : CellQuestion} {next : CellAnswer q → CellProgram Pipeline}
      (came : Does (advanceTimes ctx n (create cell clock)) before p)
      (unfinished : p.state.isTerminal = false)
      (inside : Program.Path (p.advance ctx) log (.ask q next))
      (enough : p.state.remaining ≤ fuel + 1) :
      InStep ctx cell p (before ++ deeds log)
        ((.ask q next >>= driveFor ctx fuel) >>= closing ctx)

/-- Where a cell stands that has a permit: before its first look, before it hands in that it was
skipped, in the middle of a step, or behind its way. -/
inductive Standing (ctx : RunContext) (cell : Cell) : List Deed → CellProgram Unit → Prop
  /-- It has not looked at the run yet. -/
  | fresh : Standing ctx cell [] (task ctx cell)
  /-- It has seen the cancellation and is skipped. -/
  | skipped (clock : Nat) :
      Standing ctx cell [] (record (.skipped cell abortReason (.ofNanoseconds clock)))
  | inStep {p : Pipeline} {ds : List Deed} {rest : CellProgram Unit}
      (inside : InStep ctx cell p ds rest) : Standing ctx cell ds rest
  /-- It has come to its end, with its result or its container still to be handed over. -/
  | closing {p : Pipeline} {calls : List Deed} {log : Program.Transcript CellAnswer}
      {rest : CellProgram Unit} (arrives : Arrives ctx cell p calls)
      (path : Program.Path (closing ctx p) log rest) : Standing ctx cell (calls ++ deeds log) rest

/-- A cell that is being driven is in the middle of a step. Which step it is can be told from the
advances that came before, and these are the history of the state it began from. -/
theorem exists_inStep_of_driveFor {clock k n : Nat} {before : List Deed}
    {log : Program.Transcript CellAnswer} {q : CellQuestion}
    {next : CellAnswer q → CellProgram Pipeline}
    (came : Does (advanceTimes ctx k (create cell clock)) before p)
    (enough : p.state.remaining ≤ n)
    (path : Program.Path (driveFor ctx n p) log (.ask q next)) :
    ∃ p', InStep ctx cell p' (before ++ deeds log) (.ask q next >>= closing ctx) := by
  induction n generalizing k before p log with
  | zero => cases path.of_pure.2
  | succ n ih =>
    unfold driveFor at path
    split at path
    · cases path.of_pure.2
    · next unfinished =>
      have unfinished : p.state.isTerminal = false := by simpa using unfinished
      -- Once a step is over, the cell is driven on from where it led.
      have later {p₁ : Pipeline} {first second : Program.Transcript CellAnswer}
          (stepped : Program.Path (p.advance ctx) first (.pure p₁))
          (drives : Program.Path (driveFor ctx n p₁) second (.ask q next)) :
          ∃ p', InStep ctx cell p' (before ++ deeds (first ++ second))
            (.ask q next >>= closing ctx) := by
        have one : Does (p.advance ctx) (deeds first) p₁ := ⟨first, stepped, rfl⟩
        have nearer := (advances_of_does one).remaining_lt unfinished
        rw [deeds_append, ← List.append_assoc]
        exact ih (does_advanceTimes_succ came one) (by omega) drives
      rcases path.split with ⟨r, inside, stands⟩ | ⟨p₁, first, second, rfl, stepped, drives⟩
      · cases r with
        | pure p₁ =>
          have drives : Program.Path (driveFor ctx n p₁) [] (.ask q next) := stands ▸ .here _
          rw [← List.append_nil log]
          exact later inside drives
        | ask q' next' =>
          rw [stands]
          exact ⟨p, .intro came unfinished inside enough⟩
      · exact later stepped drives

/-- Every cell that has a permit and has not ended stands at one of these places. -/
theorem standing_of_path {log : Program.Transcript CellAnswer} {q : CellQuestion}
    {next : CellAnswer q → CellProgram Unit}
    (path : Program.Path (task ctx cell) log (.ask q next)) :
    Standing ctx cell (deeds log) (.ask q next) := by
  rw [task_eq] at path
  rcases Program.Path.of_ask path with ⟨rfl, whole⟩ | ⟨moment, rest, rfl, onward⟩
  · rw [whole]
    exact .fresh
  · replace onward : Program.Path (if moment.cancelled then
        record (.skipped cell abortReason (.ofNanoseconds moment.clock))
        else goAlong ctx cell moment.clock) rest (.ask q next) := onward
    split at onward
    · rcases Program.Path.of_ask onward with ⟨rfl, whole⟩ | ⟨u, last, rfl, stops⟩
      · rw [whole]
        exact .skipped moment.clock
      · cases stops.of_pure.2
    · rw [goAlong_eq] at onward
      -- Once the cell is driven to its end only the closing is left.
      have arrived {p : Pipeline} {first second : Program.Transcript CellAnswer}
          (drove : Program.Path ((create cell moment.clock).drive ctx) first (.pure p))
          (closes : Program.Path (closing ctx p) second (.ask q next)) :
          Standing ctx cell (deeds first ++ deeds second) (.ask q next) :=
        .closing (arrives_of_drive ⟨_, drove, rfl⟩) closes
      rcases onward.split with ⟨r, inside, stands⟩ | ⟨p, first, second, rfl, drove, closes⟩
      · cases r with
        | pure p =>
          have closes : Program.Path (closing ctx p) [] (.ask q next) := stands ▸ .here _
          rw [← List.append_nil (deeds _)]
          exact arrived inside closes
        | ask q' next' =>
          have start : Does (advanceTimes ctx 0 (create cell moment.clock)) []
            (create cell moment.clock) := does_pure.mpr ⟨rfl, rfl⟩
          obtain ⟨p', inStep⟩ := exists_inStep_of_driveFor start (Nat.le_refl _) inside
          rw [stands]
          exact .inStep inStep
      · show Standing ctx cell (deeds (first ++ second)) _
        rw [deeds_append]
        exact arrived drove closes

/-- `FailedFrom ctx cell p ds`: on its way from `p` the cell failed, and it has done `ds` by
now. It kept the container it held and was released of it. -/
inductive FailedFrom (ctx : RunContext) (cell : Cell) (p : Pipeline) : List Deed → Prop
  | intro {end_ : Pipeline} {failure : Failure} {container : Option Container}
      {calls released : List Deed} (clock : Nat) (arrives : Arrives ctx cell end_ calls)
      (state : end_.state = .failed failure container)
      (kept : ∀ c, p.state.container? = some c → container = some c)
      (release : ∀ c, container = some c → Releases ctx c released)
      (idle : container = none → released = []) :
      FailedFrom ctx cell p (calls ++ .recorded (end_.result clock) :: released)

/-- Only from the last stage does a step complete a cell. -/
theorem Advances.userPhase_of_completed {ds : List Deed} {container : Container}
    (h : Advances ctx p ds p') (unfinished : p.state.isTerminal = false)
    (completed : p'.state = .completed container) :
    ∃ artifact container, p.state = .userPhase artifact container := by
  cases h.onward unfinished with
  | failed state =>
    rw [completed] at state
    cases state
  | reached stage =>
    rw [completed] at stage
    cases state : p.state with
    | userPhase artifact container => exact ⟨artifact, container, rfl⟩
    | completed | failed =>
      rw [state] at unfinished
      cases unfinished
    | _ =>
      rw [state] at stage
      cases stage

/-- A step that is in its middle when its run is cancelled does not complete the cell. -/
theorem not_completed_of_inside {log later : Program.Transcript CellAnswer} {q : CellQuestion}
    {next : CellAnswer q → CellProgram Pipeline} {container : Container}
    (unfinished : p.state.isTerminal = false)
    (inside : Program.Path (p.advance ctx) log (.ask q next))
    (onward : Program.Path (.ask q next) later (.pure p'))
    (off : Program.Allowed SeenOff later) : p'.state ≠ .completed container := by
  intro completed
  have advances : Advances ctx p _ p' := advances_of_does ⟨_, inside.trans onward, rfl⟩
  obtain ⟨artifact, c, state⟩ := advances.userPhase_of_completed unfinished completed
  rw [advance_eq] at inside
  rcases Program.Path.of_ask inside with ⟨rfl, whole⟩ | ⟨moment, rest, rfl, goes⟩
  · -- The step has not looked at the run yet, so it is aborted.
    rw [whole] at onward
    have aborts : p' = p.aborted := (meets_advance ctx p).along onward off
    rw [aborts, Pipeline.aborted, if_neg (by simp [unfinished])] at completed
    cases completed
  · -- A step that completes a cell is over with its look.
    have stands : ∃ p₁, (if moment.cancelled && !p.state.isTerminal then
        pure (p.failWith .cancelled p.state.stage.next "run aborted" none p.state.container?)
        else p.goOn ctx) = (.pure p₁ : CellProgram Pipeline) := by
      split
      · exact ⟨_, rfl⟩
      · unfold goOn
        rw [state]
        exact ⟨_, rfl⟩
    obtain ⟨p₁, stands⟩ := stands
    have stops : Program.Path (.pure p₁) rest (.ask q next) := stands ▸ goes
    cases stops.of_pure.2

/-- A cell at its end is not driven any further. -/
theorem driveFor_of_terminal {n : Nat} (terminal : p.state.isTerminal = true) :
    driveFor ctx n p = pure p := by
  cases n with
  | zero => rfl
  | succ n =>
    unfold driveFor
    rw [if_pos terminal]

/-- Every cell is at its end once it was aborted. -/
theorem isTerminal_aborted (p : Pipeline) : p.aborted.state.isTerminal = true := by
  unfold aborted
  split
  · assumption
  · rfl

/-- In a cancelled run, driving aborts the cell. The first advance does, and the others find the
cell at its end. -/
theorem meets_driveFor (ctx : RunContext) {n : Nat} {p : Pipeline}
    (enough : p.state.remaining ≤ n) :
    (driveFor ctx n p).Meets SeenOff (fun _ => True) (· = p.aborted) := by
  cases terminal : p.state.isTerminal with
  | true =>
    rw [driveFor_of_terminal terminal]
    unfold aborted
    rw [if_pos terminal]
    exact Program.meets_pure.mpr rfl
  | false =>
    cases n with
    | zero =>
      rw [isTerminal_of_remaining (Nat.le_zero.mp enough)] at terminal
      cases terminal
    | succ n =>
      unfold driveFor
      -- The first step already sees the cancellation and ends the cell.
      rw [if_neg (by simp [terminal])]
      refine Program.meets_bind.mpr ((meets_advance ctx p).mono (fun _ _ => trivial) ?_)
      rintro q rfl
      rw [driveFor_of_terminal (isTerminal_aborted p)]
      exact Program.meets_pure.mpr rfl

/-- A cell that is aborted failed, or has failed before, and keeps its container. -/
theorem aborted_state (sound : ∀ container, p.state ≠ .completed container) :
    ∃ failure, p.aborted.state = .failed failure p.state.container? := by
  unfold aborted
  cases terminal : p.state.isTerminal with
  | false => exact ⟨_, rfl⟩
  | true =>
    cases state : p.state with
    | completed container => exact absurd state (sound container)
    | failed failure container => exact ⟨failure, state⟩
    | _ =>
      rw [state] at terminal
      cases terminal

/-- Closing is the handing in of the result, followed by the release. -/
theorem does_closing {ds : List Deed} {u : Unit} (h : Does (closing ctx p) ds u) :
    ∃ clock released, ds = .recorded (p.result clock) :: released ∧
      Does (p.release ctx) released () := by
  obtain ⟨last, handsIn⟩ := does_observe_bind.mp h
  obtain ⟨released, rfl, release⟩ := does_record_bind.mp handsIn
  exact ⟨last.clock, released, rfl, release⟩

/-- A container that was held is held after any further steps. The call that handed it over stays
in the history. -/
theorem History.keeps {p p' : Pipeline} {before ds : List Deed} {c : Container}
    (h : History ctx cell p.state before) (later : History ctx cell p'.state (before ++ ds))
    (holds : p.state.container? = some c) : p'.state.container? = some c := by
  obtain ⟨image, options, mem⟩ := h.container?_eq_some_iff.mp holds
  exact later.container?_eq_some_iff.mpr ⟨image, options, List.mem_append_left _ mem⟩

/-- A cell that is in the middle of a step when its run is cancelled fails. -/
theorem InStep.failedFrom {ds : List Deed} {rest : CellProgram Unit}
    {later : Program.Transcript CellAnswer} (h : InStep ctx cell p ds rest)
    (path : Program.Path rest later (.pure ())) (off : Program.Allowed SeenOff later) :
    FailedFrom ctx cell p (ds ++ deeds later) := by
  cases h with
  | @intro clock n fuel before log q next came unfinished inside enough =>
  -- What is left: the rest of the step, the steps behind it, and the end of the cell's life.
  obtain ⟨p₂, way, closes, rfl, goes, last⟩ := path.split_pure
  obtain ⟨p₁, stepping, others, rfl, stepped, drives⟩ := goes.split_pure
  obtain ⟨offWay, -⟩ := Program.allowed_append.mp off
  obtain ⟨offStep, offOthers⟩ := Program.allowed_append.mp offWay
  have advances : Advances ctx p (deeds (log ++ stepping)) p₁ :=
    advances_of_does ⟨_, inside.trans stepped, rfl⟩
  have nearer := advances.remaining_lt unfinished
  have aborts : p₂ = p₁.aborted :=
    (meets_driveFor ctx (show p₁.state.remaining ≤ fuel by omega)).along drives offOthers
  have incomplete : ∀ container, p₁.state ≠ .completed container := fun container =>
    not_completed_of_inside unfinished inside stepped offStep
  obtain ⟨failure, state⟩ := aborted_state incomplete
  rw [← aborts] at state
  -- The calls so far are those of the state, before the step and behind it.
  obtain ⟨own, history⟩ := history_of_advanceTimes came
  have history₁ : History ctx cell p₁.state (before ++ deeds (log ++ stepping)) :=
    own ▸ history_step (own.symm ▸ history) advances
  obtain ⟨k, -, steps⟩ := exists_advanceTimes_of_driveFor ⟨others, drives, rfl⟩
  obtain ⟨own₂, history₂⟩ := history_advanceTimes (advances.cell_eq.trans own) history₁ steps
  obtain ⟨last, released, closes_eq, release⟩ := does_closing ⟨closes, last, rfl⟩
  have split : before ++ deeds log ++ deeds (stepping ++ others ++ closes)
      = (before ++ deeds (log ++ stepping) ++ deeds others) ++
        .recorded (p₂.result last) :: released := by
    rw [← closes_eq]
    simp only [deeds_append, List.append_assoc]
  rw [split]
  have held : p₂.state.container? = p₁.state.container? := by
    rw [state]
    rfl
  refine .intro last ⟨own₂, ?_, history₂⟩ state ?_ ?_ ?_
  · rw [state]
    rfl
  · exact fun c holds => history.keeps history₁ holds
  · exact fun c holds => (does_release_some (held.trans holds)).mp release
  · exact fun none => (does_release_none (held.trans none)).mp release

/-- The one result of a cell that failed says so. It is handed in once, as every result is. -/
theorem FailedFrom.results {ds : List Deed} (h : FailedFrom ctx cell p ds) :
    ∃ r, ds.filterMap Deed.result? = [r] ∧ r.status = .fail := by
  cases h with
  | @intro end_ failure container calls released clock arrives state kept release idle =>
  have held : end_.state.container? = container := by
    rw [state]
    rfl
  have none : released.filterMap Deed.result? = [] := by
    cases container with
    | none => rw [idle rfl]; rfl
    | some c => exact filterMap_result?_of_release ((does_release_some held).mpr (release c rfl))
  refine ⟨_, arrives.results none, ?_⟩
  show (verdict end_.state).1 = .fail
  rw [state]
  rfl

/-- Nothing but a failure is handed in, also before the cell is done. -/
theorem InStep.fails {ds : List Deed} {rest rest' : CellProgram Unit}
    {log : Program.Transcript CellAnswer} (h : InStep ctx cell p ds rest)
    (path : Program.Path rest log rest') (off : Program.Allowed SeenOff log) {r : CellResult}
    (mem : r ∈ (ds ++ deeds log).filterMap Deed.result?) : r.status = .fail := by
  -- What is left can be carried to its end in the cancelled run.
  obtain ⟨later, u, onward, offLater⟩ := Program.Path.exists_allowed exists_seenOff rest'
  have whole := h.failedFrom (path.trans onward) (Program.allowed_append.mpr ⟨off, offLater⟩)
  obtain ⟨r', results, fails⟩ := whole.results
  have inside : r ∈ (ds ++ deeds (log ++ later)).filterMap Deed.result? := by
    rw [deeds_append, ← List.append_assoc, List.filterMap_append]
    exact List.mem_append_left _ mem
  rw [results] at inside
  rw [List.mem_singleton.mp inside]
  exact fails

end Pipeline

end InstallMatrix
