import InstallMatrix.Proofs.Run.Protocol

/-!
# `InstallMatrix.Proofs.Run.Task`: the life of a cell

`Pipeline.Lives ctx cell ds` says what a cell that may run does in its whole life:
it hands in that it was skipped, or it makes the calls of its way, hands in its
result and gives its container up. `lives_of_does` reads it off `Pipeline.task`, and
`Lives.released` says that the container is the one it was handed.

A cell may be broken off in any call, so its deeds may be the beginning of a life
only. `stands_at_call` says where in its life a cell is that stands at a call: on
its way, with nothing handed in and nothing given up, or at the one call of its
release, with its result handed in. `seen_cancelled_of_skipped` says that only a
cell that saw its run cancelled is skipped.
-/

set_option autoImplicit false

namespace InstallMatrix

open CellProgram

/-- Does the call give a container up. Removing and retaining do, and a cell makes such a call
last. -/
def Call.isRelease : Call → Bool
  | .remove _ => true
  | .retain _ => true
  | _ => false

namespace Deed

/-- The result a deed hands in. -/
def result? : Deed → Option CellResult
  | .called _ _ => none
  | .recorded r => some r

/-- A call that gives no container up. A cell works before it hands in its result. -/
def IsWork (d : Deed) : Prop := ∃ c reply, c.isRelease = false ∧ d = .called c reply

/-- A call that gives a container up. A cell does so after it has handed in its result. -/
def IsRelease (d : Deed) : Prop := ∃ c reply, c.isRelease = true ∧ d = .called c reply

/-- Work is done before the result is handed in and a release after it, so no deed is both. -/
theorem IsWork.not_isRelease {d : Deed} (h : d.IsWork) : ¬ d.IsRelease := by
  obtain ⟨c, reply, works, rfl⟩ := h
  rintro ⟨c', reply', releases, same⟩
  cases same
  rw [works] at releases
  cases releases

/-- Handing in a result is no release, which is a call. -/
theorem not_isRelease_recorded (r : CellResult) : ¬ (recorded r).IsRelease := by
  rintro ⟨c, reply, -, same⟩
  cases same

end Deed

/-- Work hands in no result. -/
theorem filterMap_result?_of_work {ds : List Deed} (h : ∀ d ∈ ds, d.IsWork) :
    ds.filterMap Deed.result? = [] := by
  rw [List.filterMap_eq_nil_iff]
  intro d mem
  obtain ⟨c, reply, -, rfl⟩ := h d mem
  rfl

/-- Where two ways to single an element out of a list do not single out the same
element, one element lies in the part before or behind the other. -/
theorem append_cons_cases {α : Type} {first second before after : List α} {x y : α}
    (h : first ++ y :: second = before ++ x :: after) (ne : x ≠ y) :
    (∃ rest, first = before ++ x :: rest) ∨
      ∃ rest, before = first ++ y :: rest ∧ second = rest ++ x :: after := by
  -- Both lists are walked together until one of them comes to its element.
  induction first generalizing before with
  | nil =>
    cases before with
    | nil => exact absurd (List.cons.inj h).1.symm ne
    | cons b before =>
      obtain ⟨rfl, rfl⟩ := List.cons.inj h
      exact .inr ⟨before, rfl, rfl⟩
  | cons a first ih =>
    cases before with
    | nil =>
      obtain ⟨rfl, -⟩ := List.cons.inj h
      exact .inl ⟨first, rfl⟩
    | cons b before =>
      obtain ⟨rfl, tails⟩ := List.cons.inj h
      rcases ih tails with ⟨rest, rfl⟩ | ⟨rest, rfl, rfl⟩
      · exact .inl ⟨rest, rfl⟩
      · exact .inr ⟨rest, rfl, rfl⟩

namespace Pipeline

variable {ctx : RunContext} {cell : Cell} {p p' : Pipeline} {ds : List Deed}

/-! ### The calls of the way give nothing up -/

/-- Whatever a phase does is work: it sends commands and asks for the logs. The induction is on
the run of the phase, one command after another. -/
theorem PhaseRun.work {container : Container} {steps : List PhaseStep}
    {records : List StepRecord} {ending : PhaseEnd}
    (run : PhaseRun container steps ds records ending) : ∀ d ∈ ds, d.IsWork := by
  intro d mem
  rcases run.call_of_mem mem with ⟨command, reply, rfl⟩ | ⟨reply, rfl⟩
  · exact ⟨_, reply, rfl, rfl⟩
  · exact ⟨_, reply, rfl, rfl⟩

/-- A cell without a container has at most built, and building is work. -/
theorem Unstarted.work (h : Unstarted ctx cell ds) : ∀ d ∈ ds, d.IsWork := by
  intro d mem
  rcases h with rfl | ⟨artifact, found, ⟨release, reply, known, rfl⟩ |
    ⟨image, -, error, ⟨release, known, rfl⟩, rfl⟩⟩
  · cases mem
  · obtain rfl := List.mem_singleton.mp mem
    exact ⟨_, _, rfl, rfl⟩
  · rcases List.mem_cons.mp mem with rfl | mem
    · exact ⟨_, _, rfl, rfl⟩
    · obtain rfl := List.mem_singleton.mp mem
      exact ⟨_, _, rfl, rfl⟩

/-- Up to the start of its container and through its phases a cell does nothing but work. -/
theorem Equipped.work {container : Container} (h : Equipped ctx cell container ds) :
    ∀ d ∈ ds, d.IsWork := by
  intro d mem
  obtain ⟨artifact, -, phase, found, ⟨image, -, ⟨release, known, rfl⟩, rfl⟩, rfl, ran⟩ := h
  rcases List.mem_append.mp mem with mem | mem
  · rcases List.mem_cons.mp mem with rfl | mem
    · exact ⟨_, _, rfl, rfl⟩
    · obtain rfl := List.mem_singleton.mp mem
      exact ⟨_, _, rfl, rfl⟩
  · rcases ran with rfl | ⟨records, ending, run⟩
    · cases mem
    · exact run.work d mem

/-- The calls that lead to a state are work, so a cell on its way gives nothing up and hands
nothing in. -/
theorem History.work {s : CellState} (h : History ctx cell s ds) : ∀ d ∈ ds, d.IsWork := by
  cases holds : s.container? with
  | none => exact (h.unstarted holds).work
  | some container => exact (h.equipped holds).work

/-! ### The whole life -/

/-- The call that gives a container up. Which of the two it is depends on the settings of the run.
-/
def releaseCall (ctx : RunContext) (container : Container) : Call :=
  if ctx.settings.retainContainers then .retain container else .remove container

/-- The call that lets a container go is a release, whether it removes the container or retains
it. -/
theorem isRelease_releaseCall (ctx : RunContext) (container : Container) :
    (releaseCall ctx container).isRelease = true := by
  unfold releaseCall
  split <;> rfl

/-- A container is given up by the one call for it, whatever that call is answered. -/
theorem Releases.eq_singleton {container : Container} (h : Releases ctx container ds) :
    ∃ reply, ds = [.called (releaseCall ctx container) reply] := by
  unfold Releases at h
  unfold releaseCall
  cases keep : ctx.settings.retainContainers with
  | true =>
    rw [keep] at h
    exact ⟨(), h⟩
  | false =>
    rw [keep] at h
    exact h

/-- A cell that is released does nothing but give its container up. -/
theorem isRelease_of_mem_release {u : Unit} (release : Does (p.release ctx) ds u) {d : Deed}
    (mem : d ∈ ds) : d.IsRelease := by
  cases holds : p.state.container? with
  | none =>
    rw [(does_release_none holds).mp release] at mem
    cases mem
  | some container =>
    obtain ⟨reply, rfl⟩ := ((does_release_some holds).mp release).eq_singleton
    rw [List.mem_singleton.mp mem]
    exact ⟨_, reply, isRelease_releaseCall ctx container, rfl⟩

/-- `Arrives ctx cell p calls`: at the end `p` of its way, the cell has made `calls`. -/
structure Arrives (ctx : RunContext) (cell : Cell) (p : Pipeline) (calls : List Deed) : Prop where
  own : p.cell = cell
  terminal : p.state.isTerminal = true
  history : History ctx cell p.state calls

/-- A cell that is driven from its beginning arrives: it is at its end, and its calls are the
history of that end. -/
theorem arrives_of_drive {clock : Nat} {calls : List Deed}
    (drove : Does ((create cell clock).drive ctx) calls p) : Arrives ctx cell p calls := by
  obtain ⟨n, -, steps⟩ := exists_advanceTimes_of_driveFor drove
  obtain ⟨own, history⟩ := history_of_advanceTimes steps
  exact ⟨own, isTerminal_of_drive drove, history⟩

/-- `Lives ctx cell ds`: in its life the cell may do `ds`. There are two kinds of lives, that of a
cell which never began and that of one which went its way. -/
inductive Lives (ctx : RunContext) (cell : Cell) : List Deed → Prop
  /-- It saw its run cancelled before it began. -/
  | skipped (clock : Nat) :
      Lives ctx cell [.recorded (.skipped cell abortReason (.ofNanoseconds clock))]
  /-- It went its way to the end `p`, handed in its result and was released. -/
  | went {p : Pipeline} {calls released : List Deed} (clock : Nat)
      (arrives : Arrives ctx cell p calls) (release : Does (p.release ctx) released ()) :
      Lives ctx cell (calls ++ .recorded (p.result clock) :: released)

/-- What is done once the cell may begin, at a clock reading. The result is handed in before the
container is given up. -/
def goAlong (ctx : RunContext) (cell : Cell) (clock : Nat) : CellProgram Unit := do
  let p ← (create cell clock).drive ctx
  let last ← CellProgram.observe
  CellProgram.record (p.result last.clock)
  p.release ctx

/-- A task looks at the run first. It hands in that it was skipped if the run is cancelled, and
goes along from the present clock otherwise. -/
theorem task_eq (ctx : RunContext) (cell : Cell) :
    task ctx cell = CellProgram.observe >>= fun moment =>
      if moment.cancelled then
        CellProgram.record (.skipped cell abortReason (.ofNanoseconds moment.clock))
      else goAlong ctx cell moment.clock := rfl

/-- A cell that begins goes its way, hands in its result and is released. -/
theorem lives_of_does_goAlong {clock : Nat} {u : Unit} (h : Does (goAlong ctx cell clock) ds u) :
    ∃ (p : Pipeline) (calls released : List Deed) (last : Nat),
      ds = calls ++ .recorded (p.result last) :: released ∧ Arrives ctx cell p calls ∧
        Does (p.release ctx) released () := by
  obtain ⟨p, calls, rest, rfl, drove, looks⟩ := does_bind.mp h
  obtain ⟨last, handsIn⟩ := does_observe_bind.mp looks
  obtain ⟨released, rfl, release⟩ := does_record_bind.mp handsIn
  exact ⟨p, calls, released, last.clock, rfl, arrives_of_drive drove, release⟩

/-- A cell that may run does what `Lives` lists. So statements about all cells have two cases
only. -/
theorem lives_of_does {u : Unit} (h : Does (task ctx cell) ds u) : Lives ctx cell ds := by
  rw [task_eq] at h
  -- With the permit in hand, a cell looks once more whether the run was cancelled.
  obtain ⟨moment, goesOn⟩ := does_observe_bind.mp h
  split at goesOn
  · obtain rfl := does_record.mp goesOn
    exact .skipped moment.clock
  · obtain ⟨p, calls, released, last, rfl, arrives, release⟩ := lives_of_does_goAlong goesOn
    exact .went last arrives release

/-- A terminal cell gets a result of its own, passed or failed. Skipped are only cells that never
began. -/
theorem status_result (clock : Nat) (terminal : p.state.isTerminal = true) :
    (p.result clock).status = .pass ∨ (p.result clock).status = .fail := by
  cases e : p.state <;> simp_all [result, verdict, CellState.isTerminal]

/-- Only a completed cell passes. -/
theorem status_result_eq_pass_iff {clock : Nat} :
    (p.result clock).status = .pass ↔ ∃ container, p.state = .completed container := by
  show (verdict p.state).1 = .pass ↔ _
  cases p.state with
  | completed container => exact ⟨fun _ => ⟨container, rfl⟩, fun _ => rfl⟩
  | _ => exact ⟨nofun, nofun⟩

/-- Giving the container up hands in no result. -/
theorem filterMap_result?_of_release {released : List Deed}
    (release : Does (p.release ctx) released ()) : released.filterMap Deed.result? = [] := by
  rw [List.filterMap_eq_nil_iff]
  intro d mem
  obtain ⟨c, reply, -, rfl⟩ := isRelease_of_mem_release release mem
  rfl

/-- A cell that has gone its way hands in one result. On its way it hands in none, and neither
does the release. -/
theorem Arrives.results {calls released : List Deed} {r : CellResult}
    (arrives : Arrives ctx cell p calls) (none : released.filterMap Deed.result? = []) :
    (calls ++ .recorded r :: released).filterMap Deed.result? = [r] := by
  rw [List.filterMap_append, filterMap_result?_of_work arrives.history.work, List.nil_append]
  show r :: released.filterMap Deed.result? = [r]
  rw [none]

/-- In its life a cell hands in one result, its own: it passed, it failed, or it was
skipped. -/
theorem Lives.results (h : Lives ctx cell ds) :
    ∃ r, ds.filterMap Deed.result? = [r] ∧ r.cell = cell ∧ (r.status = .pass ∨
      r.status = .fail ∨ ∃ clock, r = .skipped cell abortReason (.ofNanoseconds clock)) := by
  cases h with
  | skipped clock => exact ⟨_, rfl, rfl, .inr (.inr ⟨clock, rfl⟩)⟩
  | @went p calls released clock arrives release =>
    refine ⟨p.result clock, arrives.results (filterMap_result?_of_release release),
      arrives.own, ?_⟩
    exact (status_result clock arrives.terminal).imp id .inl

/-- A cell that has lived its life gave up the container it was handed. -/
theorem Lives.released {c : Container} {image : ImageTag} {options : StartOptions}
    (life : Lives ctx cell ds) (mem : .called (.start image options) (.ok c) ∈ ds) :
    ∃ released, Releases ctx c released ∧ ∀ d ∈ released, d ∈ ds := by
  cases life with
  | skipped clock => cases List.mem_singleton.mp mem
  | @went p calls released clock arrives release =>
    -- The release is of the container the cell ended with, which is the one it was handed.
    have gives : ∀ {c'}, p.state.container? = some c' → Releases ctx c' released :=
      fun holds => (does_release_some holds).mp release
    have inCalls : .called (.start image options) (.ok c) ∈ calls := by
      rcases List.mem_append.mp mem with inside | behind
      · exact inside
      · rcases List.mem_cons.mp behind with same | behind
        · cases same
        · obtain ⟨c', reply, releases, same⟩ := isRelease_of_mem_release release behind
          cases same
          cases releases
    cases holds : p.state.container? with
    | none => exact absurd inCalls (arrives.history.unstarted holds).not_start_mem
    | some c' =>
      obtain rfl := (arrives.history.equipped holds).eq_of_start_mem inCalls
      exact ⟨released, gives holds, fun d inside => by simp [inside]⟩

/-! ### Unfinished lives -/

/-- Every path of a cell is the beginning of a life. The path is taken to an end, with any
answers, and that end is a life. -/
theorem lives_of_path {log : Program.Transcript CellAnswer} {rest : CellProgram Unit}
    (path : Program.Path (task ctx cell) log rest) :
    ∃ more, Does rest more () ∧ Lives ctx cell (deeds log ++ more) := by
  -- Whatever is left can be carried to its end, since every question has an answer.
  obtain ⟨later, u, onward⟩ := Program.Path.complete rest
  refine ⟨deeds later, ⟨later, onward, rfl⟩, ?_⟩
  exact lives_of_does ⟨log ++ later, path.trans onward, deeds_append log later⟩

/-- A path that has come to its end is a life. -/
theorem lives_of_finished {log : Program.Transcript CellAnswer}
    (path : Program.Path (task ctx cell) log (.pure ())) : Lives ctx cell (deeds log) :=
  lives_of_does ⟨log, path, rfl⟩

/-- A cell that stands at a call is on its way, with nothing handed in and nothing given
up, or at the call of its release, with its result handed in. -/
theorem stands_at_call {log : Program.Transcript CellAnswer} {c : Call}
    {next : c.Reply → CellProgram Unit}
    (path : Program.Path (task ctx cell) log (.ask (.call c) next)) :
    (c.isRelease = false ∧ ∀ d ∈ deeds log, d.IsWork) ∨
      ∃ (p : Pipeline) (calls : List Deed) (clock : Nat) (container : Container),
        c = releaseCall ctx container ∧ deeds log = calls ++ [.recorded (p.result clock)] ∧
          Arrives ctx cell p calls ∧ p.state.container? = some container := by
  -- The path is completed to a life, in which the call is one of the deeds. Where in the
  -- life it stands tells what came before it.
  obtain ⟨later, u, onward⟩ := Program.Path.complete (next (c.failed (.timeout "")))
  have life := lives_of_finished ((path.answer _).trans onward)
  rw [deeds_append, deeds_append, List.append_assoc] at life
  generalize whole_eq : deeds log ++ (deeds [⟨.call c, c.failed (.timeout "")⟩] ++ deeds later)
    = whole at life
  cases life with
  | skipped clock =>
    -- A skipped cell makes no call.
    cases e : deeds log with
    | nil => rw [e] at whole_eq; cases whole_eq
    | cons d ds => rw [e] at whole_eq; simp at whole_eq
  | @went p calls released clock arrives release =>
    rcases append_cons_cases whole_eq.symm nofun with ⟨rest, rfl⟩ | ⟨rest, log_eq, released_eq⟩
    · -- The call comes before the result, so it is one of the way.
      have work := arrives.history.work
      refine .inl ⟨?_, fun d mem => work d (List.mem_append_left _ mem)⟩
      obtain ⟨c', reply, none, same⟩ := work _ (List.mem_append_right _ List.mem_cons_self)
      cases same
      exact none
    · -- The call comes behind the result, so it is the release of the container.
      cases holds : p.state.container? with
      | none =>
        rw [(does_release_none holds).mp release] at released_eq
        simp at released_eq
      | some container =>
        obtain ⟨reply, single⟩ := ((does_release_some holds).mp release).eq_singleton
        rw [single] at released_eq
        cases rest with
        | nil =>
          obtain ⟨same, -⟩ := List.cons.inj released_eq
          cases same
          exact .inr ⟨p, calls, clock, container, rfl, log_eq, arrives, holds⟩
        | cons d rest => simp at released_eq

/-- A cell is skipped only if it saw its run cancelled, in the look that it begins with. -/
theorem seen_cancelled_of_skipped {log : Program.Transcript CellAnswer}
    {rest : CellProgram Unit} {r : CellResult}
    (path : Program.Path (task ctx cell) log rest) (mem : .recorded r ∈ deeds log)
    (skipped : r.status = .skipped) :
    ∃ moment : Moment, ⟨.observe, moment⟩ ∈ log ∧ moment.cancelled = true := by
  rw [task_eq] at path
  rcases Program.Path.of_ask path with ⟨rfl, -⟩ | ⟨moment, later, rfl, onward⟩
  · cases mem
  · refine ⟨moment, List.mem_cons_self, ?_⟩
    cases seen : moment.cancelled with
    | true => rfl
    | false =>
      -- A cell that saw no cancellation goes its way and hands in that it passed or failed.
      exfalso
      change Program.Path (if moment.cancelled then _ else goAlong ctx cell moment.clock) _ _
        at onward
      rw [seen] at onward
      obtain ⟨more, u, finish⟩ := Program.Path.complete rest
      have goes : Does (goAlong ctx cell moment.clock) (deeds (later ++ more)) u :=
        ⟨later ++ more, onward.trans finish, rfl⟩
      obtain ⟨p, calls, released, last, whole_eq, arrives, release⟩ := lives_of_does_goAlong goes
      have results := arrives.results (r := p.result last) (filterMap_result?_of_release release)
      rw [← whole_eq, deeds_append] at results
      have handedIn : r ∈ (deeds later ++ deeds more).filterMap Deed.result? :=
        List.mem_filterMap.mpr ⟨.recorded r, List.mem_append_left _ mem, rfl⟩
      rw [results] at handedIn
      obtain rfl := List.mem_singleton.mp handedIn
      rcases status_result last arrives.terminal with pass | fail <;> simp_all

end Pipeline

end InstallMatrix
