import InstallMatrix.Proofs.Gateway.Memory
import InstallMatrix.Proofs.Run.Ending
import InstallMatrix.Run.Rehearsal

/-!
# `InstallMatrix.Proofs.Run.Rehearsal`: what an event of a rehearsal does

`Rehearsal.Occurs` lists what may happen in a rehearsal, one case for each kind of event
with all that the event waits for, and `occurs_of_step` says that `Rehearsal.step` does
nothing else. What later modules know of an event, they know by these cases.

Few of the events matter to the containers. `RunState.Touches` lists what an event may do
to the run and to the books of the gateway: a container is handed over, removed or
retained, all that is live is swept away, or nothing of the kind happens.
`touches_of_step` says that there is nothing else, unless the sweep is made to fail.
-/

set_option autoImplicit false

namespace InstallMatrix

open CellProgram MemoryGateway

/-- A deed that changes nothing about which containers there are. A start that failed is quiet,
and so is a removal that failed. -/
def Deed.IsQuiet : Deed → Prop
  | .called (.start _ _) (.ok _) => False
  | .called (.remove _) (.ok _) => False
  | .called (.retain _) _ => False
  | _ => True

namespace RunState

variable {s t : RunState} {e : RunEvent} {b b' : Books}

/-! ### What an event does -/

/-- The deeds of every task as they were, with quiet ones behind. Most events are of this kind. -/
def GrowsQuietly (s t : RunState) : Prop :=
  ∀ j, ∃ new, t.deeds j = s.deeds j ++ new ∧ ∀ d ∈ new, d.IsQuiet

/-- A call of a task was answered: the task stood at the call, the answer is its deed now, and
nobody else did anything. -/
structure Answered (s t : RunState) (i : Nat) (c : Call) (reply : c.Reply) : Prop where
  stands : ∃ cell next, s.tasks[i]? = some ⟨cell, .running (.ask (.call c) next)⟩
  happened : ∃ e, Happens s e t
  unswept : t.finished = s.finished
  deeds : ∀ j, t.deeds j = s.deeds j ++ if j = i then [.called c reply] else []

/-- A task that stands at a call is running, and the call is what its program asks next. -/
theorem callOf?_eq_some {i : Nat} {c : Call} (h : s.callOf? i = some c) :
    ∃ cell next, s.tasks[i]? = some ⟨cell, .running (.ask (.call c) next)⟩ := by
  unfold callOf? at h
  split at h
  · next cell c' next stands =>
    cases h
    exact ⟨cell, next, stands⟩
  · cases h

/-- The note of an answered call is one more deed of its task, and changes the deeds of no other.
-/
theorem deeds_note_answered (s : RunState) (i : Nat) (c : Call) (reply : c.Reply) (j : Nat) :
    (s.note (.answered i c reply)).deeds j
      = s.deeds j ++ if j = i then [.called c reply] else [] := by
  rw [← filterMap_answered i j c reply]
  exact List.filterMap_append

/-- The call a task stands at may be answered, with any reply. So it is for the gateway to say
what comes. -/
theorem exists_answered {i : Nat} {c : Call} (h : s.callOf? i = some c) (reply : c.Reply) :
    ∃ t, s.step (.reply i (c.answering reply)) = some t ∧ Answered s t i c reply := by
  obtain ⟨cell, next, stands⟩ := callOf?_eq_some h
  have happens := Happens.reply (c.answering reply) stands
  refine ⟨_, happens.step_eq, ⟨cell, next, stands⟩, ⟨_, happens⟩, rfl, fun j => ?_⟩
  rw [c.answering_self reply]
  exact deeds_note_answered s i c reply j

/-- An answer to the call a task stands at adds one deed to that task, and changes nothing else
that matters for the containers. -/
theorem Happens.answered {i : Nat} {c : Call} {reply : c.Reply}
    (happens : Happens s (.reply i (c.answering reply)) t) (stands : s.callOf? i = some c) :
    Answered s t i c reply := by
  obtain ⟨t', stepped, answered⟩ := exists_answered stands reply
  rw [happens.step_eq] at stepped
  cases stepped
  exact answered

/-- A build that is given up is answered with an error. -/
theorem answered_of_abandon {i : Nat} (happens : Happens s (.abandon i) t) :
    ∃ d error, Answered s t i (.build d) (.error error) := by
  have happened := happens
  cases happens with
  | @abandon i cell d next stands cancelled =>
    exact ⟨d, _, ⟨cell, next, stands⟩, ⟨_, happened⟩, rfl, deeds_note_answered s i (.build d) _⟩

/-- An answer that changes nothing about the containers. -/
theorem Answered.growsQuietly {i : Nat} {c : Call} {reply : c.Reply} (h : Answered s t i c reply)
    (quiet : (Deed.called c reply).IsQuiet) : GrowsQuietly s t := by
  intro j
  refine ⟨_, h.deeds j, fun d mem => ?_⟩
  split at mem
  · rw [List.mem_singleton.mp mem]
    exact quiet
  · cases mem

/-- Where no task did anything, the deeds have grown quietly. -/
theorem growsQuietly_of_same (same : ∀ j, t.deeds j = s.deeds j) : GrowsQuietly s t :=
  fun j => ⟨[], by rw [same, List.append_nil], by simp⟩

/-- Handing in a result changes nothing about the containers. -/
theorem growsQuietly_of_recorded {i : Nat} {r : CellResult}
    (grows : Grows s t [.recorded (some i) r]) : GrowsQuietly s t := by
  intro j
  refine ⟨_, grows.deeds_eq j, fun d mem => ?_⟩
  rw [filterMap_recorded] at mem
  split at mem
  · rw [List.mem_singleton.mp mem]
    trivial
  · cases mem

/-- What passes between the run and its tasks alone changes nothing about the
containers. -/
theorem growsQuietly_of_inner (happens : Happens s e t) (inner : e.isInner = true) :
    GrowsQuietly s t := by
  -- Answers and breaks come from the gateway, so no inner event brings one.
  cases happens with
  | @take entry planned clock next =>
    refine growsQuietly_of_same fun j => ?_
    cases entry with
    | run cell => rfl
    | skip cell reason => simp [deeds, takeUp, record, note, RunEntry.deedOf?]
  | grant waits free => exact growsQuietly_of_same fun j => rfl
  | abort clock waits cancelled => exact growsQuietly_of_recorded ⟨rfl, id, rfl, rfl⟩
  | look clock stands => exact growsQuietly_of_same fun j => rfl
  | handIn clock stands => exact growsQuietly_of_recorded ⟨rfl, id, rfl, rfl⟩
  | cancel =>
    exact growsQuietly_of_same fun j => ((grows_cancel s).deeds_eq j).trans (List.append_nil _)
  | reply | abandon | panic | finish => cases inner

/-- What passes between the run and its tasks alone answers no call. A call that was answered
afterwards was answered before. -/
theorem called_mem_of_inner {i : Nat} {c : Call} {reply : c.Reply} (happens : Happens s e t)
    (inner : e.isInner = true) (mem : .called c reply ∈ t.deeds i) : .called c reply ∈ s.deeds i := by
  have recorded {j : Option Nat} {r : CellResult} (grows : Grows s t [.recorded j r]) :
      .called c reply ∈ s.deeds i := by
    rw [grows.deeds_eq] at mem
    refine (List.mem_append.mp mem).resolve_right fun fresh => ?_
    obtain ⟨entry, noted, deed⟩ := List.mem_filterMap.mp fresh
    rw [RunEntry.deedOf?_eq_some_iff, List.mem_singleton.mp noted] at deed
    cases deed
  cases happens with
  | @take entry planned clock next =>
    cases entry with
    | run cell => exact mem
    | skip cell reason => exact recorded ⟨rfl, id, rfl, rfl⟩
  | grant | look => exact mem
  | abort | handIn => exact recorded ⟨rfl, id, rfl, rfl⟩
  | cancel =>
    rw [(grows_cancel s).deeds_eq] at mem
    exact List.append_nil (s.deeds i) ▸ mem
  | reply | abandon | panic | finish => cases inner

/-- Finishing a run is no task's deed. -/
theorem deeds_eq_of_finish {removed : Except GatewayError Nat} {clock : Nat}
    (happens : Happens s (.finish removed clock) t) (i : Nat) : t.deeds i = s.deeds i := by
  cases happens with
  | finish _ _ taken ended => exact (concludes_complete taken ended removed).deeds i

/-- Breaking off adds nothing to what was done. -/
theorem deeds_eq_of_panic {i : Nat} (happens : Happens s (.panic i) t) (j : Nat) :
    t.deeds j = s.deeds j := by
  cases happens with
  | panic stands => simp [deeds, note, RunEntry.deedOf?]

/-- A task that breaks off adds no deed. -/
theorem growsQuietly_of_panic {i : Nat} (happens : Happens s (.panic i) t) :
    GrowsQuietly s t :=
  growsQuietly_of_same (deeds_eq_of_panic happens)

/-- A call that is given up is answered with an error. So it changes nothing about the
containers, and no image comes of it. -/
theorem answered_of_resume? {i : Nat} (given : s.resume? i = some e) (happens : Happens s e t) :
    ∃ (c : Call) (reply : c.Reply), Answered s t i c reply ∧ (Deed.called c reply).IsQuiet ∧
      ∀ {d image}, Deed.called c reply ≠ .called (.build d) (.ok image) := by
  unfold resume? at given
  -- A build is given up by the run, any other call by what the gateway says instead.
  split at given
  · cases given
    obtain ⟨d, error, answered⟩ := answered_of_abandon happens
    exact ⟨.build d, .error error, answered, trivial, nofun⟩
  · next cell c next _ stands =>
    obtain ⟨reply, interrupted, rfl⟩ := Option.map_eq_some_iff.mp given
    have called : s.callOf? i = some c := by
      unfold callOf?
      rw [stands]
    refine ⟨c, reply, happens.answered called, ?_⟩
    cases c with
    | build d =>
      cases interrupted
      exact ⟨trivial, nofun⟩
    | exec container command => exact ⟨trivial, nofun⟩
    | start | logs | remove | retain => cases interrupted
  · cases given

/-- What an event of a rehearsal does to the run and to the books. There are few ways to touch a
container: to start it, to remove it, to retain it, and to sweep it. -/
inductive Touches (s : RunState) (b : Books) : RunState → Books → Prop
  | still : Touches s b s b
  | quiet {e : RunEvent} {t : RunState} (happens : Happens s e t)
      (unswept : t.finished = s.finished) (quiet : GrowsQuietly s t) : Touches s b t b
  | started {i : Nat} {image : ImageTag} {options : StartOptions} {c : Container} {t : RunState}
      (answered : Answered s t i (.start image options) (.ok c)) (next : c.id = idOf b.started) :
      Touches s b t (b.start c)
  | removed {i : Nat} {c : Container} {t : RunState}
      (answered : Answered s t i (.remove c) (.ok ())) : Touches s b t (b.remove c)
  | retained {i : Nat} {c : Container} {t : RunState}
      (answered : Answered s t i (.retain c) ()) : Touches s b t (b.retain c)
  | swept {removed : Except GatewayError Nat} {clock : Nat} {t : RunState}
      (happens : Happens s (.finish removed clock) t) : Touches s b t b.sweep

/-- What an event of a rehearsal does is nothing, or an event of the run. -/
theorem Touches.eq_or_happens (h : Touches s b t b') : t = s ∨ ∃ e, Happens s e t := by
  cases h with
  | still => exact .inl rfl
  | quiet happens same grows => exact .inr ⟨_, happens⟩
  | started answered | removed answered | retained answered => exact .inr answered.happened
  | swept happens => exact .inr ⟨_, happens⟩

/-- A quiet call changes the deeds and leaves the books as they are. -/
theorem Answered.touches {i : Nat} {c : Call} {reply : c.Reply} (h : Answered s t i c reply)
    (quiet : (Deed.called c reply).IsQuiet) : Touches s b t b := by
  obtain ⟨e, happens⟩ := h.happened
  exact .quiet happens h.unswept (h.growsQuietly quiet)

/-- An event that happens is the one the state computes, for no event can go two ways. -/
theorem Happens.happen_eq (h : Happens s e t) : s.happen e = t := by
  unfold happen
  rw [h.step_eq]
  rfl

/-- A served call that is replied to is answered to the task that stands at it. Nothing more is
held than before. -/
theorem exists_afterServe_replied {i : Nat} {c : Call} (stands : s.callOf? i = some c)
    (reply : c.Reply) (held : List Nat) :
    ∃ t, Happens s (.reply i (c.answering reply)) t ∧
      s.afterServe held i c ⟨false, .replied reply⟩ = (t, held) := by
  obtain ⟨t, stepped, -⟩ := exists_answered stands reply
  have happens := happens_of_step stepped
  exact ⟨t, happens, congrArg (·, held) happens.happen_eq⟩

/-- A served call that panics breaks off the task that stands at it. -/
theorem exists_afterServe_panicked {i : Nat} {c : Call} (stands : s.callOf? i = some c)
    (held : List Nat) :
    ∃ t, Happens s (.panic i) t ∧ s.afterServe held i c ⟨false, .panicked⟩ = (t, held) := by
  obtain ⟨cell, next, found⟩ := callOf?_eq_some stands
  have happens := Happens.panic found
  exact ⟨_, happens, congrArg (·, held) happens.happen_eq⟩

/-- A served call that is replied to touches what the answer touches. What that is depends on the
kind of the call, and is left to whoever cites this lemma. -/
theorem touches_of_replied {i : Nat} {c : Call} {held : List Nat} (stands : s.callOf? i = some c)
    (reply : c.Reply) (touches : ∀ {t}, Answered s t i c reply → Touches s b t b') :
    Touches s b (s.afterServe held i c ⟨false, .replied reply⟩).1 b' := by
  obtain ⟨t, happens, after⟩ := exists_afterServe_replied stands reply held
  rw [after]
  exact touches (happens.answered stands)

/-- Whatever a call comes to, it touches no container if no reply to it does. -/
theorem touches_of_quiet_call {i : Nat} {c : Call} {held : List Nat}
    (stands : s.callOf? i = some c) (quiet : ∀ reply : c.Reply, (Deed.called c reply).IsQuiet)
    (outcome : Outcome c) : Touches s b (s.afterServe held i c ⟨false, outcome⟩).1 b := by
  cases outcome with
  | replied reply =>
    exact touches_of_replied stands reply fun answered => answered.touches (quiet reply)
  | panicked =>
    obtain ⟨t, happens, after⟩ := exists_afterServe_panicked stands held
    rw [after]
    exact .quiet happens (happens.finished_eq (by simp)) (growsQuietly_of_panic happens)
  | held => exact .still

/-- What a call does that reaches the gateway. The cases are the kinds of calls; only starts,
removals and retentions show in the books. -/
theorem touches_of_afterServe {g g' : MemoryGateway} {i : Nat} {c : Call} {outcome : Outcome c}
    {held : List Nat} (stands : s.callOf? i = some c)
    (served : g.serve s.cancelled c = (outcome, g')) :
    Touches s g.books (s.afterServe held i c ⟨false, outcome⟩).1 g'.books := by
  have left : (g.serve s.cancelled c).2 = g' := congrArg Prod.snd served
  cases c with
  | build d =>
    rw [← left, books_serve_build]
    exact touches_of_quiet_call stands (fun _ => trivial) outcome
  | exec container command =>
    rw [← left, books_serve_exec]
    exact touches_of_quiet_call stands (fun _ => trivial) outcome
  | logs container =>
    rw [← left, books_serve_logs]
    exact touches_of_quiet_call stands (fun _ => trivial) outcome
  | start image options =>
    have reply := served.symm
    -- A start fails and leaves the books alone, or enters the next container.
    rcases g.start_cases image options with ⟨error, started⟩ | ⟨c, g'', started, next, noted⟩
    · simp only [serve, started, Prod.mk.injEq] at reply
      obtain ⟨rfl, rfl⟩ := reply
      exact touches_of_replied stands (.error error) fun answered => answered.touches trivial
    · simp only [serve, started, Prod.mk.injEq] at reply
      obtain ⟨rfl, rfl⟩ := reply
      rw [noted]
      exact touches_of_replied stands (.ok c) fun answered => .started answered next
  | remove container =>
    rw [serve_remove] at served
    cases served
    rw [books_remove]
    exact touches_of_replied stands (.ok ()) .removed
  | retain container =>
    rw [serve_retain] at served
    cases served
    rw [books_retain]
    exact touches_of_replied stands () .retained

end RunState

namespace Rehearsal

open RunState

variable {r q : Rehearsal} {e : RehearsalEvent}

/-! ### Events -/

/-- `Occurs r e q`: in the rehearsal `r` the event `e` may occur, and `q` comes of it. Each case
names what the event waits for and what happens in the run, and writes the gateway out. -/
inductive Occurs (r : Rehearsal) : RehearsalEvent → Rehearsal → Prop
  | inner {e : RunEvent} {t : RunState} (inner : e.isInner = true) (happens : Happens r.run e t) :
      Occurs r (.inner e) ⟨t, r.gateway, r.held⟩
  | serve {i : Nat} {c : Call} (stands : r.run.callOf? i = some c)
      (free : r.held.contains i = false) :
      Occurs r (.serve i)
        ⟨(r.run.afterServe r.held i c ⟨false, (r.gateway.serve r.run.cancelled c).1⟩).1,
          (r.gateway.serve r.run.cancelled c).2,
          (r.run.afterServe r.held i c ⟨false, (r.gateway.serve r.run.cancelled c).1⟩).2⟩
  | begin {i : Nat} {d : Definition} (stands : r.run.callOf? i = some (.build d))
      (slow : r.gateway.behaviour.slowBuild = true) (free : r.held.contains i = false) :
      Occurs r (.begin i) ⟨r.run, r.gateway.requestBuild d, r.held ++ [i]⟩
  | complete {i : Nat} {d : Definition} {t : RunState}
      (stands : r.run.callOf? i = some (.build d)) (held : r.held.contains i = true)
      (happens :
        Happens r.run (.reply i ((Call.build d).answering (r.gateway.finishBuild d).1)) t) :
      Occurs r (.complete i) ⟨t, (r.gateway.finishBuild d).2, r.held.erase i⟩
  | giveUp {i : Nat} {e : RunEvent} {t : RunState} (cancelled : r.run.cancelled = true)
      (waits : r.waits i = true) (given : r.run.resume? i = some e)
      (happens : Happens r.run e t) : Occurs r (.giveUp i) ⟨t, r.gateway, r.held.erase i⟩
  | fail {i : Nat} {c : Call} {error : GatewayError} {t : RunState}
      (stands : r.run.callOf? i = some c) (retains : ∀ container, c ≠ .retain container)
      (free : r.held.contains i = false)
      (happens : Happens r.run (.reply i (c.answering (c.failed error))) t) :
      Occurs r (.fail i error) ⟨t, r.gateway, r.held⟩
  | panic {i : Nat} {t : RunState} (free : r.held.contains i = false)
      (happens : Happens r.run (.panic i) t) : Occurs r (.panic i) ⟨t, r.gateway, r.held⟩
  | sweep {clock : Nat} {t : RunState}
      (happens : Happens r.run (.finish (.ok r.gateway.sweep.1) clock) t) :
      Occurs r (.sweep clock) ⟨t, r.gateway.sweep.2, r.held⟩
  | sweepFails {error : GatewayError} {clock : Nat} {t : RunState}
      (happens : Happens r.run (.finish (.error error) clock) t) :
      Occurs r (.sweepFails error clock) ⟨t, r.gateway, r.held⟩

/-- `stepRun` is an event of the run, and leaves the gateway and the held calls alone. -/
theorem exists_happens_of_stepRun {event : RunEvent} (h : r.stepRun event = some q) :
    ∃ t, Happens r.run event t ∧ q = ⟨t, r.gateway, r.held⟩ := by
  obtain ⟨t, stepped, rfl⟩ := Option.map_eq_some_iff.mp h
  exact ⟨t, happens_of_step stepped, rfl⟩

/-- What `step` does, `Occurs` lists. Every proof about an event of a rehearsal goes by these
cases, and none by the branches of `step`. -/
theorem occurs_of_step (h : r.step e = some q) : Occurs r e q := by
  -- As in `happens_of_step`, every event has one arm, and its guards are split off in order.
  cases e with
  | inner event =>
    simp only [step] at h
    split at h
    · next inner =>
      obtain ⟨t, happens, rfl⟩ := exists_happens_of_stepRun h
      exact .inner inner happens
    · cases h
  | serve i =>
    simp only [step] at h
    split at h
    · next c stands =>
      split at h
      · cases h
      · next free =>
        cases h
        exact .serve stands (Bool.eq_false_of_not_eq_true free)
    · cases h
  | begin i =>
    simp only [step] at h
    split at h
    · next d stands =>
      split at h
      · next guard =>
        rw [Bool.and_eq_true, Bool.not_eq_true'] at guard
        cases h
        exact .begin stands guard.1 guard.2
      · cases h
    · cases h
  | complete i =>
    simp only [step] at h
    split at h
    · next d stands =>
      split at h
      · next held =>
        obtain ⟨t, happens, rfl⟩ := exists_happens_of_stepRun h
        exact .complete stands held happens
      · cases h
    · cases h
  | giveUp i =>
    simp only [step] at h
    split at h
    · next guard =>
      obtain ⟨cancelled, waits⟩ := Bool.and_eq_true_iff.mp guard
      obtain ⟨event, given, ran⟩ := Option.bind_eq_some_iff.mp h
      obtain ⟨t, happens, rfl⟩ := exists_happens_of_stepRun ran
      exact .giveUp cancelled waits given happens
    · cases h
  | fail i error =>
    simp only [step] at h
    split at h
    · cases h
    · next c retains stands =>
      split at h
      · cases h
      · next free =>
        obtain ⟨t, happens, rfl⟩ := exists_happens_of_stepRun h
        exact .fail stands retains (Bool.eq_false_of_not_eq_true free) happens
    · cases h
  | panic i =>
    simp only [step] at h
    split at h
    · cases h
    · next free =>
      obtain ⟨t, happens, rfl⟩ := exists_happens_of_stepRun h
      exact .panic (Bool.eq_false_of_not_eq_true free) happens
  | sweep clock =>
    obtain ⟨t, happens, rfl⟩ := exists_happens_of_stepRun h
    exact .sweep happens
  | sweepFails error clock =>
    obtain ⟨t, happens, rfl⟩ := exists_happens_of_stepRun h
    exact .sweepFails happens

/-- Every event does what `Touches` lists, unless it is a sweep made to fail. -/
theorem touches_of_step (h : r.step e = some q)
    (sound : ∀ error clock, e ≠ .sweepFails error clock) :
    Touches r.run r.gateway.books q.run q.gateway.books := by
  -- Errors and panics strike before the gateway sees the call, so its books stay.
  cases occurs_of_step h with
  | inner inner happens =>
    refine .quiet happens (happens.finished_eq ?_) (growsQuietly_of_inner happens inner)
    -- Finishing a run is no inner event: it comes with the sweep.
    rintro removed clock rfl
    cases inner
  | serve stands => exact touches_of_afterServe stands rfl
  | begin =>
    -- The build is asked for and held. Its task still stands at the call.
    exact .still
  | @complete i d t stands held happens =>
    rw [books_finishBuild]
    exact (happens.answered stands).touches trivial
  | giveUp cancelled waits given happens =>
    obtain ⟨c, reply, answered, quiet, -⟩ := answered_of_resume? given happens
    exact answered.touches quiet
  | @fail i c error t stands retains free happens =>
    refine (happens.answered stands).touches ?_
    cases c with
    | retain container => exact absurd rfl (retains container)
    | build | start | exec | logs | remove => trivial
  | panic free happens =>
    exact .quiet happens (happens.finished_eq (by simp)) (growsQuietly_of_panic happens)
  | sweep happens =>
    rw [books_sweep]
    exact .swept happens
  | sweepFails => exact absurd rfl (sound _ _)

/-- What happens in a rehearsal is nothing to its run, or an event of it. -/
theorem run_eq_or_happens (h : r.step e = some q) :
    q.run = r.run ∨ ∃ event, Happens r.run event q.run := by
  by_cases sound : ∀ error clock, e ≠ .sweepFails error clock
  · exact (touches_of_step h sound).eq_or_happens
  · simp only [not_forall, not_not] at sound
    obtain ⟨error, clock, rfl⟩ := sound
    cases occurs_of_step h with
    | sweepFails happens => exact .inr ⟨_, happens⟩

/-- A run is still one after an event of its rehearsal. So all that is known of runs is known of
the run in a rehearsal. -/
theorem exists_run_reaches_step {s : RunState} (h : r.step e = some q)
    (run : ∃ events, RunState.Reaches s events r.run) :
    ∃ events, RunState.Reaches s events q.run := by
  obtain ⟨events, run⟩ := run
  rcases run_eq_or_happens h with same | ⟨event, happens⟩
  · exact ⟨events, same ▸ run⟩
  · exact ⟨_, run.trans (.step happens.step_eq (.here _))⟩

/-- What every event keeps, a rehearsal keeps. The induction on the events is made here once, and
every invariant of rehearsals goes through this lemma. -/
theorem Reaches.invariant (Holds : Rehearsal → Prop) {events : List RehearsalEvent}
    (keeps : ∀ {r e q}, Holds r → r.step e = some q → Holds q) (start : Holds r)
    (rehearsal : Reaches r events q) : Holds q := by
  induction rehearsal with
  | here r => exact start
  | step first rest ih => exact ih (keeps start first)

end Rehearsal

end InstallMatrix
