import InstallMatrix.Proofs.Catalog.Label
import InstallMatrix.Proofs.Run.Containers
import InstallMatrix.Proofs.Run.Permits

/-!
# `InstallMatrix.Proofs.Run.Recording`: the result before the release

A task hands in its result before it gives its container up. What it leaves behind is removed
by the final sweep, and then it depends on how the task ended whether there is a result already.

* `exists_note`: an entry of the journal goes back to an event in an earlier state, in which it
  was warranted. So what is known of a state is known of what was noted before an entry.
* `Faithful.reportedIn_of_release`: a task that stands at the call of its release has handed in
  its result.
* `journal_of_finished`: what is noted behind a sweep are the cells that no result names by its
  label.

`recorded_before_release` puts these together: a task that broke off before its result is the
one exception, and its result comes behind the sweep or, if another one has its label, not at
all. `swept_before_recorded` shows both.
-/

set_option autoImplicit false

namespace InstallMatrix

open CellProgram

/-- Is this the final sweep. -/
def RunEntry.isSweep : RunEntry → Bool
  | .swept _ => true
  | _ => false

namespace RunState

variable {s t : RunState} {e : RunEvent} {i : Nat} {c : Call}
  {before after : List RunEntry} {entry : RunEntry}

/-! ### When an entry was noted -/

/-- On its way from `first` to `t` the run came to `u`, and there an event noted the entry, with
`before` noted already. -/
structure Noted (first t : RunState) (before : List RunEntry) (entry : RunEntry) (u : RunState) :
    Prop where
  earlier : ∃ events, Reaches first events u
  event : ∃ e v new rest, Happens u e v ∧ before = u.journal ++ new ∧
    v.journal = u.journal ++ (new ++ entry :: rest) ∧ ∃ events, Reaches v events t

/-- An entry of the journal was noted by an event, which added it to what stood before. -/
theorem exists_noted {first : RunState} {events : List RunEvent} (fresh : first.journal = [])
    (run : Reaches first events t) (noted : t.journal = before ++ entry :: after) :
    ∃ u, Noted first t before entry u := by
  suffices onward : ∀ {before entry after}, t.journal = before ++ entry :: after →
      ∃ u, Noted first t before entry u from onward noted
  refine run.invariant_along (fun t => ∀ {before entry after},
    t.journal = before ++ entry :: after → ∃ u, Noted first t before entry u) ?_ ?_
  · intro events s e t reached known happens before entry after noted
    obtain ⟨entries, grows⟩ := grows_of_happens happens
    rw [grows.journal] at noted
    -- The entry was there already, or it is one of the event's.
    rcases List.append_eq_append_iff.mp noted with ⟨new, rfl, own⟩ | ⟨old, split, rest⟩
    · refine ⟨s, ⟨events, reached⟩, e, t, new, after, happens, rfl, ?_, [], .here t⟩
      rw [grows.journal, own]
    · cases old with
      | nil =>
        refine ⟨s, ⟨events, reached⟩, e, t, [], after, happens, ?_, ?_, [], .here t⟩
        · rw [split, List.append_nil, List.append_nil]
        · rw [grows.journal]
          exact congrArg _ rest.symm
      | cons x old =>
        obtain ⟨rfl, -⟩ := List.cons.inj rest
        obtain ⟨u, earlier, e', v, new, rest, there, split, journal, later, onward⟩ := known split
        exact ⟨u, earlier, e', v, new, rest, there, split, journal, _,
          onward.trans (.step happens.step_eq (.here t))⟩
  · intro before entry after noted
    rw [fresh] at noted
    simp at noted

/-- Whatever is noted was warranted in the state it goes back to. A journal only grows, so each
entry has one state that it was noted in. -/
theorem Noted.warrants {first u : RunState} (h : Noted first t before entry u) :
    u.Warrants entry := by
  obtain ⟨e, v, new, rest, happens, -, journal, -⟩ := h.event
  obtain ⟨entries, grown, warranted⟩ := warrants_of_happens happens
  rw [grown] at journal
  refine warranted entry ?_
  rw [List.append_cancel_left journal]
  exact List.mem_append_right _ List.mem_cons_self

/-! ### Giving a container up -/

/-- Among these entries is a result of the task, for this cell. The entries are those before a
certain one, so `ReportedIn` is about what came earlier. -/
def ReportedIn (entries : List RunEntry) (i : Nat) (cell : Cell) : Prop :=
  ∃ r, .recorded (some i) r ∈ entries ∧ r.cell = cell

/-- Among these entries is the start of this container, which was handed to the task. -/
def HandedIn (entries : List RunEntry) (i : Nat) (container : Container) : Prop :=
  ∃ image options, .answered i (.start image options) (.ok container) ∈ entries

/-- What was reported stays reported when the journal grows. -/
theorem ReportedIn.mono {entries more : List RunEntry} {cell : Cell}
    (h : ReportedIn entries i cell) : ReportedIn (entries ++ more) i cell := by
  obtain ⟨r, mem, own⟩ := h
  exact ⟨r, List.mem_append_left _ mem, own⟩

/-- What was handed over stays handed over when the journal grows. -/
theorem HandedIn.mono {entries more : List RunEntry} {container : Container}
    (h : HandedIn entries i container) : HandedIn (entries ++ more) i container := by
  obtain ⟨image, options, mem⟩ := h
  exact ⟨image, options, List.mem_append_left _ mem⟩

/-- A task that stands at the call of its release was handed the container, and has handed in
its result. -/
theorem Faithful.reportedIn_of_release (h : Faithful s) (stands : s.StandsAt i c)
    (release : c.isRelease = true) :
    ∃ cell container, (s.tasks.map Task.cell)[i]? = some cell ∧
      c = Pipeline.releaseCall s.context container ∧ HandedIn s.journal i container ∧
        ReportedIn s.journal i cell := by
  obtain ⟨cell, next, found⟩ := stands
  obtain ⟨⟨log, path, deeds_eq, -⟩, -⟩ := h.follows found
  -- Before the result a task makes no such call, so the call is behind it.
  rcases Pipeline.stands_at_call path with ⟨works, -⟩ |
    ⟨p, calls, clock, container, called, deeds_log, arrives, holds⟩
  · rw [works] at release
    cases release
  · rw [deeds_log] at deeds_eq
    have deed : ∀ {d : Deed}, d ∈ calls ++ [.recorded (p.result clock)] →
        RunEntry.ofDeed i d ∈ s.journal :=
      fun mem => mem_deeds_iff.mp (deeds_eq ▸ mem)
    obtain ⟨image, options, start⟩ := (arrives.history.equipped holds).start_mem
    refine ⟨cell, container, ?_, called, ⟨image, options, ?_⟩, p.result clock, ?_, arrives.own⟩
    · rw [List.getElem?_map, found]
      rfl
    · exact deed (List.mem_append_left _ start)
    · exact deed (List.mem_append_right _ List.mem_cons_self)

/-! ### The sweep -/

/-- An event that finishes no run notes at most one entry, and no sweep. -/
theorem Happens.journal_eq (happens : Happens s e t)
    (other : ∀ removed clock, e ≠ .finish removed clock) :
    t.journal = s.journal ∨ ∃ entry, t.journal = s.journal ++ [entry] ∧ entry.isSweep = false := by
  cases happens with
  | @take entry planned clock next =>
    cases entry with
    | run cell => exact .inl rfl
    | skip cell reason => exact .inr ⟨_, rfl, rfl⟩
  | grant | look => exact .inl rfl
  | abort | handIn | reply | abandon | panic | cancel => exact .inr ⟨_, rfl, rfl⟩
  | finish removed clock => exact absurd rfl (other removed clock)

/-- A sweep is noted just by the event that finishes the run, in front of the results that were
left out. -/
theorem Happens.eq_complete_of_swept (happens : Happens s e t) {new rest : List RunEntry}
    {removed : Except GatewayError Nat}
    (noted : t.journal = s.journal ++ (new ++ .swept removed :: rest)) :
    new = [] ∧ s.planned = [] ∧ (∀ task ∈ s.tasks, task.isEnded = true) ∧
      ∃ clock, t = s.complete removed clock := by
  by_cases other : ∀ removed clock, e ≠ .finish removed clock
  · rcases happens.journal_eq other with same | ⟨entry, grown, unswept⟩
    · rw [same] at noted
      simp at noted
    · rw [grown] at noted
      have single : RunEntry.swept removed ∈ [entry] := by
        rw [List.append_cancel_left noted]
        exact List.mem_append_right _ List.mem_cons_self
      rw [← List.mem_singleton.mp single] at unswept
      cases unswept
  · simp only [not_forall, not_not] at other
    obtain ⟨removed', clock, rfl⟩ := other
    cases happens with
    | finish _ _ taken ended unfinished =>
      rw [(grows_complete s removed' clock).journal] at noted
      have entries := List.append_cancel_left noted
      cases new with
      | nil =>
        cases (List.cons.inj entries).1
        exact ⟨rfl, taken, ended, clock, rfl⟩
      | cons x new =>
        -- Behind the sweep there are results only.
        have behind : RunEntry.swept removed ∈
            s.unrecorded.map fun cell => .recorded none (recovered clock cell) := by
          rw [(List.cons.inj entries).2]
          exact List.mem_append_right _ List.mem_cons_self
        obtain ⟨cell, -, clash⟩ := List.mem_map.mp behind
        cases clash

/-- A finished run changes no more, but for being cancelled. So what the journal says up to the
end is all there is. -/
theorem Reaches.of_finished {events : List RunEvent} (run : Reaches s events t)
    (finished : s.finished = true) (planned : s.planned = [])
    (ended : ∀ task ∈ s.tasks, task.isEnded = true) :
    t.tasks = s.tasks ∧ ∃ n, t.journal = s.journal ++ List.replicate n .cancelled := by
  suffices onward : t.finished = true ∧ t.planned = [] ∧ t.tasks = s.tasks ∧
      ∃ n, t.journal = s.journal ++ List.replicate n .cancelled from onward.2.2
  refine run.invariant (fun t => t.finished = true ∧ t.planned = [] ∧ t.tasks = s.tasks ∧
    ∃ n, t.journal = s.journal ++ List.replicate n .cancelled) ?_
    ⟨finished, planned, rfl, 0, (List.append_nil _).symm⟩
  rintro u e v ⟨finished, planned, tasks, n, journal⟩ happens
  rw [eq_cancel_of_finished planned (tasks ▸ ended) finished happens]
  refine ⟨finished, planned, tasks, n + 1, ?_⟩
  rw [(grows_cancel u).journal, journal, List.replicate_succ', List.append_assoc]

/-- A cell is left out as long as no result names it by its label. -/
theorem mem_unrecorded_iff {cell : Cell} : cell ∈ s.unrecorded ↔
    cell ∈ s.tasks.map Task.cell ∧ ∀ r ∈ s.results.results, r.cell.label ≠ cell.label := by
  simp [unrecorded]

/-- What stands in the journal around a sweep: before it the run was ready to be finished, and
behind it are the results that were left out. -/
theorem Noted.swept {first u : RunState} {removed : Except GatewayError Nat}
    (h : Noted first t before (.swept removed) u)
    (noted : t.journal = before ++ .swept removed :: after) :
    u.journal = before ∧ (∀ task ∈ u.tasks, task.isEnded = true) ∧ t.tasks = u.tasks ∧
      ∃ clock n, after = (u.unrecorded.map fun cell => .recorded none (recovered clock cell))
        ++ List.replicate n .cancelled := by
  obtain ⟨e, v, new, rest, happens, rfl, journal, later, onward⟩ := h.event
  obtain ⟨rfl, taken, ended, clock, rfl⟩ := happens.eq_complete_of_swept journal
  obtain ⟨tasks, n, grown⟩ := onward.of_finished rfl taken ended
  refine ⟨(List.append_nil _).symm, ended, tasks, clock, n, ?_⟩
  rw [noted, (grows_complete u removed clock).journal, List.append_nil, List.append_assoc] at grown
  exact (List.cons.inj (List.append_cancel_left grown)).2

/-- A task has handed in its result before the sweep, or it broke off before. Then its result is
recorded behind the sweep, unless another result has its label. -/
theorem Noted.reportedIn_or_lost {first u : RunState} {removed : Except GatewayError Nat}
    (h : Noted first t before (.swept removed) u) (faithful : Faithful u)
    (noted : t.journal = before ++ .swept removed :: after) {task : Task}
    (found : t.tasks[i]? = some task) :
    ReportedIn before i task.cell ∨
      (∃ c, c.isRelease = false ∧ .panicked i c ∈ before) ∧
        (∀ r, .recorded (some i) r ∉ t.journal) ∧
        ((∃ clock, .recorded none (recovered clock task.cell) ∈ after) ↔
          ∀ r ∈ before.filterMap RunEntry.result?, r.cell.label ≠ task.cell.label) := by
  obtain ⟨rfl, ended, tasks, clock, n, rfl⟩ := h.swept noted
  rw [tasks] at found
  have mem : task ∈ u.tasks := List.mem_of_getElem? found
  -- At the sweep every task has ended: it handed in its result or broke off before that.
  rcases faithful.ended found (ended task mem) with ⟨r, reported⟩ | lost
  · refine .inl ⟨r, mem_reported_iff.mp ?_, reported.own⟩
    rw [reported.once]
    exact List.mem_singleton.mpr rfl
  · obtain ⟨c, broke, early⟩ := lost.early
    refine .inr ⟨⟨c, early, mem_breaks_iff.mp (broke ▸ List.mem_singleton.mpr rfl)⟩, ?_, ?_⟩
    · intro r handedIn
      have silent : .recorded (some i) r ∉ u.journal := by
        rw [← mem_reported_iff, lost.silent]
        exact List.not_mem_nil
      rw [noted] at handedIn
      simp [silent] at handedIn
    · rw [← faithful.results]
      have toRun : task.cell ∈ u.tasks.map Task.cell := List.mem_map_of_mem mem
      -- The run makes up for the tasks whose label no result has.
      constructor
      · rintro ⟨clock', recorded⟩
        rcases List.mem_append.mp recorded with left | cancelled
        · obtain ⟨cell, leftOut, same⟩ := List.mem_map.mp left
          rw [RunEntry.recorded.injEq] at same
          have own : cell = task.cell := congrArg CellResult.cell same.2
          exact own ▸ (mem_unrecorded_iff.mp leftOut).2
        · cases List.eq_of_mem_replicate cancelled
      · intro apart
        refine ⟨clock, List.mem_append_left _ (List.mem_map.mpr ⟨task.cell, ?_, rfl⟩)⟩
        exact mem_unrecorded_iff.mpr ⟨toRun, apart⟩

/-- **A result is recorded before its container is given up**, however the tasks of a run
interleave, whatever they are answered, whether they break off and whenever the run is
cancelled.

- A task that stands at the call of its release has handed in its result, and that is among the
  results.
- So before a call that removes or retains a container was answered, or its task broke off in
  it, that task was handed the container and handed in its result.
- Before the sweep, every task handed in its result, but those that broke off before they came
  to it. What is recorded of these comes behind the sweep, and nothing comes of those whose
  label a result has already. -/
theorem recorded_before_release {context : RunContext} {plan : List PlannedCell}
    {cancelled : Bool} {events : List RunEvent}
    (run : Reaches (start context plan cancelled) events t) :
    (∀ i c, t.StandsAt i c → c.isRelease = true → ∃ cell r,
      (t.tasks.map Task.cell)[i]? = some cell ∧ .recorded (some i) r ∈ t.journal ∧
        r ∈ t.results.results ∧ r.cell = cell) ∧
    (∀ before entry after i c, t.journal = before ++ entry :: after → c.isRelease = true →
      ((∃ reply, entry = .answered i c reply) ∨ entry = .panicked i c) →
        ∃ cell container, (t.tasks.map Task.cell)[i]? = some cell ∧
          c = Pipeline.releaseCall context container ∧ HandedIn before i container ∧
            ReportedIn before i cell) ∧
    ∀ before removed after i task, t.journal = before ++ .swept removed :: after →
      t.tasks[i]? = some task →
        ReportedIn before i task.cell ∨
          (∃ c, c.isRelease = false ∧ .panicked i c ∈ before) ∧
            (∀ r, .recorded (some i) r ∉ t.journal) ∧
            ((∃ clock, .recorded none (recovered clock task.cell) ∈ after) ↔
              ∀ r ∈ before.filterMap RunEntry.result?, r.cell.label ≠ task.cell.label) := by
  refine ⟨fun i c stands release => ?_, fun before entry after i c noted release is => ?_,
    fun before removed after i task noted found => ?_⟩
  · have faithful := faithful_of_reaches run
    obtain ⟨cell, container, found, -, -, r, recorded, own⟩ :=
      faithful.reportedIn_of_release stands release
    exact ⟨cell, r, found, recorded, faithful.mem_results (mem_reported_iff.mpr recorded), own⟩
  · obtain ⟨u, from_⟩ := exists_noted rfl run noted
    obtain ⟨earlier, reached⟩ := from_.earlier
    -- The state the entry goes back to has the task at its call.
    have stands : u.StandsAt i c := by
      have warrants := from_.warrants
      rcases is with ⟨reply, rfl⟩ | rfl <;> exact warrants
    obtain ⟨cell, container, found, called, handed, reported⟩ :=
      (faithful_of_reaches reached).reportedIn_of_release stands release
    obtain ⟨e, v, new, rest, happens, rfl, -, later, onward⟩ := from_.event
    rw [reached.context_eq] at called
    have same := onward.getElem?_cell (happens.getElem?_cell found)
    exact ⟨cell, container, same, called, handed.mono, reported.mono⟩
  · obtain ⟨u, from_⟩ := exists_noted rfl run noted
    obtain ⟨earlier, reached⟩ := from_.earlier
    exact from_.reportedIn_or_lost (faithful_of_reaches reached) noted found

/-- A journal with a sweep at this place is cut there. -/
theorem exists_eq_cut_of_isSweep {journal : List RunEntry} {n : Nat}
    (sweeps : (journal.drop n).head?.any RunEntry.isSweep = true) :
    ∃ removed after, journal = journal.take n ++ .swept removed :: after := by
  cases cut : journal.drop n with
  | nil =>
    rw [cut] at sweeps
    cases sweeps
  | cons entry after =>
    rw [cut] at sweeps
    cases entry with
    | swept removed => exact ⟨removed, after, by rw [← cut, List.take_append_drop]⟩
    | answered | recorded | panicked | cancelled => cases sweeps

/-- A container that a deed among the entries hands to the task. -/
theorem handedIn_of_deed {entries : List RunEntry} {container : Container}
    (mem : container ∈ entries.filterMap fun entry => (entry.deedOf? i).bind Deed.handed?) :
    HandedIn entries i container := by
  obtain ⟨entry, inside, hands⟩ := List.mem_filterMap.mp mem
  obtain ⟨d, deed, handed⟩ := Option.bind_eq_some_iff.mp hands
  obtain ⟨image, options, rfl⟩ := Deed.handed?_eq_some_iff.mp handed
  rw [RunEntry.deedOf?_eq_some_iff.mp deed] at inside
  exact ⟨image, options, inside⟩

/-- Root's cell passes and gives its container up, and then the user's task breaks off in its
first command. Its result comes behind the sweep. -/
theorem recorded_before_release_of_broken_command :
    ∃ events t before removed after, Reaches (start Sample.context
        [.run Sample.cell, .run { Sample.cell with identity := .user }] false) events t ∧
      t.journal = before ++ .swept removed :: after ∧ ReportedIn before 0 Sample.cell ∧
        ∃ clock, .recorded none (recovered clock { Sample.cell with identity := .user }) ∈ after := by
  let user : Cell := { Sample.cell with identity := .user }
  obtain ⟨t, run, ends⟩ : ∃ t, Reaches (start Sample.context
        [.run Sample.cell, .run user] false)
      [.take 0, .take 0, .grant 0, .proceed 0 1, .proceed 0 2, .proceed 0 3,
        .reply 0 Sample.hopeful, .proceed 0 4, .reply 0 Sample.hopeful, .proceed 0 5,
        .proceed 0 6, .reply 0 Sample.hopeful, .proceed 0 7, .reply 0 Sample.hopeful,
        .proceed 0 8, .reply 0 Sample.hopeful, .proceed 0 9, .proceed 0 10, .proceed 0 11,
        .proceed 0 12, .reply 0 Sample.hopeful, .grant 1, .proceed 1 13, .proceed 1 14,
        .proceed 1 15, .reply 1 Sample.hopeful, .proceed 1 16, .reply 1 Sample.hopeful,
        .proceed 1 17, .proceed 1 18, .proceed 1 19, .panic 1, .finish (.ok 1) 20] t ∧
      ((t.journal.drop 10).head?.any RunEntry.isSweep && (t.breaks 0).isEmpty
        && (t.reported 1).isEmpty && t.tasks.map Task.cell == [Sample.cell, user]
        && ((t.journal.take 10).filterMap RunEntry.result?).all
          fun r => r.cell.label != user.label) = true :=
    exists_reaches_of_after (by decide +kernel)
  simp only [Bool.and_eq_true, List.isEmpty_iff, beq_iff_eq, List.all_eq_true, bne_iff_ne] at ends
  obtain ⟨⟨⟨⟨sweeps, whole⟩, silent⟩, cells⟩, apart⟩ := ends
  obtain ⟨removed, after, noted⟩ := exists_eq_cut_of_isSweep sweeps
  obtain ⟨-, -, aroundSweep⟩ := recorded_before_release run
  -- Both cells have a task of their own, found at their places in the plan.
  have taskAt : ∀ {i : Nat} {cell : Cell}, [Sample.cell, user][i]? = some cell →
      ∃ task, t.tasks[i]? = some task ∧ task.cell = cell := by
    intro i cell at_
    rw [← cells, List.getElem?_map] at at_
    exact Option.map_eq_some_iff.mp at_
  obtain ⟨first, found, own⟩ := taskAt (i := 0) rfl
  obtain ⟨second, found', own'⟩ := taskAt (i := 1) rfl
  refine ⟨_, t, _, removed, after, run, noted, ?_, ?_⟩
  · rcases aroundSweep _ removed after 0 first noted found with reported | ⟨⟨c, -, broke⟩, -⟩
    · exact own ▸ reported
    · have inBreaks : c ∈ t.breaks 0 := by
        rw [mem_breaks_iff, noted]
        exact List.mem_append_left _ broke
      rw [whole] at inBreaks
      cases inBreaks
  · rcases aroundSweep _ removed after 1 second noted found' with ⟨r, recorded, -⟩ | ⟨-, -, iff⟩
    · have handedIn : r ∈ t.reported 1 := by
        rw [mem_reported_iff, noted]
        exact List.mem_append_left _ recorded
      rw [silent] at handedIn
      cases handedIn
    · rw [own'] at iff
      exact iff.mpr apart

end RunState

open RunState

/-- An engine at its best, which hands out a second container. -/
def Sample.hopefulAgain : (c : Call) → c.Reply
  | .start _ _ => .ok { container with id := "c2" }
  | c => hopeful c

/-- The sweep does not wait for the results of the tasks that broke off.

- The task of a lone cell breaks off in its first command: the container it was handed is swept
  away before anything is recorded, and only then the cell is recorded as failed.
- Two cells of a catalog share a label, the first one has passed, and the task of the second
  breaks off in its first command: its container is swept away, and nothing is ever recorded of
  the cell. The run ends with exit code zero. -/
theorem swept_before_recorded :
    (∃ events t before removed after container,
      Reaches (start Sample.context [.run Sample.cell] false) events t ∧ t.finished = true ∧
        t.journal = before ++ .swept removed :: after ∧ HandedIn before 0 container ∧
        before.filterMap RunEntry.result? = [] ∧
        after.filterMap RunEntry.result? = [recovered 10 Sample.cell]) ∧
    ∃ c plan, Catalog.ofList (Catalog.twins .x86_64) = .ok c ∧
      c.plan Catalog.rootOnly = .ok plan ∧
      .run (Catalog.twin "a" "b-c" .x86_64) ∈ plan ∧
      ∃ events t before removed after container,
        Reaches (start { Sample.context with catalog := c } plan false) events t ∧
          t.finished = true ∧ t.journal = before ++ .swept removed :: after ∧
          (t.tasks.map Task.cell)[1]? = some (Catalog.twin "a" "b-c" .x86_64) ∧
          HandedIn before 1 container ∧
          (∀ r ∈ t.results.results, r.cell ≠ Catalog.twin "a" "b-c" .x86_64) ∧
          t.results.exitCode = 0 := by
  constructor
  · -- A command breaks off with the container up. The sweep comes first, then the result.
    obtain ⟨t, run, ends⟩ : ∃ t, Reaches (start Sample.context [.run Sample.cell] false)
        [.take 0, .grant 0, .proceed 0 1, .proceed 0 2, .proceed 0 3, .reply 0 Sample.hopeful,
          .proceed 0 4, .reply 0 Sample.hopeful, .proceed 0 5, .proceed 0 6, .panic 0,
          .finish (.ok 1) 10] t ∧
        ((t.journal.drop 3).head?.any RunEntry.isSweep && t.finished
          && ((t.journal.take 3).filterMap fun entry => (entry.deedOf? 0).bind Deed.handed?)
            == [Sample.container]
          && ((t.journal.take 3).filterMap RunEntry.result?).isEmpty
          && (t.journal.filterMap RunEntry.result?) == [recovered 10 Sample.cell]) = true :=
      exists_reaches_of_after (by decide +kernel)
    simp only [Bool.and_eq_true, List.isEmpty_iff, beq_iff_eq] at ends
    obtain ⟨⟨⟨⟨sweeps, finished⟩, handed⟩, none⟩, all⟩ := ends
    obtain ⟨removed, after, noted⟩ := exists_eq_cut_of_isSweep sweeps
    refine ⟨_, t, _, removed, after, Sample.container, run, finished, noted,
      handedIn_of_deed (handed ▸ List.mem_singleton.mpr rfl), none, ?_⟩
    rw [noted, List.filterMap_append, none] at all
    exact all
  · -- With a label that another result has there is no result at all, not even after the sweep.
    obtain ⟨t, run, ends⟩ : ∃ t, Reaches (start
          { Sample.context with catalog := ⟨Catalog.twins .x86_64⟩ }
          [.run (Catalog.twin "a-b" "c" .x86_64), .run (Catalog.twin "a" "b-c" .x86_64)] false)
        [.take 0, .take 0, .grant 0, .proceed 0 1, .proceed 0 2, .proceed 0 3,
          .reply 0 Sample.hopeful, .proceed 0 4, .reply 0 Sample.hopeful, .proceed 0 5,
          .proceed 0 6, .reply 0 Sample.hopeful, .proceed 0 7, .reply 0 Sample.hopeful,
          .proceed 0 8, .reply 0 Sample.hopeful, .proceed 0 9, .proceed 0 10, .proceed 0 11,
          .proceed 0 12, .reply 0 Sample.hopeful, .grant 1, .proceed 1 13, .proceed 1 14,
          .proceed 1 15, .reply 1 Sample.hopefulAgain, .proceed 1 16,
          .reply 1 Sample.hopefulAgain, .proceed 1 17, .proceed 1 18, .panic 1,
          .finish (.ok 1) 20] t ∧
        ((t.journal.drop 10).head?.any RunEntry.isSweep && t.finished
          && (t.tasks.map Task.cell)[1]? == some (Catalog.twin "a" "b-c" .x86_64)
          && ((t.journal.take 10).filterMap fun entry => (entry.deedOf? 1).bind Deed.handed?)
            == [{ Sample.container with id := "c2" }]
          && t.results.results.all (fun r => r.cell != Catalog.twin "a" "b-c" .x86_64)
          && t.results.exitCode == 0) = true :=
      exists_reaches_of_after (by decide +kernel)
    simp only [Bool.and_eq_true, beq_iff_eq, List.all_eq_true, bne_iff_ne] at ends
    obtain ⟨⟨⟨⟨⟨sweeps, finished⟩, own⟩, handed⟩, absent⟩, zero⟩ := ends
    obtain ⟨removed, after, noted⟩ := exists_eq_cut_of_isSweep sweeps
    exact ⟨_, _, Catalog.ofList_twins .x86_64, Catalog.plan_twins .x86_64,
      List.mem_cons_of_mem _ List.mem_cons_self, _, t, _, removed, after, _, run, finished, noted,
      own, handedIn_of_deed (handed ▸ List.mem_singleton.mpr rfl), absent, zero⟩

end InstallMatrix
