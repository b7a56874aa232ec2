import InstallMatrix.Proofs.Run.Progress

/-!
# `InstallMatrix.Proofs.Run.Ending`: how tasks and runs end

A task that has ended is `Reported`, having handed in one result of its own, or it is
`Lost`: it broke off in a call before it could hand in anything. `Faithful.ended`
shows that there is no third way.

A run that is finished was once ready for it, and since then it was at most cancelled:
`exists_concludes` gives the state at that point, and `Concludes` says how the two
states compare.
-/

set_option autoImplicit false

namespace InstallMatrix

namespace RunState

variable {s t u : RunState} {e : RunEvent} {clock : Nat}

/-! ### Tasks -/

/-- The task handed in this one result. If it broke off, then in giving its container
up. -/
structure Reported (s : RunState) (i : Nat) (task : Task) (r : CellResult) : Prop where
  own : r.cell = task.cell
  once : s.reported i = [r]
  verdict : r.status = .pass ∨ r.status = .fail ∨
    (∃ clock, r = .skipped task.cell Pipeline.abortReason (.ofNanoseconds clock)) ∧
      s.cancelled = true
  late : task.status = .panicked → ∃ c, s.breaks i = [c] ∧ c.isRelease = true

/-- The task broke off before it could hand in a result. It did so in a call that was no release,
for the result comes before the release. -/
structure Lost (s : RunState) (i : Nat) (task : Task) : Prop where
  panicked : task.status = .panicked
  silent : s.reported i = []
  early : ∃ c, s.breaks i = [c] ∧ c.isRelease = false

/-- A task whose deeds are a life handed in one result. -/
theorem Faithful.reported_of_done (h : Faithful s) {i : Nat} {cell : Cell}
    (found : s.tasks[i]? = some ⟨cell, .done⟩) : ∃ r, Reported s i ⟨cell, .done⟩ r := by
  obtain ⟨⟨log, path, deeds_eq, honest⟩, -⟩ := h.follows found
  obtain ⟨r, results, own, verdict⟩ := (Pipeline.lives_of_finished path).results
  refine ⟨r, own, ?_, ?_, nofun⟩
  · unfold reported
    rw [deeds_eq, results]
  · refine verdict.imp id (Or.imp id ?_)
    rintro ⟨at_, rfl⟩
    -- A skipped cell saw the cancellation, and what a cell sees is so.
    have handedIn : .recorded (.skipped cell Pipeline.abortReason (.ofNanoseconds at_))
        ∈ CellProgram.deeds log := by
      obtain ⟨d, mem, is⟩ := List.mem_filterMap.mp (results ▸ List.mem_singleton.mpr rfl)
      cases d with
      | called c reply => cases is
      | recorded r => cases is; exact mem
    obtain ⟨moment, mem, seen⟩ := Pipeline.seen_cancelled_of_skipped path handedIn rfl
    exact ⟨⟨at_, rfl⟩, honest moment mem seen⟩

/-- A task that broke off did so before its result, or in giving its container up. -/
theorem Faithful.reported_or_lost_of_panicked (h : Faithful s) {i : Nat} {cell : Cell}
    (found : s.tasks[i]? = some ⟨cell, .panicked⟩) :
    (∃ r, Reported s i ⟨cell, .panicked⟩ r) ∨ Lost s i ⟨cell, .panicked⟩ := by
  obtain ⟨c, next, ⟨log, path, deeds_eq, -⟩, broke⟩ := h.follows found
  -- The call it broke off in is one of its way, or the release behind its result.
  rcases Pipeline.stands_at_call path with ⟨early, work⟩ |
    ⟨p, calls, at_, container, rfl, deeds_log, arrives, -⟩
  · refine .inr ⟨rfl, ?_, c, broke, early⟩
    unfold reported
    rw [deeds_eq, filterMap_result?_of_work work]
  · refine .inl ⟨p.result at_, arrives.own, ?_, ?_, fun _ => ⟨_, broke, ?_⟩⟩
    · unfold reported
      rw [deeds_eq, deeds_log]
      exact arrives.results rfl
    · exact (Pipeline.status_result at_ arrives.terminal).imp id .inl
    · exact Pipeline.isRelease_releaseCall s.context container

/-- A task that has ended handed in one result, or broke off before. So there is at most one
result of its own for each task. -/
theorem Faithful.ended (h : Faithful s) {i : Nat} {task : Task} (found : s.tasks[i]? = some task)
    (ended : task.isEnded = true) : (∃ r, Reported s i task r) ∨ Lost s i task := by
  obtain ⟨cell, status⟩ := task
  cases status with
  | waiting | running => cases ended
  | done => exact .inl (h.reported_of_done found)
  | panicked => exact h.reported_or_lost_of_panicked found

/-! ### Runs -/

/-- `Concludes s t clock`: the run was ready to be finished in the state `s`, it was
finished at the clock reading, and since then it was at most cancelled. -/
structure Concludes (s t : RunState) (clock : Nat) : Prop where
  taken : s.planned = []
  ended : ∀ task ∈ s.tasks, task.isEnded = true
  context : t.context = s.context
  planned : t.planned = []
  tasks : t.tasks = s.tasks
  deeds : ∀ i, t.deeds i = s.deeds i
  breaks : ∀ i, t.breaks i = s.breaks i
  results : t.results.results = s.results.results ++ s.unrecorded.map (recovered clock)
  cancelled : s.cancelled = true → t.cancelled = true

/-- Once all tasks have ended and the run is finished, it can only be cancelled. -/
theorem eq_cancel_of_finished (planned : s.planned = [])
    (ended : ∀ task ∈ s.tasks, task.isEnded = true) (finished : s.finished = true)
    (happens : Happens s e t) : t = { s with cancelled := true }.note .cancelled := by
  have past : ∀ {i : Nat} {task : Task}, s.tasks[i]? = some task → task.isEnded = true :=
    fun found => ended _ (List.mem_of_getElem? found)
  -- No task waits or runs any more, so nothing but a cancellation is left.
  cases happens with
  | take clock next => rw [planned] at next; cases next
  | grant waits free => cases past waits
  | abort clock waits cancelled => cases past waits
  | look clock stands => cases past stands
  | handIn clock stands => cases past stands
  | reply answer stands => cases past stands
  | abandon stands cancelled => cases past stands
  | panic stands => cases past stands
  | cancel => rfl
  | finish removed clock taken ended unfinished => rw [finished] at unfinished; cases unfinished

/-- Only finishing a run finishes it. -/
theorem Happens.finished_eq (happens : Happens s e t)
    (other : ∀ removed clock, e ≠ .finish removed clock) : t.finished = s.finished := by
  cases happens with
  | @take entry planned clock next => cases entry <;> rfl
  | grant | abort | look | handIn | reply | abandon | panic | cancel => rfl
  | finish removed clock => exact absurd rfl (other removed clock)

/-- A run that was finished was ready for it: its plan was taken up, and all tasks had ended. -/
theorem finished_eq_or_finish (happens : Happens s e t) :
    t.finished = s.finished ∨ ∃ removed clock, s.planned = [] ∧
      (∀ task ∈ s.tasks, task.isEnded = true) ∧ t = s.complete removed clock := by
  by_cases other : ∀ removed clock, e ≠ .finish removed clock
  · exact .inl (happens.finished_eq other)
  · simp only [not_forall, not_not] at other
    obtain ⟨removed, clock, rfl⟩ := other
    cases happens with
    | finish _ _ taken ended => exact .inr ⟨removed, clock, taken, ended, rfl⟩

/-- Completing a run concludes it. The results that are added are those of cells without one, and
nothing of what the tasks did is touched. -/
theorem concludes_complete (taken : s.planned = [])
    (ended : ∀ task ∈ s.tasks, task.isEnded = true) (removed : Except GatewayError Nat) :
    Concludes s (s.complete removed clock) clock where
  taken := taken
  ended := ended
  context := rfl
  planned := taken
  tasks := rfl
  deeds i := by
    rw [(grows_complete s removed clock).deeds_eq,
      (filterMap_completion s removed clock i).1, List.append_nil]
  breaks i := by
    rw [(grows_complete s removed clock).breaks_eq,
      (filterMap_completion s removed clock i).2, List.append_nil]
  results := rfl
  cancelled := id

/-- A finished run that is cancelled is concluded as before. -/
theorem Concludes.cancel (h : Concludes s t clock) :
    Concludes s ({ t with cancelled := true }.note .cancelled) clock where
  taken := h.taken
  ended := h.ended
  context := h.context
  planned := h.planned
  tasks := h.tasks
  deeds i := ((grows_cancel t).deeds_eq i).trans ((List.append_nil _).trans (h.deeds i))
  breaks i := ((grows_cancel t).breaks_eq i).trans ((List.append_nil _).trans (h.breaks i))
  results := h.results
  cancelled _ := rfl

/-- On its way from `first` the run was not finished yet in some state, and from there it
was concluded in `t`. -/
def ConcludedFrom (first t : RunState) : Prop :=
  ∃ s clock earlier, Reaches first earlier s ∧ s.finished = false ∧ Concludes s t clock

/-- A finished run has been in a state from which it was concluded. Only cancellations may have
come since. -/
theorem exists_concludes {first : RunState} {events : List RunEvent}
    (unfinished : first.finished = false) (run : Reaches first events t)
    (finished : t.finished = true) : ConcludedFrom first t := by
  refine run.invariant_along (fun t => t.finished = true → ConcludedFrom first t) ?_ ?_ finished
  · intro earlier s e t reached before happens past
    cases already : s.finished with
    | true =>
      -- A finished run can still be cancelled, which changes nothing of how it ended.
      obtain ⟨ready, clock, earlier, reached, open_, concludes⟩ := before already
      have ended := concludes.ended
      rw [← concludes.tasks] at ended
      rw [eq_cancel_of_finished concludes.planned ended already happens]
      exact ⟨ready, clock, earlier, reached, open_, concludes.cancel⟩
    | false =>
      rcases finished_eq_or_finish happens with same | ⟨removed, clock, taken, ended, rfl⟩
      · rw [same, already] at past
        cases past
      · exact ⟨s, clock, earlier, reached, already, concludes_complete taken ended removed⟩
  · intro past
    rw [unfinished] at past
    cases past

end RunState

end InstallMatrix
