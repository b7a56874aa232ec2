import InstallMatrix.Proofs.Run.Stock

/-!
# `InstallMatrix.Proofs.Run.Containers`: no container outlives a run

In a rehearsal, calls are answered with errors, tasks break off and the run is cancelled
at any point. `Cleared` says what is left of its containers in the end: nothing is live,
and every container that was created is either removed or retained, and that once.
`cleared_of_rehearsal` proves it, provided that the final sweep itself did not fail.

The invariant is `Kept`. It ties the books of the gateway to the journal: a container
that was handed to a task is live until the task gives it up, so it is live when the
gateway is asked to remove or retain it, and no container is entered twice.
-/

set_option autoImplicit false

namespace InstallMatrix

open CellProgram MemoryGateway

namespace RunState

variable {s t : RunState} {e : RunEvent} {b : Books} {i : Nat}

/-- The task was answered a call that gives a container up. Whether the call succeeded is left
open, for the task does not ask again. -/
def GaveUp (s : RunState) (i : Nat) : Prop := ∃ d ∈ s.deeds i, d.IsRelease

/-! ### A task at a call -/

/-- A task that stands at a call has not given its container up. If it stands at the call
that does, then for the container it was handed. -/
theorem Stands.at_call {cell : Cell} {c : Call} {next : c.Reply → CellProgram Unit}
    (h : Stands s i cell (.ask (.call c) next)) :
    ¬ GaveUp s i ∧ (c.isRelease = true →
      ∃ container, c = Pipeline.releaseCall s.context container ∧ Handed s i container) := by
  obtain ⟨log, path, deeds_eq, -⟩ := h
  unfold GaveUp Handed
  rw [deeds_eq]
  -- A call stands either on the way to the result or in the closing, where the container goes.
  rcases Pipeline.stands_at_call path with ⟨works, work⟩ |
    ⟨p, calls, clock, container, called, deeds_log, arrives, holds⟩
  · refine ⟨?_, fun releases => ?_⟩
    · rintro ⟨d, mem, releases⟩
      exact (work d mem).not_isRelease releases
    · rw [works] at releases
      cases releases
  · rw [deeds_log]
    refine ⟨?_, fun _ => ⟨container, called, ?_⟩⟩
    · rintro ⟨d, mem, releases⟩
      rcases List.mem_append.mp mem with inCalls | last
      · exact (arrives.history.work d inCalls).not_isRelease releases
      · rw [List.mem_singleton.mp last] at releases
        exact Deed.not_isRelease_recorded _ releases
    · obtain ⟨image, options, mem⟩ := (arrives.history.equipped holds).start_mem
      exact ⟨image, options, List.mem_append_left _ mem⟩

/-- A task whose call is answered stood at it. So it had not given its container up, and if it
gives one up now, it is the one it was handed. -/
theorem Answered.at_call (h : Faithful s) {c : Call} {reply : c.Reply}
    (answered : Answered s t i c reply) :
    ¬ GaveUp s i ∧ (c.isRelease = true →
      ∃ container, c = Pipeline.releaseCall s.context container ∧ Handed s i container) := by
  obtain ⟨cell, next, found⟩ := answered.stands
  exact (h.follows found).1.at_call

/-- A task that broke off has not given its container up. Giving it up is the last call, and a
task that breaks off in it has no answer to it. -/
theorem Faithful.not_gaveUp_of_panicked (h : Faithful s) {cell : Cell}
    (found : s.tasks[i]? = some ⟨cell, .panicked⟩) : ¬ GaveUp s i := by
  obtain ⟨c, next, stands, -⟩ := h.follows found
  exact stands.at_call.1

/-- A task that retains its container has settings that say so. -/
theorem retain_eq_releaseCall {ctx : RunContext} {c container : Container}
    (called : Call.retain c = Pipeline.releaseCall ctx container) :
    ctx.settings.retainContainers = true ∧ c = container := by
  unfold Pipeline.releaseCall at called
  split at called
  · next retains =>
    cases called
    exact ⟨retains, rfl⟩
  · cases called

/-- A task that removes its container has settings that say so. -/
theorem remove_eq_releaseCall {ctx : RunContext} {c container : Container}
    (called : Call.remove c = Pipeline.releaseCall ctx container) :
    ctx.settings.retainContainers = false ∧ c = container := by
  unfold Pipeline.releaseCall at called
  split at called
  · cases called
  · next removes =>
    cases called
    exact ⟨by simpa using removes, rfl⟩

/-! ### The invariant -/

/-- The books agree with what the tasks were handed and gave up. This is the invariant of a
rehearsal: the gateway keeps the books, and the run keeps the deeds. -/
structure Kept (s : RunState) (b : Books) : Prop where
  faithful : Faithful s
  balanced : b.Balanced
  /-- What a task was handed was created. -/
  created : ∀ {i c}, Handed s i c → c ∈ b.created
  /-- No container was handed to two tasks. -/
  sole : ∀ {i j c}, Handed s i c → Handed s j c → i = j
  /-- What a task was handed and did not give up is live. -/
  live : ∀ {i c}, Handed s i c → c.id ∈ b.live ∨ GaveUp s i
  /-- What is live was handed to a task that did not retain it. -/
  owned : ∀ {id}, id ∈ b.live →
    ∃ i c, Handed s i c ∧ c.id = id ∧ .called (.retain c) () ∉ s.deeds i
  removed : s.context.settings.retainContainers = true → b.removed = []
  retained : s.context.settings.retainContainers = false → b.retained = []

/-- Before the first event there is no task and no container, so that the books agree trivially.
-/
theorem kept_start (context : RunContext) (plan : List PlannedCell) (cancelled : Bool)
    (behaviour : MemoryBehaviour) :
    Kept (start context plan cancelled) (fresh behaviour).books where
  faithful := faithful_start context plan cancelled
  balanced := balanced_fresh behaviour
  created := by rintro i c ⟨image, options, mem⟩; cases mem
  sole := by rintro i j c ⟨image, options, mem⟩; cases mem
  live := by rintro i c ⟨image, options, mem⟩; cases mem
  owned mem := nomatch mem
  removed _ := rfl
  retained _ := rfl

section Growth
variable (grows : GrowsQuietly s t)
include grows

/-- Quiet deeds hand nothing over, so the tasks have the same containers as before. -/
theorem handed_iff_of_growsQuietly {c : Container} : Handed t i c ↔ Handed s i c := by
  obtain ⟨new, grown, isQuiet⟩ := grows i
  unfold Handed
  rw [grown]
  constructor
  · rintro ⟨image, options, mem⟩
    rcases List.mem_append.mp mem with old | fresh
    · exact ⟨image, options, old⟩
    · cases isQuiet _ fresh
  · rintro ⟨image, options, mem⟩
    exact ⟨image, options, List.mem_append_left new mem⟩

/-- What was given up stays given up. -/
theorem gaveUp_of_growsQuietly (h : GaveUp s i) : GaveUp t i := by
  obtain ⟨new, grown, -⟩ := grows i
  obtain ⟨d, mem, releases⟩ := h
  exact ⟨d, by rw [grown]; exact List.mem_append_left new mem, releases⟩

/-- Quiet deeds retain nothing. -/
theorem retain_mem_of_growsQuietly {c : Container} (mem : .called (.retain c) () ∈ t.deeds i) :
    .called (.retain c) () ∈ s.deeds i := by
  obtain ⟨new, grown, isQuiet⟩ := grows i
  rw [grown] at mem
  exact (List.mem_append.mp mem).resolve_right fun fresh => isQuiet _ fresh

/-- What touches no container keeps the books as they should be. Both sides of the invariant are
left as they were. -/
theorem Kept.quiet (h : Kept s b) (happens : Happens s e t) : Kept t b where
  faithful := faithful_step h.faithful happens
  balanced := h.balanced
  created handed := h.created ((handed_iff_of_growsQuietly grows).mp handed)
  sole first second := h.sole ((handed_iff_of_growsQuietly grows).mp first)
    ((handed_iff_of_growsQuietly grows).mp second)
  live handed := (h.live ((handed_iff_of_growsQuietly grows).mp handed)).imp id
    (gaveUp_of_growsQuietly grows)
  owned mem := by
    obtain ⟨i, c, handed, same, kept⟩ := h.owned mem
    refine ⟨i, c, (handed_iff_of_growsQuietly grows).mpr handed, same, fun retained => ?_⟩
    exact kept (retain_mem_of_growsQuietly grows retained)
  removed retains := h.removed (happens.context_eq ▸ retains)
  retained removes := h.retained (happens.context_eq ▸ removes)

end Growth

/-! ### Calls that matter -/

section Answer
variable {call : Call} {reply : call.Reply} {c c' : Container} {j : Nat}

/-- An answered call is one more deed of its task, and of no other. -/
theorem Answered.mem_deeds_iff (answered : Answered s t i call reply) {d : Deed} :
    d ∈ t.deeds j ↔ d ∈ s.deeds j ∨ j = i ∧ d = .called call reply := by
  rw [answered.deeds, List.mem_append]
  by_cases same : j = i <;> simp [same]

/-- What was given up stays given up. -/
theorem Answered.gaveUp_mono (answered : Answered s t i call reply) (h : GaveUp s j) :
    GaveUp t j := by
  obtain ⟨d, mem, releases⟩ := h
  exact ⟨d, answered.mem_deeds_iff.mpr (.inl mem), releases⟩

/-- A call that gives a container up hands none over. -/
theorem Answered.handed_iff (answered : Answered s t i call reply)
    (releases : call.isRelease = true) : Handed t j c ↔ Handed s j c := by
  unfold Handed
  simp only [answered.mem_deeds_iff]
  constructor
  · rintro ⟨image, options, old | ⟨-, same⟩⟩
    · exact ⟨image, options, old⟩
    · cases same
      cases releases
  · rintro ⟨image, options, mem⟩
    exact ⟨image, options, .inl mem⟩

/-- A call that starts a container hands this one over. -/
theorem Answered.handed_start_iff {image : ImageTag} {options : StartOptions}
    (answered : Answered s t i (.start image options) (.ok c)) :
    Handed t j c' ↔ Handed s j c' ∨ j = i ∧ c' = c := by
  unfold Handed
  simp only [answered.mem_deeds_iff]
  constructor
  · rintro ⟨image', options', old | ⟨rfl, same⟩⟩
    · exact .inl ⟨image', options', old⟩
    · cases same
      exact .inr ⟨rfl, rfl⟩
  · rintro (⟨image', options', mem⟩ | ⟨rfl, rfl⟩)
    · exact ⟨image', options', .inl mem⟩
    · exact ⟨image, options, .inr ⟨rfl, rfl⟩⟩

/-- A reply does not change what the run goes by. -/
theorem Answered.context_eq (answered : Answered s t i call reply) : t.context = s.context := by
  obtain ⟨e, happens⟩ := answered.happened
  exact happens.context_eq

/-- A run that is faithful stays so when a call is answered, since the answer is one of its
events. -/
theorem Answered.faithful (answered : Answered s t i call reply) (h : Faithful s) :
    Faithful t := by
  obtain ⟨e, happens⟩ := answered.happened
  exact faithful_step h happens

/-- A fresh container is handed to the one task that asked for it. Its id is new, and so no other
task can have been handed the same. -/
theorem Kept.started {image : ImageTag} {options : StartOptions} (h : Kept s b)
    (answered : Answered s t i (.start image options) (.ok c)) (next : c.id = idOf b.started) :
    Kept t (b.start c) where
  faithful := answered.faithful h.faithful
  balanced := h.balanced.start next
  created handed := by
    rcases answered.handed_start_iff.mp handed with old | ⟨-, rfl⟩
    · exact List.mem_append_left _ (h.created old)
    · exact List.mem_append_right _ List.mem_cons_self
  sole first second := by
    -- The fresh container was not created before, so nobody else was handed it.
    have fresh := h.balanced.not_mem_of_next next
    rcases answered.handed_start_iff.mp first with old | ⟨here, isNew⟩ <;>
      rcases answered.handed_start_iff.mp second with old' | ⟨here', isNew'⟩
    · exact h.sole old old'
    · exact absurd (isNew' ▸ h.created old) fresh
    · exact absurd (isNew ▸ h.created old') fresh
    · exact here.trans here'.symm
  live handed := by
    rcases answered.handed_start_iff.mp handed with old | ⟨-, rfl⟩
    · exact (h.live old).imp (List.mem_append_left _) answered.gaveUp_mono
    · exact .inl (List.mem_append_right _ List.mem_cons_self)
  owned mem := by
    rcases List.mem_append.mp mem with old | fresh
    · obtain ⟨j, c', handed, same, kept⟩ := h.owned old
      refine ⟨j, c', answered.handed_start_iff.mpr (.inl handed), same, fun retained => ?_⟩
      rcases answered.mem_deeds_iff.mp retained with old | ⟨-, same⟩
      · exact kept old
      · cases same
    · refine ⟨i, c, answered.handed_start_iff.mpr (.inr ⟨rfl, rfl⟩),
        (List.mem_singleton.mp fresh).symm, fun retained => ?_⟩
      rcases answered.mem_deeds_iff.mp retained with old | ⟨-, same⟩
      · exact (answered.at_call h.faithful).1 ⟨_, old, .retain c, (), rfl, rfl⟩
      · cases same
  removed retains := h.removed (answered.context_eq ▸ retains)
  retained removes := h.retained (answered.context_eq ▸ removes)

/-- After a container was given up, those that are not live any more were given up. -/
theorem Kept.live_of_release (h : Kept s b) (answered : Answered s t i call reply)
    (releases : call.isRelease = true) (own : Handed s i c) (handed : Handed t j c') :
    c'.id ∈ b.live.filter (· != c.id) ∨ GaveUp t j := by
  have old := (answered.handed_iff releases).mp handed
  -- The task that answered has given its container up, and all others have another one.
  by_cases same : j = i
  · exact .inr ⟨_, answered.mem_deeds_iff.mpr (.inr ⟨same, rfl⟩), call, reply, releases, rfl⟩
  · refine (h.live old).imp (fun mem => List.mem_filter.mpr ⟨mem, ?_⟩) answered.gaveUp_mono
    refine bne_iff_ne.mpr fun sameId => same ?_
    rw [h.balanced.eq_of_id_eq (h.created old) (h.created own) sameId] at old
    exact h.sole old own

/-- Taking the container of a task from the live ones, once it was given up, keeps the
books as they should be. -/
theorem Kept.released (h : Kept s b) {b' : Books} (answered : Answered s t i call reply)
    (releases : call.isRelease = true) (own : Handed s i c) (balanced : b'.Balanced)
    (created : b'.created = b.created) (live : b'.live = b.live.filter (· != c.id))
    (retains : ∀ {c'}, call = .retain c' → c' = c)
    (removed : s.context.settings.retainContainers = true → b'.removed = [])
    (retained : s.context.settings.retainContainers = false → b'.retained = []) : Kept t b' where
  faithful := answered.faithful h.faithful
  balanced := balanced
  created handed := created ▸ h.created ((answered.handed_iff releases).mp handed)
  sole first second :=
    h.sole ((answered.handed_iff releases).mp first) ((answered.handed_iff releases).mp second)
  live handed := live ▸ h.live_of_release answered releases own handed
  owned mem := by
    rw [live] at mem
    obtain ⟨stillLive, other⟩ := List.mem_filter.mp mem
    obtain ⟨j, c', handed, rfl, notRetained⟩ := h.owned stillLive
    refine ⟨j, c', (answered.handed_iff releases).mpr handed, rfl, fun given => ?_⟩
    -- Whatever was retained before is still not live.
    rcases answered.mem_deeds_iff.mp given with old | ⟨-, same⟩
    · exact notRetained old
    · -- The container that was retained just now is no longer among the live ones.
      cases same
      exact absurd (congrArg Container.id (retains rfl)) (bne_iff_ne.mp other)
  removed settings := removed (answered.context_eq ▸ settings)
  retained settings := retained (answered.context_eq ▸ settings)

/-- Removing the container of a task keeps the books as they should be. -/
theorem Kept.removed_of_answered (h : Kept s b)
    (answered : Answered s t i (.remove c) (.ok ())) : Kept t (b.remove c) := by
  obtain ⟨kept, releases⟩ := answered.at_call h.faithful
  obtain ⟨container, called, own⟩ := releases rfl
  obtain ⟨removes, rfl⟩ := remove_eq_releaseCall called
  -- It was not given up before, so it is live, and it is taken from the live ones once.
  have live := (h.live own).resolve_right kept
  refine h.released answered rfl own (h.balanced.remove live) rfl rfl nofun ?_ h.retained
  intro retains
  rw [removes] at retains
  cases retains

/-- Retaining the container of a task keeps the books as they should be. -/
theorem Kept.retained_of_answered (h : Kept s b)
    (answered : Answered s t i (.retain c) ()) : Kept t (b.retain c) := by
  obtain ⟨kept, releases⟩ := answered.at_call h.faithful
  obtain ⟨container, called, own⟩ := releases rfl
  obtain ⟨retains, rfl⟩ := retain_eq_releaseCall called
  have live := (h.live own).resolve_right kept
  refine h.released answered rfl own (h.balanced.retain live) rfl rfl ?_ h.removed ?_
  · intro c' same
    cases same
    rfl
  · intro removes
    rw [retains] at removes
    cases removes

end Answer

/-! ### The end -/

/-- What is left of the containers when a run is over: none is live, and each was removed or
retained, the latter only where the settings ask for it. -/
structure Cleared (t : RunState) (b : Books) : Prop where
  live : b.live = []
  /-- Every container is removed or retained. -/
  all : (b.removed ++ b.retained).Perm (b.created.map Container.id)
  /-- No container is entered twice. -/
  once : (b.removed ++ b.retained).Nodup
  retained : t.context.settings.retainContainers = false → b.retained = []
  /-- In a run that retains its containers, those of the tasks are removed that broke off
  before they could do so. -/
  removed : t.context.settings.retainContainers = true → ∀ id, id ∈ b.removed ↔
    ∃ i cell c, t.tasks[i]? = some ⟨cell, .panicked⟩ ∧ Handed t i c ∧ c.id = id ∧
      .called (.retain c) () ∉ t.deeds i

/-- What is live when all tasks have ended was handed to a task that broke off. -/
theorem Kept.panicked_of_live (h : Kept s b) (ended : ∀ task ∈ s.tasks, task.isEnded = true)
    (retains : s.context.settings.retainContainers = true) {id : String} (mem : id ∈ b.live) :
    ∃ i cell c, s.tasks[i]? = some ⟨cell, .panicked⟩ ∧ Handed s i c ∧ c.id = id ∧
      .called (.retain c) () ∉ s.deeds i := by
  obtain ⟨i, c, handed, same, notRetained⟩ := h.owned mem
  have noted : ¬ (s.deeds i = [] ∧ s.breaks i = []) := by
    rintro ⟨noDeeds, -⟩
    obtain ⟨image, options, start⟩ := handed
    rw [noDeeds] at start
    cases start
  obtain ⟨cell, status, found⟩ := h.faithful.exists_task noted
  have past := ended _ (List.mem_of_getElem? found)
  cases status with
  | waiting | running => cases past
  | panicked => exact ⟨i, cell, c, found, handed, same, notRetained⟩
  | done =>
    -- A task that is done has retained its container.
    obtain ⟨image, options, start⟩ := handed
    obtain ⟨released, gives, inDeeds⟩ := (h.faithful.lives_of_done found).1.released start
    unfold Pipeline.Releases at gives
    rw [retains] at gives
    subst gives
    exact absurd (inDeeds _ List.mem_cons_self) notRetained

/-- A run whose tasks have all ended leaves nothing behind after a sweep. -/
theorem Kept.cleared (h : Kept s b) (ended : ∀ task ∈ s.tasks, task.isEnded = true) :
    Cleared s b.sweep where
  live := rfl
  all := h.balanced.sweep
  once := h.balanced.sweep.nodup_iff.mpr h.balanced.nodup
  retained := h.retained
  removed retains id := by
    have swept : b.sweep.removed = b.live := by
      show b.removed ++ b.live = b.live
      rw [h.removed retains, List.nil_append]
    rw [swept]
    refine ⟨fun mem => h.panicked_of_live ended retains mem, ?_⟩
    rintro ⟨i, cell, c, found, handed, rfl, -⟩
    exact (h.live handed).resolve_right (h.faithful.not_gaveUp_of_panicked found)

/-- What was cleared stays so while tasks and deeds are the same. The books of a finished run do
not change any more. -/
theorem Cleared.mono (h : Cleared s b) (context : t.context = s.context) (tasks : t.tasks = s.tasks)
    (deeds : ∀ i, t.deeds i = s.deeds i) : Cleared t b where
  live := h.live
  all := h.all
  once := h.once
  retained removes := h.retained (context ▸ removes)
  removed retains id := by
    unfold Handed
    simp only [tasks, deeds]
    exact h.removed (context ▸ retains) id

/-- What an event does to the books keeps them as they should be, up to the end. -/
theorem Kept.touched {b' : Books} (h : Kept s b) (touches : Touches s b t b')
    (unfinished : s.finished = false) :
    (t.finished = false ∧ Kept t b') ∨ (t.finished = true ∧ Cleared t b') := by
  -- Only the sweep ends a run. Every other event leaves it open and the books kept.
  cases touches with
  | still => exact .inl ⟨unfinished, h⟩
  | quiet happens same grows => exact .inl ⟨same.trans unfinished, h.quiet grows happens⟩
  | started answered next => exact .inl ⟨answered.unswept.trans unfinished, h.started answered next⟩
  | removed answered =>
    exact .inl ⟨answered.unswept.trans unfinished, h.removed_of_answered answered⟩
  | retained answered =>
    exact .inl ⟨answered.unswept.trans unfinished, h.retained_of_answered answered⟩
  | @swept removed clock _ happens =>
    cases happens with
    | finish _ _ taken ended =>
      refine .inr ⟨rfl, (h.cleared ended).mono rfl rfl fun i => ?_⟩
      exact (concludes_complete taken ended removed).deeds i

/-- Once a run is finished, an event can only cancel it. So it stays cleared. -/
theorem Cleared.touched {b' : Books} (h : Cleared s b) (touches : Touches s b t b')
    (planned : s.planned = []) (ended : ∀ task ∈ s.tasks, task.isEnded = true)
    (finished : s.finished = true) : t.finished = true ∧ Cleared t b' := by
  -- No task stands at a call any more, so no call is answered.
  have idle : ∀ {i c reply}, ¬ Answered s t i c reply := by
    rintro i c reply ⟨⟨cell, next, found⟩, -⟩
    cases ended _ (List.mem_of_getElem? found)
  cases touches with
  | still => exact ⟨finished, h⟩
  | quiet happens same grows =>
    have cancelled := eq_cancel_of_finished planned ended finished happens
    subst cancelled
    refine ⟨finished, h.mono rfl rfl fun i => ?_⟩
    exact ((grows_cancel s).deeds_eq i).trans (List.append_nil _)
  | started answered | removed answered | retained answered => exact absurd answered idle
  | swept happens =>
    cases happens with
    | finish _ _ _ _ unfinished =>
      rw [finished] at unfinished
      cases unfinished

end RunState

namespace Rehearsal

open RunState

variable {r q : Rehearsal} {context : RunContext} {plan : List PlannedCell} {cancelled : Bool}
  {behaviour : MemoryBehaviour}

/-- A rehearsal is kept until it is finished, and then cleared. The step from the one to the other
is the sweep. -/
structure Sound (context : RunContext) (plan : List PlannedCell) (cancelled : Bool)
    (r : Rehearsal) : Prop where
  reached : ∃ events, RunState.Reaches (.start context plan cancelled) events r.run
  kept : r.run.finished = false → Kept r.run r.gateway.books
  cleared : r.run.finished = true → Cleared r.run r.gateway.books

/-- Every event keeps a rehearsal sound, unless it is a sweep made to fail. -/
theorem Sound.step {e : RehearsalEvent} (h : Sound context plan cancelled r)
    (stepped : r.step e = some q) (swept : ∀ error clock, e ≠ .sweepFails error clock) :
    Sound context plan cancelled q := by
  have touches := touches_of_step stepped swept
  -- The run of a rehearsal is a run, which is needed for what is known of finished ones.
  obtain ⟨events, reached⟩ := h.reached
  have further : ∃ events, RunState.Reaches (.start context plan cancelled) events q.run := by
    rcases touches.eq_or_happens with same | ⟨event, happens⟩
    · exact ⟨events, same ▸ reached⟩
    · exact ⟨_, reached.trans (.step happens.step_eq (.here _))⟩
  cases past : r.run.finished with
  | false =>
    rcases (h.kept past).touched touches past with ⟨open_, kept⟩ | ⟨closed, cleared⟩
    · refine ⟨further, fun _ => kept, fun closed => ?_⟩
      rw [open_] at closed
      cases closed
    · refine ⟨further, fun open_ => ?_, fun _ => cleared⟩
      rw [closed] at open_
      cases open_
  | true =>
    obtain ⟨s, clock, earlier, -, -, c⟩ := exists_concludes rfl reached past
    have ended := c.ended
    rw [← c.tasks] at ended
    obtain ⟨closed, cleared⟩ := (h.cleared past).touched touches c.planned ended past
    refine ⟨further, fun open_ => ?_, fun _ => cleared⟩
    rw [closed] at open_
    cases open_

/-- A rehearsal is sound before its first event. -/
theorem sound_start (context : RunContext) (plan : List PlannedCell) (cancelled : Bool)
    (behaviour : MemoryBehaviour) :
    Sound context plan cancelled (start context plan cancelled behaviour) where
  reached := ⟨[], .here _⟩
  kept _ := kept_start context plan cancelled behaviour
  cleared past := nomatch past

/-- It stays sound as long as no sweep fails, by one step after another. The failed sweep is the
one event after which containers may be left that nobody retained. -/
theorem Sound.reaches {events : List RehearsalEvent} (h : Sound context plan cancelled r)
    (rehearsal : Reaches r events q) (swept : ∀ error clock, .sweepFails error clock ∉ events) :
    Sound context plan cancelled q := by
  induction rehearsal with
  | here r => exact h
  | step first rest ih =>
    refine ih (h.step first fun error clock same => ?_) fun error clock mem => ?_
    · exact swept error clock (same ▸ List.mem_cons_self)
    · exact swept error clock (List.mem_cons_of_mem _ mem)

/-- Every rehearsal, whatever errors and panics strike in front of the gateway, however its
tasks interleave and whenever it is cancelled: if the final sweep was not made to fail, no
container is live in the end, and each was removed or retained, once. -/
theorem cleared_of_rehearsal {events : List RehearsalEvent}
    (rehearsal : Reaches (start context plan cancelled behaviour) events r)
    (swept : ∀ error clock, .sweepFails error clock ∉ events) (finished : r.run.finished = true) :
    Cleared r.run r.gateway.books :=
  ((sound_start context plan cancelled behaviour).reaches rehearsal swept).cleared finished

/-- Three containers are started. The first one is removed by its task, the removal of the
third one fails, and the task of the second one breaks off at a command: the last two are left
to the sweep. In a run that retains its containers, the second one alone is swept. -/
theorem cleared_of_rehearsal_of_failed_removal :
    ∃ r q,
      Reaches (start Sample.twoReleases Sample.threeCells false ⟨[], none, none, false⟩)
        (Sample.threeInstalls
          ++ [.fail 1 (.commandFailed "rm" "device busy"), .panic 2, .sweep 17]) r ∧
      r.gateway.created.map Container.id = ["mock-1", "mock-2", "mock-3"] ∧
      r.gateway.removed = ["mock-1", "mock-2", "mock-3"] ∧ Cleared r.run r.gateway.books ∧
      Reaches (start Sample.twoReleases.retaining Sample.threeCells false ⟨[], none, none, false⟩)
        (Sample.threeInstalls ++ [.serve 1, .panic 2, .sweep 17]) q ∧
      q.gateway.retained = ["mock-1", "mock-3"] ∧ q.gateway.removed = ["mock-2"] ∧
      Cleared q.run q.gateway.books := by
  -- One container is removed at once, one removal fails, and one task breaks off with its
  -- container up. The sweep takes the last two.
  let swept : List RehearsalEvent :=
    Sample.threeInstalls ++ [.fail 1 (.commandFailed "rm" "device busy"), .panic 2, .sweep 17]
  obtain ⟨r, rehearsal, ends⟩ : ∃ r,
      Reaches (start Sample.twoReleases Sample.threeCells false ⟨[], none, none, false⟩) swept r ∧
      (r.run.finished && r.gateway.created.map Container.id == ["mock-1", "mock-2", "mock-3"]
        && r.gateway.removed == ["mock-1", "mock-2", "mock-3"]) = true :=
    exists_reaches_of_foreseen (by decide +kernel)
  -- With containers retained the sweep still removes the one whose task broke off.
  let retained : List RehearsalEvent :=
    Sample.threeInstalls ++ [.serve 1, .panic 2, .sweep 17]
  obtain ⟨q, rehearsal', ends'⟩ : ∃ q,
      Reaches (start Sample.twoReleases.retaining Sample.threeCells false ⟨[], none, none, false⟩)
        retained q ∧
      (q.run.finished && q.gateway.retained == ["mock-1", "mock-3"]
        && q.gateway.removed == ["mock-2"]) = true :=
    exists_reaches_of_foreseen (by decide +kernel)
  simp only [Bool.and_eq_true, beq_iff_eq] at ends ends'
  obtain ⟨⟨finished, created⟩, removed⟩ := ends
  obtain ⟨⟨finished', kept⟩, removed'⟩ := ends'
  have sound (last : RehearsalEvent) (other : ∀ error clock, last ≠ .sweepFails error clock) :
      ∀ error clock,
        .sweepFails error clock ∉ Sample.threeInstalls ++ [last, .panic 2, .sweep 17] := by
    intro error clock
    simpa [Sample.threeInstalls, Sample.calls, Sample.goesOn] using (other error clock).symm
  exact ⟨r, q, rehearsal, created, removed,
    cleared_of_rehearsal rehearsal (sound _ nofun) finished, rehearsal', kept, removed',
    cleared_of_rehearsal rehearsal' (sound _ nofun) finished'⟩

end Rehearsal

end InstallMatrix
