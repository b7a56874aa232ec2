import InstallMatrix.Proofs.Run.Deed
import InstallMatrix.Proofs.Run.Step

/-!
# `InstallMatrix.Proofs.Run.Moves`: what an event does to one task

A run mixes the deeds of its tasks in one journal. `RunState.deeds s i` picks those of
one task out again, `RunState.breaks s i` the call it broke off in; `mem_deeds_iff` and
`mem_breaks_iff` lead back to the entries.

`Grows` says what an event adds to the journal and to the results. `Moves` lists what it
may do to the task at one place: the task is left alone, it is taken up, it gets its permit
or gives up waiting for one, it is answered, or it breaks off. `grows_of_happens` and
`moves_of_happens` say that there is nothing else, and what holds of a task all along a run
is shown by cases on `Moves`.
-/

set_option autoImplicit false

namespace InstallMatrix

open CellProgram

namespace RunEntry

/-- The deed of a task that an entry notes. Entries of other tasks, and those of the run itself,
are no deeds of it. -/
def deedOf? (i : Nat) : RunEntry → Option Deed
  | .answered j c reply => if j = i then some (.called c reply) else none
  | .recorded (some j) r => if j = i then some (.recorded r) else none
  | _ => none

/-- The call in which an entry says that a task broke off. -/
def breakOf? (i : Nat) : RunEntry → Option Call
  | .panicked j c => if j = i then some c else none
  | _ => none

/-- The entry that notes a deed of the task. -/
def ofDeed (i : Nat) : Deed → RunEntry
  | .called c reply => .answered i c reply
  | .recorded r => .recorded (some i) r

/-- An entry notes a deed of the task just when it is the entry of that deed. -/
theorem deedOf?_eq_some_iff {i : Nat} {entry : RunEntry} {d : Deed} :
    entry.deedOf? i = some d ↔ entry = .ofDeed i d := by
  constructor
  · intro is
    cases entry with
    | answered j c reply =>
      simp only [deedOf?, Option.ite_none_right_eq_some, Option.some.injEq] at is
      obtain ⟨rfl, rfl⟩ := is
      rfl
    | recorded task r =>
      cases task with
      | none => cases is
      | some j =>
        simp only [deedOf?, Option.ite_none_right_eq_some, Option.some.injEq] at is
        obtain ⟨rfl, rfl⟩ := is
        rfl
    | panicked | cancelled | swept => cases is
  · rintro rfl
    cases d <;> exact if_pos rfl

/-- An entry says that the task broke off in a call just when it is the entry for it. -/
theorem breakOf?_eq_some_iff {i : Nat} {entry : RunEntry} {c : Call} :
    entry.breakOf? i = some c ↔ entry = .panicked i c := by
  constructor
  · intro is
    cases entry with
    | panicked j c =>
      simp only [breakOf?, Option.ite_none_right_eq_some, Option.some.injEq] at is
      obtain ⟨rfl, rfl⟩ := is
      rfl
    | answered | recorded | cancelled | swept => cases is
  · rintro rfl
    exact if_pos rfl

/-- The result an entry notes. -/
def result? : RunEntry → Option CellResult
  | .recorded _ r => some r
  | _ => none

/-- The result an entry notes that no task handed in. Skipped cells and cells that were made up
for have such results. -/
def ownResult? : RunEntry → Option CellResult
  | .recorded none r => some r
  | _ => none

end RunEntry

namespace RunState

variable {s t : RunState} {e : RunEvent}

/-- What a task has done, the oldest first. It is read off the journal, in which the deeds of all
tasks stand mixed with each other. -/
def deeds (s : RunState) (i : Nat) : List Deed := s.journal.filterMap (RunEntry.deedOf? i)

/-- The calls in which a task broke off: none or one. A task that broke off does nothing more. -/
def breaks (s : RunState) (i : Nat) : List Call := s.journal.filterMap (RunEntry.breakOf? i)

/-- The results the run recorded by itself: those of skipped entries, and those it made up in the
end for cells without one. -/
def ownResults (s : RunState) : List CellResult := s.journal.filterMap RunEntry.ownResult?

/-- A deed of the task is noted by its entry. -/
theorem mem_deeds_iff {i : Nat} {d : Deed} : d ∈ s.deeds i ↔ .ofDeed i d ∈ s.journal := by
  simp only [deeds, List.mem_filterMap, RunEntry.deedOf?_eq_some_iff, exists_eq_right]

/-- A task broke off in a call iff the journal says so. -/
theorem mem_breaks_iff {i : Nat} {c : Call} : c ∈ s.breaks i ↔ .panicked i c ∈ s.journal := by
  simp only [breaks, List.mem_filterMap, RunEntry.breakOf?_eq_some_iff, exists_eq_right]

/-! ### Notes in the journal -/

/-- `Grows s t entries`: on the way from `s` to `t` the entries were noted, with the
results among them. -/
structure Grows (s t : RunState) (entries : List RunEntry) : Prop where
  context : t.context = s.context
  cancelled : s.cancelled = true → t.cancelled = true
  journal : t.journal = s.journal ++ entries
  results : t.results.results = s.results.results ++ entries.filterMap RunEntry.result?

section Growth
variable {entries : List RunEntry}

/-- When the journal grows, the deeds of each task grow by those the new entries note. -/
theorem Grows.deeds_eq (h : Grows s t entries) (i : Nat) :
    t.deeds i = s.deeds i ++ entries.filterMap (RunEntry.deedOf? i) := by
  unfold deeds
  rw [h.journal, List.filterMap_append]

/-- So do the calls in which it broke off. -/
theorem Grows.breaks_eq (h : Grows s t entries) (i : Nat) :
    t.breaks i = s.breaks i ++ entries.filterMap (RunEntry.breakOf? i) := by
  unfold breaks
  rw [h.journal, List.filterMap_append]

end Growth

/-! ### What is no task's -/

/-- Cancelling a run is noted. -/
theorem grows_cancel (s : RunState) :
    Grows s ({ s with cancelled := true }.note .cancelled) [.cancelled] :=
  ⟨rfl, fun _ => rfl, rfl, (List.append_nil _).symm⟩

/-- What completing a run notes: the removal and the results that were left out. The removal comes
first. -/
def completion (s : RunState) (removed : Except GatewayError Nat) (clock : Nat) : List RunEntry :=
  .swept removed :: s.unrecorded.map fun cell => .recorded none (recovered clock cell)

/-- Completing a run is noted, by the entries listed in `completion`. -/
theorem grows_complete (s : RunState) (removed : Except GatewayError Nat) (clock : Nat) :
    Grows s (s.complete removed clock) (s.completion removed clock) := by
  refine ⟨rfl, id, List.append_assoc _ _ _, ?_⟩
  have noted : (s.unrecorded.map fun cell =>
      RunEntry.recorded none (recovered clock cell)).filterMap RunEntry.result?
        = s.unrecorded.map (recovered clock) := by
    rw [List.filterMap_map]
    exact congrFun List.filterMap_eq_map' _
  show _ ++ _ = _ ++ (s.unrecorded.map _).filterMap _
  rw [noted]

/-- Completing a run notes nothing of any task. -/
theorem filterMap_completion (s : RunState) (removed : Except GatewayError Nat) (clock j : Nat) :
    (s.completion removed clock).filterMap (RunEntry.deedOf? j) = [] ∧
      (s.completion removed clock).filterMap (RunEntry.breakOf? j) = [] := by
  simp [completion, RunEntry.deedOf?, RunEntry.breakOf?]

/-- An answered call is the deed of its task alone. -/
theorem filterMap_answered (i j : Nat) (c : Call) (reply : c.Reply) :
    [RunEntry.answered i c reply].filterMap (RunEntry.deedOf? j)
      = if j = i then [.called c reply] else [] := by
  by_cases same : i = j <;> simp [RunEntry.deedOf?, same, eq_comm]

/-- A result that was handed in is the deed of its task alone. -/
theorem filterMap_recorded (i j : Nat) (r : CellResult) :
    [RunEntry.recorded (some i) r].filterMap (RunEntry.deedOf? j)
      = if j = i then [.recorded r] else [] := by
  by_cases same : i = j <;> simp [RunEntry.deedOf?, same, eq_comm]

/-- Every event is noted, with the results it records. The results of a run and its journal cannot
disagree, therefore. -/
theorem grows_of_happens (happens : Happens s e t) : ∃ entries, Grows s t entries := by
  cases happens with
  | @take entry planned clock next =>
    cases entry with
    | run cell => exact ⟨[], rfl, id, (List.append_nil _).symm, (List.append_nil _).symm⟩
    | skip cell reason => exact ⟨[.recorded none _], rfl, id, rfl, rfl⟩
  | grant | look => exact ⟨[], rfl, id, (List.append_nil _).symm, (List.append_nil _).symm⟩
  | abort | handIn => exact ⟨[.recorded (some _) _], rfl, id, rfl, rfl⟩
  | reply | abandon => exact ⟨[.answered _ _ _], rfl, id, rfl, (List.append_nil _).symm⟩
  | panic => exact ⟨[.panicked _ _], rfl, id, rfl, (List.append_nil _).symm⟩
  | cancel => exact ⟨_, grows_cancel s⟩
  | finish removed clock => exact ⟨_, grows_complete s removed clock⟩

/-! ### One task -/

variable {i : Nat}

/-- The task did nothing: the journal has no new entry of it. What the other tasks did is left
open. -/
structure Rests (s t : RunState) (i : Nat) : Prop where
  deeds : t.deeds i = s.deeds i
  breaks : t.breaks i = s.breaks i

/-- What an event does to the task at the place `i`. Most events concern one task or none, so for
all other places the answer is `still`. -/
inductive Moves (s t : RunState) (i : Nat) : Prop
  | still (same : t.tasks[i]? = s.tasks[i]?) (rests : Rests s t i)
  | taken {cell : Cell} (fresh : s.tasks[i]? = none) (waits : t.tasks[i]? = some ⟨cell, .waiting⟩)
      (rests : Rests s t i)
  | granted {cell : Cell} (waits : s.tasks[i]? = some ⟨cell, .waiting⟩)
      (goes : t.tasks[i]? = some ⟨cell, statusOf (Pipeline.task s.context cell)⟩)
      (rests : Rests s t i)
  | aborted {cell : Cell} (clock : Nat) (waits : s.tasks[i]? = some ⟨cell, .waiting⟩)
      (cancelled : s.cancelled = true) (ends : t.tasks[i]? = some ⟨cell, .done⟩)
      (deeds : t.deeds i = s.deeds i
        ++ [.recorded (.skipped cell Pipeline.abortReason (.ofNanoseconds clock))])
      (breaks : t.breaks i = s.breaks i)
  | answered {cell : Cell} {q : CellQuestion} {next : CellAnswer q → CellProgram Unit}
      (a : CellAnswer q) (stands : s.tasks[i]? = some ⟨cell, .running (.ask q next)⟩)
      (honest : ∀ moment : Moment, (⟨q, a⟩ : Σ q, CellAnswer q) = ⟨.observe, moment⟩ →
        moment.cancelled = s.cancelled)
      (goes : t.tasks[i]? = some ⟨cell, statusOf (next a)⟩)
      (deeds : t.deeds i = s.deeds i ++ CellProgram.deeds [⟨q, a⟩])
      (breaks : t.breaks i = s.breaks i)
  | broke {cell : Cell} {c : Call} {next : c.Reply → CellProgram Unit}
      (stands : s.tasks[i]? = some ⟨cell, .running (.ask (.call c) next)⟩)
      (ends : t.tasks[i]? = some ⟨cell, .panicked⟩) (deeds : t.deeds i = s.deeds i)
      (breaks : t.breaks i = s.breaks i ++ [c])

section Notes
variable {entries : List RunEntry}

/-- A task rests if nothing of it is noted. -/
theorem Grows.rests (h : Grows s t entries)
    (deeds : entries.filterMap (RunEntry.deedOf? i) = [])
    (breaks : entries.filterMap (RunEntry.breakOf? i) = []) : Rests s t i :=
  ⟨by rw [h.deeds_eq, deeds, List.append_nil], by rw [h.breaks_eq, breaks, List.append_nil]⟩

/-- Where the status of one task is changed and only that task's part of the journal grows,
the others stay as they are. -/
theorem moves_of_other {j : Nat} {status : TaskStatus} (h : Grows s t entries) (other : i ≠ j)
    (tasks : t.tasks = (s.setStatus j status).tasks)
    (deeds : entries.filterMap (RunEntry.deedOf? i) = [])
    (breaks : entries.filterMap (RunEntry.breakOf? i) = []) : Moves s t i := by
  refine .still ?_ (h.rests deeds breaks)
  rw [tasks]
  exact getElem?_setStatus_ne s status other

/-- An answer to one task moves that task alone. Looks, results and replies are all answers, so
their three cases of `moves_of_happens` go through this lemma. -/
theorem moves_of_answer {j : Nat} {cell : Cell} {q : CellQuestion}
    {next : CellAnswer q → CellProgram Unit} (h : Grows s t entries) (a : CellAnswer q)
    (stands : s.tasks[j]? = some ⟨cell, .running (.ask q next)⟩)
    (honest : ∀ moment : Moment, (⟨q, a⟩ : Σ q, CellAnswer q) = ⟨.observe, moment⟩ →
      moment.cancelled = s.cancelled)
    (tasks : t.tasks = (s.setStatus j (statusOf (next a))).tasks)
    (own : ∀ k, entries.filterMap (RunEntry.deedOf? k)
      = if k = j then CellProgram.deeds [⟨q, a⟩] else [])
    (unbroken : ∀ k, entries.filterMap (RunEntry.breakOf? k) = []) : Moves s t i := by
  -- The answer is for one task, and the others rest.
  by_cases same : i = j
  · subst same
    refine .answered a stands honest ?_ ?_ ?_
    · rw [tasks]
      exact getElem?_setStatus_self _ stands
    · rw [h.deeds_eq, own, if_pos rfl]
    · rw [h.breaks_eq, unbroken, List.append_nil]
  · exact moves_of_other h same tasks (by rw [own, if_neg same]) (unbroken i)

end Notes

/-- Every event does to a task what `Moves` lists. Statements about a single task are proved over
these few cases, and not over all events of a run. -/
theorem moves_of_happens (happens : Happens s e t) (i : Nat) : Moves s t i := by
  cases happens with
  | @take entry planned clock next =>
    cases entry with
    | skip cell reason =>
      have grows : Grows s ({ s with planned }.takeUp clock (.skip cell reason))
          [.recorded none _] := ⟨rfl, id, rfl, rfl⟩
      exact .still rfl (grows.rests rfl rfl)
    | run cell =>
      -- A new task stands behind all others.
      rcases Nat.lt_trichotomy i s.tasks.length with old | rfl | beyond
      · exact .still (List.getElem?_append_left old) ⟨rfl, rfl⟩
      · exact .taken (List.getElem?_eq_none (Nat.le_refl _)) List.getElem?_concat_length ⟨rfl, rfl⟩
      · refine .still ?_ ⟨rfl, rfl⟩
        rw [List.getElem?_eq_none (Nat.le_of_lt beyond)]
        refine List.getElem?_eq_none ?_
        show (s.tasks ++ [_]).length ≤ i
        rw [List.length_append]
        exact beyond
  | @grant j cell waits free =>
    have grows : Grows s (s.setStatus j (statusOf (Pipeline.task s.context cell))) [] :=
      ⟨rfl, id, (List.append_nil _).symm, (List.append_nil _).symm⟩
    by_cases same : i = j
    · subst same
      exact .granted waits (getElem?_setStatus_self _ waits) ⟨rfl, rfl⟩
    · exact moves_of_other grows same rfl rfl rfl
  | @abort j cell clock waits cancelled =>
    let r : CellResult := .skipped cell Pipeline.abortReason (.ofNanoseconds clock)
    have grows : Grows s ((s.record (some j) r).setStatus j .done) [.recorded (some j) r] :=
      ⟨rfl, id, rfl, rfl⟩
    by_cases same : i = j
    · subst same
      refine .aborted clock waits cancelled (getElem?_setStatus_self _ waits) ?_ ?_
      · rw [grows.deeds_eq, filterMap_recorded, if_pos rfl]
      · rw [grows.breaks_eq]
        exact List.append_nil _
    · exact moves_of_other grows same rfl (by rw [filterMap_recorded, if_neg same]) rfl
  | @look j cell next clock stands =>
    have grows : Grows s (s.setStatus j (statusOf (next ⟨s.cancelled, clock⟩))) [] :=
      ⟨rfl, id, (List.append_nil _).symm, (List.append_nil _).symm⟩
    -- An answer changes the status of its own task and adds the deed, if any, to its journal.
    refine moves_of_answer (q := .observe) grows ⟨s.cancelled, clock⟩ stands ?_ rfl ?_ fun _ => rfl
    · rintro moment same
      cases same
      rfl
    · intro k
      split <;> rfl
  | @handIn j cell r next clock stands =>
    have grows : Grows s ((s.record (some j) r).setStatus j (statusOf (next ())))
        [.recorded (some j) r] := ⟨rfl, id, rfl, rfl⟩
    exact moves_of_answer grows () stands nofun rfl (fun k => filterMap_recorded j k r) fun _ => rfl
  | @reply j cell c next answer stands =>
    have grows : Grows s ((s.note (.answered j c (answer c))).setStatus j
        (statusOf (next (answer c)))) [.answered j c (answer c)] :=
      ⟨rfl, id, rfl, (List.append_nil _).symm⟩
    exact moves_of_answer grows (answer c) stands nofun rfl
      (fun k => filterMap_answered j k c (answer c)) fun _ => rfl
  | @abandon j cell d next stands cancelled =>
    let reply : Except GatewayError ImageTag := .error (.cancelled ("build of " ++ d.name))
    have grows : Grows s ((s.note (.answered j (.build d) reply)).setStatus j
        (statusOf (next reply))) [.answered j (.build d) reply] :=
      ⟨rfl, id, rfl, (List.append_nil _).symm⟩
    exact moves_of_answer grows reply stands nofun rfl
      (fun k => filterMap_answered j k (.build d) reply) fun _ => rfl
  | @panic j cell c next stands =>
    have grows : Grows s ((s.note (.panicked j c)).setStatus j .panicked) [.panicked j c] :=
      ⟨rfl, id, rfl, (List.append_nil _).symm⟩
    by_cases same : i = j
    · subst same
      refine .broke stands (getElem?_setStatus_self _ stands) ?_ ?_
      · rw [grows.deeds_eq]
        exact List.append_nil _
      · rw [grows.breaks_eq]
        simp [RunEntry.breakOf?]
    · refine moves_of_other grows same rfl rfl ?_
      simp [RunEntry.breakOf?, Ne.symm same]
  | cancel => exact .still rfl ((grows_cancel s).rests rfl rfl)
  | finish removed clock taken ended unfinished =>
    obtain ⟨noDeeds, noBreaks⟩ := filterMap_completion s removed clock i
    exact .still rfl ((grows_complete s removed clock).rests noDeeds noBreaks)

end RunState

end InstallMatrix
