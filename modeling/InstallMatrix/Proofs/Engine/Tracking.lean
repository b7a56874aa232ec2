import InstallMatrix.Proofs.Engine.Containers

/-!
# `InstallMatrix.Proofs.Engine.Tracking`: the containers a gateway still has to remove

A sweep removes what the gateway tracks. A container that it forgot would stay behind, and one
that it kept for too long would be removed twice.

`Tracks` is a gateway at work as its caller sees it: every call comes with what the engine was
asked and answered, and with the reply. A container is `Live` if a call started it and no later
one released it, that is, removed it, swept it away or retained it. `Tracks.mem_iff_live` is the
main result: the tracked containers are the live ones, if the engine never reports one id for
two containers.

`Lawful` says what each call asks, replies and leaves tracked. The errors are the reason to say
it: a failed start is followed by a removal under the name it asked for, a failed removal leaves
everything as it was, and a sweep goes on to the next container and keeps those that failed, so
that another sweep tries these and no others.

`tracks_exactly` has both, and that every call comes back, however the engine behaves.
-/

set_option autoImplicit false

namespace InstallMatrix

open Program (Path Transcript)
open EngineGateway

/-! ### Calls with their replies -/

namespace SessionEvent

/-- What the caller gets back. After a sweep it is the number of removed containers, and after a
call the reply to it. -/
@[reducible]
def Reply : SessionEvent → Type
  | .serve call => call.Reply
  | .sweep _ => Nat

/-- What the gateway does. It yields the reply and what is tracked afterwards. -/
def answer (r : EngineGateway) (tracked : Tracked) :
    (e : SessionEvent) → EngineProgram (e.Reply × Tracked)
  | .serve call => r.serve tracked call
  | .sweep order => r.removeEach tracked order

/-- The program of a session event is what it answers, without the reply. -/
theorem program_eq_answer (r : EngineGateway) (tracked : Tracked) (e : SessionEvent) :
    e.program r tracked = do return (← e.answer r tracked).2 := by
  cases e <;> rfl

end SessionEvent

/-- A call that was served, with what it asked of the engine and what it replied to its caller. A
history is a list of these. -/
structure Service where
  event : SessionEvent
  /-- What the engine was asked and answered. -/
  log : Transcript EngineAnswer
  reply : event.Reply

/-- `Serves r s x t`: the gateway that tracks `s` may serve the call `x`, and then it
tracks `t`. -/
structure Serves (r : EngineGateway) (s : Tracked) (x : Service) (t : Tracked) : Prop where
  /-- The tracked containers are kept without an order. -/
  order : ∀ order, x.event = .sweep order → order.Perm s
  path : Path (x.event.answer r s) x.log (.pure (x.reply, t))

/-- `Tracks r history s`: a new gateway has served these calls, and now it tracks `s`. The engine
may have answered anything. -/
inductive Tracks (r : EngineGateway) : List Service → Tracked → Prop
  | nothing : Tracks r [] []
  | serve {history : List Service} {x : Service} {s t : Tracked} (run : Tracks r history s)
      (next : Serves r s x t) : Tracks r (history ++ [x]) t

/-- Every step of a session is a call that was served. So histories cover the sessions of an
engine, and nothing about the engine itself is assumed for them. -/
theorem EngineSession.Step.serves {r : EngineGateway} {s t : EngineSession} {e : SessionEvent}
    {log : Transcript EngineAnswer} (step : EngineSession.Step r s e log t) :
    ∃ reply, Serves r s.tracked ⟨e, log, reply⟩ t.tracked := by
  have path := step.path
  rw [SessionEvent.program_eq_answer] at path
  obtain ⟨⟨reply, kept⟩, inside, same⟩ := path.split_map
  cases same
  exact ⟨reply, step.order, inside⟩

/-! ### Live containers -/

/-- The id under which the engine reported a container as started. A start that reports none has
failed for the gateway. -/
def printed? : (Σ q, EngineAnswer q) → Option String
  | ⟨.invoke _ call, result⟩ => if call.starts?.isSome then result.startedId? else none
  | _ => none

/-- What was removed, or is missing as the engine says. Both count as released. -/
def removed? : (Σ q, EngineAnswer q) → Option String
  | ⟨.invoke _ call, result⟩ => if result.reportsGone then call.removes? else none
  | _ => none

namespace Service

/-- The container that was started. -/
def started? : Service → Option Container
  | ⟨.serve (.start _ _), _, .ok c⟩ => some c
  | _ => none

/-- The container with this id was removed or retained. Within a sweep a removal succeeds just
if the container is reported to be gone. -/
def Releases (id : String) : Service → Prop
  | ⟨.serve (.remove c), _, reply⟩ => reply = .ok () ∧ c.id = id
  | ⟨.serve (.retain c), _, _⟩ => c.id = id
  | ⟨.sweep _, log, _⟩ => ∃ entry ∈ log, removed? entry = some id
  | _ => False

end Service

/-- All ids that the engine reported, in turn. That they are distinct is what a caller has to rely
on. -/
def printed (history : List Service) : List String :=
  history.flatMap fun x => x.log.filterMap printed?

/-- A call started the container, and no later one released it. This is said of the history alone,
without what the gateway tracks. -/
def Live (history : List Service) (c : Container) : Prop :=
  ∃ before x after, history = before ++ x :: after ∧ x.started? = some c ∧
    ∀ y ∈ after, ¬ y.Releases c.id

/-- Without a call no container is live. -/
theorem not_live_nil (c : Container) : ¬ Live [] c := by
  rintro ⟨before, x, after, eq, -⟩
  simp at eq

/-- One more call starts a container, or leaves it live. So what is live can be followed call by
call, as what is tracked is. -/
theorem live_concat {history : List Service} {x : Service} {c : Container} :
    Live (history ++ [x]) c ↔ x.started? = some c ∨ Live history c ∧ ¬ x.Releases c.id := by
  constructor
  · rintro ⟨before, y, after, eq, started, kept⟩
    -- The call that started the container is the last one, or the last one came after it.
    rcases after.eq_nil_or_concat with rfl | ⟨after, z, rfl⟩
    · obtain ⟨rfl, same⟩ := List.append_inj' eq rfl
      cases same
      exact .inl started
    · rw [List.concat_eq_append] at eq kept
      rw [← List.cons_append, ← List.append_assoc] at eq
      obtain ⟨rfl, same⟩ := List.append_inj' eq rfl
      cases same
      refine .inr ⟨⟨before, y, after, rfl, started, fun y mem => ?_⟩, ?_⟩
      · exact kept y (List.mem_append_left _ mem)
      · exact kept x (List.mem_append_right _ List.mem_cons_self)
  · rintro (started | ⟨⟨before, y, after, rfl, started, kept⟩, last⟩)
    · exact ⟨history, x, [], rfl, started, nofun⟩
    · refine ⟨before, y, after ++ [x], by simp, started, fun z mem => ?_⟩
      rcases List.mem_append.mp mem with old | new
      · exact kept z old
      · cases List.mem_singleton.mp new
        exact last

/-- An id that the engine reports is not empty. -/
theorem ne_empty_of_startedId? {result : Invocation.Result} {id : String}
    (reported : result.startedId? = some id) : id ≠ "" := by
  cases result with
  | overdue | unstartable => cases reported
  | ended output =>
    simp only [Invocation.Result.startedId?, Option.ite_none_right_eq_some, Bool.and_eq_true,
      bne_iff_ne] at reported
    rw [← Option.some.inj reported.2]
    exact reported.1.2

/-- The log of a sweep tells what was removed. -/
theorem exists_removed?_iff {r : EngineGateway} {ends : Removals} {id : String} :
    (∃ entry ∈ ends.asked r, removed? entry = some id) ↔ id ∈ ends.removed.map Container.id := by
  have target : ∀ e : Container × Invocation.Result,
      removed? ⟨.invoke r.program (r.removal e.1.id), e.2⟩ =
        if e.2.reportsGone then some e.1.id else none := fun _ => rfl
  simp only [Removals.asked, Removals.removed, List.map_map, List.mem_map, List.mem_filter,
    Function.comp_apply]
  constructor
  · rintro ⟨entry, ⟨e, mem, rfl⟩, removes⟩
    rw [target, Option.ite_none_right_eq_some, Option.some.injEq] at removes
    exact ⟨e, ⟨mem, removes.1⟩, removes.2⟩
  · rintro ⟨e, ⟨mem, gone⟩, rfl⟩
    exact ⟨_, ⟨e, mem, rfl⟩, (target e).trans (if_pos gone)⟩

/-! ### What each call does -/

/-- A start asks for a container under a new name. If the engine reports an id, the container
has it and is tracked. If not, the caller gets an error, one removal under the same name has been
tried, and nothing else is tracked than before. -/
def StartLaw (r : EngineGateway) (s : Tracked) (image : ImageTag) (options : StartOptions)
    (log : Transcript EngineAnswer) (reply : Except GatewayError Container) (t : Tracked) : Prop :=
  ∃ name suffix result rest,
    log = ⟨.suffix, suffix⟩ :: ⟨.invoke r.program (r.starting name image options), result⟩ :: rest
      ∧ ((∃ c : Container, reply = .ok c ∧ c.id ≠ "" ∧ result.startedId? = some c.id ∧ c.name = name
          ∧ rest = [] ∧ t = track s c) ∨
        ((∃ e, reply = .error e) ∧ result.startedId? = none ∧
          (∃ result', rest = [⟨.invoke r.program (r.removal name), result'⟩]) ∧ t = s))

/-- A removal is asked for once. The container is tracked no longer just if it succeeds. -/
def RemoveLaw (r : EngineGateway) (s : Tracked) (c : Container) (log : Transcript EngineAnswer)
    (reply : Except GatewayError Unit) (t : Tracked) : Prop :=
  ∃ result, log = [⟨.invoke r.program (r.removal c.id), result⟩] ∧
    ((reply = .ok () ∧ result.reportsGone = true ∧ t = untrack s c.id) ∨
      ((∃ e, reply = .error e) ∧ result.reportsGone = false ∧ t = s))

/-- A sweep makes one removal for each tracked container and counts those that succeed. The
others stay tracked, and another sweep tries just these. -/
def SweepLaw (r : EngineGateway) (s : Tracked) (order : List Container)
    (log : Transcript EngineAnswer) (count : Nat) (t : Tracked) : Prop :=
  ∃ ends : Removals, ends.order = order ∧ order.Perm s ∧ log = ends.asked r ∧
    count = ends.removed.length ∧ t.Perm ends.failed ∧
      ∀ again log' count' u, Serves r t ⟨.sweep again, log', count'⟩ u →
        again.Perm ends.failed ∧ ∃ ends' : Removals, ends'.order = again ∧ log' = ends'.asked r

/-- What each call asks, replies and leaves tracked. There is one law for each kind of call. -/
def Lawful (r : EngineGateway) (s : Tracked) : Service → Tracked → Prop
  | ⟨.serve (.start image options), log, reply⟩, t => StartLaw r s image options log reply t
  | ⟨.serve (.remove c), log, reply⟩, t => RemoveLaw r s c log reply t
  | ⟨.serve (.retain c), log, _⟩, t => log = [] ∧ t = untrack s c.id
  | ⟨.sweep order, log, count⟩, t => SweepLaw r s order log count t
  | ⟨.serve _, log, _⟩, t =>
    t = s ∧ ∀ {q : EngineQuestion} {a : EngineAnswer q}, ⟨q, a⟩ ∈ log → StartsNothing q

section Calls
variable {r : EngineGateway} {s t : Tracked} {x : Service} {log : Transcript EngineAnswer}
  {c : Container}

/-- A start keeps to its law: it tracks the container if it has its id, and nothing otherwise. -/
theorem startLaw_of_path {image : ImageTag} {options : StartOptions}
    {reply : Except GatewayError Container}
    (path : Path (r.startContainer s image options) log (.pure (reply, t))) :
    StartLaw r s image options log reply t := by
  obtain ⟨name, suffix, result, rest, rfl, came⟩ := of_path_startContainer path
  refine ⟨name, suffix, result, rest, rfl, ?_⟩
  rcases came with ⟨id, reported, rfl, rfl, rfl⟩ | ⟨unreported, failed, rfl, tried⟩
  · exact .inl ⟨_, rfl, ne_empty_of_startedId? reported, reported, rfl, rfl, rfl⟩
  · exact .inr ⟨failed, unreported, tried, rfl⟩

/-- A removal keeps to its law. -/
theorem removeLaw_of_path {reply : Except GatewayError Unit}
    (path : Path (r.removeContainer s c) log (.pure (reply, t))) :
    RemoveLaw r s c log reply t := by
  obtain ⟨result, rfl, ok, rfl⟩ := of_path_removeContainer path
  refine ⟨result, rfl, ?_⟩
  cases reply with
  | ok => exact .inl ⟨rfl, ok.mp rfl, if_pos (ok.mp rfl)⟩
  | error e =>
    have there : ¬ result.reportsGone = true := fun gone => nomatch ok.mpr gone
    exact .inr ⟨⟨e, rfl⟩, Bool.eq_false_iff.mpr there, if_neg there⟩

/-- A sweep keeps to its law, in whatever order it takes the containers that are tracked. -/
theorem sweepLaw_of_path {order : List Container} {count : Nat}
    (distinct : (s.map Container.id).Nodup) (whole : order.Perm s)
    (path : Path (r.removeEach s order) log (.pure (count, t))) :
    SweepLaw r s order log count t := by
  obtain ⟨ends, rfl, rfl, rfl, rfl⟩ := of_path_removeEach path
  have left : (s.filter fun c => decide (c.id ∉ ends.removed.map Container.id)).Perm
      ends.failed := by
    rw [Removals.failed_eq_filter ((whole.map _).nodup_iff.mpr distinct)]
    exact whole.symm.filter _
  refine ⟨ends, rfl, whole, rfl, rfl, left, fun again log' count' u next => ?_⟩
  obtain ⟨ends', rfl, rfl, -⟩ := of_path_removeEach next.path
  exact ⟨(next.order _ rfl).trans left, ends', rfl, rfl⟩

/-- Every call keeps to its law. The cases are the kinds of calls, each with its law above. -/
theorem Serves.lawful (step : Serves r s x t) (distinct : (s.map Container.id).Nodup) :
    Lawful r s x t := by
  obtain ⟨event, log, reply⟩ := x
  obtain ⟨whole, path⟩ := step
  cases event with
  | sweep order => exact sweepLaw_of_path distinct (whole order rfl) path
  | serve call =>
    cases call with
    | build d => exact (harmless_buildImage d).of_path path
    | start image options => exact startLaw_of_path path
    | exec c command => exact (harmless_exec c command).of_path path
    | logs c => exact (harmless_logs c).of_path path
    | remove c => exact removeLaw_of_path path
    | retain c =>
      obtain ⟨rfl, same⟩ := path.end_of_pure
      cases same
      exact ⟨rfl, rfl⟩

/-- Where one more container is tracked, ids are still distinct. One that is tracked already is
replaced. -/
theorem nodup_track (distinct : (s.map Container.id).Nodup) (c : Container) :
    ((track s c).map Container.id).Nodup := by
  rw [track, List.map_append, List.nodup_append]
  refine ⟨distinct.sublist (List.filter_sublist.map _), List.nodup_singleton _, ?_⟩
  intro id mem id' mem' same
  obtain ⟨d, kept, rfl⟩ := List.mem_map.mp mem
  obtain rfl := List.mem_singleton.mp mem'
  exact bne_iff_ne.mp (List.mem_filter.mp kept).2 same

/-- What is tracked after an id was dropped are the containers of other ids. -/
theorem mem_untrack {id : String} : c ∈ untrack s id ↔ c ∈ s ∧ id ≠ c.id := by
  rw [untrack, List.mem_filter, bne_iff_ne, ne_comm]

/-- Dropping an id leaves the others distinct. -/
theorem nodup_untrack (distinct : (s.map Container.id).Nodup) (id : String) :
    ((untrack s id).map Container.id).Nodup :=
  distinct.sublist (List.filter_sublist.map _)

/-- No two tracked containers share an id. -/
theorem Serves.nodup (step : Serves r s x t) (distinct : (s.map Container.id).Nodup) :
    (t.map Container.id).Nodup := by
  have law := step.lawful distinct
  obtain ⟨event, log, reply⟩ := x
  cases event with
  | sweep order =>
    -- Those that are left are some of those that were to be removed.
    obtain ⟨ends, rfl, whole, -, -, left, -⟩ := law
    refine (left.map _).nodup_iff.mpr ?_
    rw [Removals.failed_eq_filter ((whole.map _).nodup_iff.mpr distinct)]
    exact ((whole.map _).nodup_iff.mpr distinct).sublist (List.filter_sublist.map _)
  | serve call =>
    cases call with
    | build d | exec c command | logs c =>
      obtain ⟨rfl, -⟩ := law
      exact distinct
    | start image options =>
      obtain ⟨name, suffix, result, rest, -, ⟨c, -, -, -, -, -, rfl⟩ | ⟨-, -, -, rfl⟩⟩ := law
      · exact nodup_track distinct c
      · exact distinct
    | remove c =>
      obtain ⟨result, -, ⟨-, -, rfl⟩ | ⟨-, -, rfl⟩⟩ := law
      · exact nodup_untrack distinct c.id
      · exact distinct
    | retain c =>
      obtain ⟨-, rfl⟩ := law
      exact nodup_untrack distinct c.id

/-- Where nothing is started, no id is reported. -/
theorem filterMap_printed?_eq_nil
    (quiet : ∀ {q : EngineQuestion} {a : EngineAnswer q}, ⟨q, a⟩ ∈ log → StartsNothing q) :
    log.filterMap printed? = [] := by
  refine List.filterMap_eq_nil_iff.mpr ?_
  rintro ⟨q, a⟩ mem
  have none := quiet mem
  cases q with
  | invoke program call =>
    simp only [StartsNothing] at none
    simp [printed?, none]
  | _ => rfl

/-- The only id that a call may report is that of the container it starts. -/
theorem Serves.printed (step : Serves r s x t) (distinct : (s.map Container.id).Nodup) :
    x.log.filterMap printed? = (x.started?.map Container.id).toList := by
  have law := step.lawful distinct
  obtain ⟨event, log, reply⟩ := x
  -- Only a start prints an identifier, so all other calls add nothing.
  cases event with
  | sweep order =>
    obtain ⟨ends, -, -, rfl, -⟩ := law
    refine filterMap_printed?_eq_nil fun mem => ?_
    obtain ⟨c, rfl⟩ := Removals.mem_asked mem
    rfl
  | serve call =>
    cases call with
    | build d | exec c command | logs c => exact filterMap_printed?_eq_nil law.2
    | start image options =>
      obtain ⟨name, suffix, result, rest, rfl, came⟩ := law
      have starts : printed? ⟨.invoke r.program (r.starting name image options), result⟩ =
          result.startedId? := by
        simp [printed?, starts?_starting]
      rcases came with ⟨c, rfl, -, reported, -, rfl, -⟩ | ⟨⟨e, rfl⟩, reported, ⟨result', rfl⟩, -⟩
      · rw [List.filterMap_cons_none rfl, List.filterMap_cons_some (starts.trans reported)]
        rfl
      · rw [List.filterMap_cons_none rfl, List.filterMap_cons_none (starts.trans reported)]
        rfl
    | remove c =>
      obtain ⟨result, rfl, -⟩ := law
      rfl
    | retain c =>
      obtain ⟨rfl, -⟩ := law
      rfl

/-- A tracked container was started by this call, or it was tracked before and this call did
not release it. -/
theorem Serves.mem_iff (step : Serves r s x t) (distinct : (s.map Container.id).Nodup)
    (fresh : ∀ c, x.started? = some c → ∀ d ∈ s, d.id ≠ c.id) {c : Container} :
    c ∈ t ↔ x.started? = some c ∨ c ∈ s ∧ ¬ x.Releases c.id := by
  have law := step.lawful distinct
  obtain ⟨event, log, reply⟩ := x
  cases event with
  | sweep order =>
    obtain ⟨ends, rfl, whole, rfl, -, left, -⟩ := law
    -- What a sweep leaves behind are the containers whose removal failed.
    rw [left.mem_iff, Removals.failed_eq_filter ((whole.map _).nodup_iff.mpr distinct),
      List.mem_filter, whole.mem_iff, decide_eq_true_iff, ← exists_removed?_iff (r := r)]
    simp only [Service.started?, Service.Releases, reduceCtorEq, false_or]
  | serve call =>
    cases call with
    | build d | exec c command | logs c =>
      obtain ⟨rfl, -⟩ := law
      simp [Service.started?, Service.Releases]
    | start image options =>
      obtain ⟨name, suffix, result, rest, -, came⟩ := law
      rcases came with ⟨d, rfl, -, -, -, -, rfl⟩ | ⟨⟨e, rfl⟩, -, -, rfl⟩
      · -- No tracked container has the new id, so none is replaced.
        have all : s.filter (fun t => t.id != d.id) = s :=
          List.filter_eq_self.mpr fun t mem => bne_iff_ne.mpr (fresh d rfl t mem)
        rw [track, all]
        simp [Service.started?, Service.Releases, or_comm, eq_comm]
      · simp [Service.started?, Service.Releases]
    | remove d =>
      obtain ⟨result, -, ⟨rfl, -, rfl⟩ | ⟨⟨e, rfl⟩, -, rfl⟩⟩ := law
      · simp [Service.started?, Service.Releases, mem_untrack]
      · simp [Service.started?, Service.Releases]
    | retain d =>
      obtain ⟨-, rfl⟩ := law
      simp [Service.started?, Service.Releases, mem_untrack]

end Calls

/-! ### Any number of calls -/

namespace Tracks

variable {r : EngineGateway} {history : List Service} {s : Tracked}

/-- The ids that are tracked are distinct along every history. -/
theorem nodup (run : Tracks r history s) : (s.map Container.id).Nodup := by
  induction run with
  | nothing => exact List.nodup_nil
  | serve run next ih => exact next.nodup ih

/-- The gateway of a session serves calls like any other. What is known of histories is known of
sessions, therefore. -/
theorem of_reaches {s t : EngineSession} {past : List Service}
    {events : List (SessionEvent × Transcript EngineAnswer)} (before : Tracks r past s.tracked)
    (run : EngineSession.Reaches r s events t) :
    ∃ calls, Tracks r (past ++ calls) t.tracked ∧
      calls.map (fun x => (x.event, x.log)) = events := by
  induction run generalizing past with
  | here s => exact ⟨[], by simpa using before, rfl⟩
  | step first rest ih =>
    obtain ⟨reply, serves⟩ := first.serves
    obtain ⟨calls, tracks, rfl⟩ := ih (.serve before serves)
    rw [List.append_assoc] at tracks
    exact ⟨_, tracks, rfl⟩

/-- The ids of a history and one more call are those of the history and those of the call. -/
theorem printed_concat (history : List Service) (x : Service) :
    printed (history ++ [x]) = printed history ++ x.log.filterMap printed? := by
  simp [printed]

/-- Each call reported the id of the container it started, and no other one. -/
theorem printed_of_mem (run : Tracks r history s) {x : Service} (mem : x ∈ history) :
    x.log.filterMap printed? = (x.started?.map Container.id).toList := by
  induction run with
  | nothing => cases mem
  | serve run next ih =>
    rcases List.mem_append.mp mem with old | new
    · exact ih old
    · cases List.mem_singleton.mp new
      exact next.printed run.nodup

/-- A live container was started under an id that the engine reported. -/
theorem mem_printed_of_live (run : Tracks r history s) {c : Container} (live : Live history c) :
    c.id ∈ printed history := by
  obtain ⟨before, x, after, rfl, started, -⟩ := live
  have mem : x ∈ before ++ x :: after := List.mem_append_right _ List.mem_cons_self
  refine List.mem_flatMap.mpr ⟨x, mem, ?_⟩
  simp [run.printed_of_mem mem, started]

/-- Where the engine reports no id twice, the tracked containers are the live ones. The induction
is on the history, and each call keeps the two in step by its law. -/
theorem mem_iff_live (run : Tracks r history s) (distinct : (printed history).Nodup)
    (c : Container) : c ∈ s ↔ Live history c := by
  induction run generalizing c with
  | nothing => exact iff_of_false List.not_mem_nil (not_live_nil c)
  | @serve history x s t run next ih =>
    rw [printed_concat, List.nodup_append] at distinct
    obtain ⟨before, -, apart⟩ := distinct
    -- The new id was not reported before, so no tracked container has it.
    have fresh : ∀ d, x.started? = some d → ∀ c ∈ s, c.id ≠ d.id := by
      intro d started c mem
      refine apart _ (run.mem_printed_of_live ((ih before c).mp mem)) _ ?_
      simp [next.printed run.nodup, started]
    rw [next.mem_iff run.nodup fresh, live_concat, ih before]

/-- A gateway is called any number of times, the engine answers as it likes but reports no id
twice. Then the tracked containers are those that are live, each under an id of its own. Every
further call keeps to its law and comes back. -/
theorem tracks_exactly (run : Tracks r history s) (distinct : (printed history).Nodup) :
    (∀ c, c ∈ s ↔ Live history c) ∧ (s.map Container.id).Nodup ∧
      (∀ x t, Serves r s x t → Lawful r s x t) ∧
        ∀ e : SessionEvent, (∀ order, e = .sweep order → order.Perm s) →
          ∀ {σ : Type} (engine : (q : EngineQuestion) → σ → EngineAnswer q × σ) (w : σ),
            ∃ log reply t, Serves r s ⟨e, log, reply⟩ t ∧
              ((e.answer r s).run engine w).1 = (reply, t) := by
  refine ⟨run.mem_iff_live distinct, run.nodup, fun x t step => step.lawful run.nodup, ?_⟩
  intro e whole σ engine w
  obtain ⟨log, path⟩ := Program.path_of_run engine (e.answer r s) w
  exact ⟨log, _, _, ⟨whole, path⟩, rfl⟩

namespace Sample

open EngineSession.Sample

/-- A start that succeeds. -/
def started : Service :=
  ⟨.serve (.start ⟨"image"⟩ startOptions), startLog "0a1b2c3d" (exits 0 [99, 49]),
    .ok (container "c1" "0a1b2c3d")⟩

/-- A start that fails, and leaves a container that is not removed. -/
def unstarted : Service :=
  ⟨.serve (.start ⟨"image"⟩ startOptions), (failedStart "4e5f6a7b").2,
    .error (.commandFailed "run" "")⟩

/-- A sweep that cannot remove the one container there is. -/
def unswept : Service :=
  ⟨.sweep [container "c1" "0a1b2c3d"], removeLog "c1" (exits 1 []), (0 : Nat)⟩

/-- One start succeeds, another one fails, and then a sweep fails. The first container is tracked
all the time. -/
def calls : List Service := [started, unstarted, unswept]

/-- After these calls the gateway tracks the one container that was started. -/
theorem tracks_calls : Tracks gateway calls [container "c1" "0a1b2c3d"] := by
  have reported : (exits 0 [99, 49]).startedId? = some "c1" := by decide +kernel
  -- One start that works, one that fails, and a sweep that leaves the container.
  have first : Tracks gateway ([] ++ [started]) [container "c1" "0a1b2c3d"] :=
    .serve .nothing ⟨nofun, path_started _ reported⟩
  have second : Tracks gateway ([started] ++ [unstarted]) [container "c1" "0a1b2c3d"] :=
    .serve first ⟨nofun, path_failedStart _⟩
  have third : Tracks gateway ([started, unstarted] ++ [unswept])
      [container "c1" "0a1b2c3d"] := by
    refine .serve second ⟨?_, ?_⟩
    · intro order same
      cases same
      exact .refl _
    · refine Program.Path.step (A := EngineAnswer) (q := .invoke _ _) (exits 1 []) ?_
      exact .here _
  exact third

end Sample

/-- The container that could not be removed is live, and it is the only one. -/
theorem tracks_exactly_of_failed_sweep :
    printed Sample.calls = ["c1"] ∧
      ∀ c, Live Sample.calls c ↔ c = EngineSession.Sample.container "c1" "0a1b2c3d" := by
  have reported : printed Sample.calls = ["c1"] := by decide +kernel
  have exactly := Sample.tracks_calls.tracks_exactly (reported ▸ List.nodup_singleton _)
  exact ⟨reported, fun c => (exactly.1 c).symm.trans List.mem_singleton⟩

end Tracks

end InstallMatrix
