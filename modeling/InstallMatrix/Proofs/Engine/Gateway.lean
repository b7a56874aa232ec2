import InstallMatrix.Engine.Containers
import InstallMatrix.Proofs.Program

/-!
# `InstallMatrix.Proofs.Engine.Gateway`: what the gateway asks an engine

For each call that starts or removes containers, the finished paths through its program are
listed: what is asked and replied, in which order, and what is tracked afterwards.
`of_path_startContainer` and `of_path_removeContainer` say this of one container,
`of_path_removeEach_cons` takes a sweep apart into removals and `of_path_removeEach` sums
them up.

Building an image, running a command and reading logs are `Harmless`: whatever the engine
answers, no container is asked to be started.
-/

set_option autoImplicit false

namespace InstallMatrix

open Program (Path Transcript)

/-! ### What the gateway asks -/

namespace EngineGateway

variable {r : EngineGateway} {tracked : Tracked} {log : Transcript EngineAnswer}

/-- The call that starts a container. Its words are those of the container program, options first.
-/
def starting (r : EngineGateway) (name : String) (image : ImageTag) (options : StartOptions) :
    Invocation :=
  ⟨r.engine.kind.hostArguments r.engine.socket, r.startArguments name image options,
    r.config.commandTimeout⟩

/-- The call that removes a container, by its id or by its name. It is the same call in a
teardown, in a sweep and after a failed start. -/
def removal (r : EngineGateway) (target : String) : Invocation :=
  ⟨r.engine.kind.hostArguments r.engine.socket, ["rm", "--force", target],
    r.config.commandTimeout⟩

/-- The call that starts a container starts the one of its name. -/
theorem starts?_starting (name : String) (image : ImageTag) (options : StartOptions) :
    (r.starting name image options).starts? = some name := by
  simp [starting, startArguments, Invocation.starts?]

/-- The call that starts a container removes none. -/
theorem removes?_starting (name : String) (image : ImageTag) (options : StartOptions) :
    (r.starting name image options).removes? = none := by
  simp [starting, startArguments, Invocation.removes?]

/-- What calling the engine's program comes to. A program that runs out of time or cannot be
started gives an error, and one that ended gives its output, whatever its exit code. -/
def answered (r : EngineGateway) (arguments : List String) :
    Invocation.Result → Except GatewayError ProcessOutput
  | .ended output => .ok output
  | .overdue _ _ =>
    .error (.timeout (r.engine.kind.name ++ " " ++ Text.joined " " arguments))
  | .unstartable reason => .error (.inputOutput reason)

/-- A command is one question. -/
theorem command_eq (r : EngineGateway) (arguments : List String) :
    r.command arguments = .ask (.invoke r.program ⟨r.engine.kind.hostArguments r.engine.socket,
      arguments, r.config.commandTimeout⟩) fun result => .pure (r.answered arguments result) := by
  show Program.ask _ _ = Program.ask _ _
  congr 1
  funext result
  cases result with
  | ended output => rfl
  | overdue stdout stderr => rfl
  | unstartable reason => rfl

/-- A command of the engine asks one question, and its answer is what the result comes to. There
is nothing else a finished command can have done. -/
theorem of_path_command {arguments : List String} {answer : Except GatewayError ProcessOutput}
    (path : Path (r.command arguments) log (.pure answer)) :
    ∃ result, log = [⟨.invoke r.program ⟨r.engine.kind.hostArguments r.engine.socket, arguments,
      r.config.commandTimeout⟩, result⟩] ∧ answer = r.answered arguments result := by
  rw [command_eq] at path
  obtain ⟨result, rest, rfl, onward⟩ := path.of_ask_pure
  obtain ⟨rfl, rfl⟩ := onward.end_of_pure
  exact ⟨result, rfl, rfl⟩

/-- Every result of the program is one a command may come to. -/
theorem path_command (arguments : List String) (result : Invocation.Result) :
    Path (r.command arguments) [⟨.invoke r.program ⟨r.engine.kind.hostArguments r.engine.socket,
      arguments, r.config.commandTimeout⟩, result⟩] (.pure (r.answered arguments result)) := by
  rw [command_eq]
  exact Program.Path.step (A := EngineAnswer) (q := .invoke _ _) result (.here _)

/-- A removal asks once, and succeeds just if the container is reported to be gone. Both a removal
and a complaint that it is missing are such reports. -/
theorem of_path_removeByName {target : String} {out : Except GatewayError Unit}
    (path : Path (r.removeByName target) log (.pure out)) :
    ∃ result, log = [⟨.invoke r.program (r.removal target), result⟩] ∧
      (out = .ok () ↔ result.reportsGone = true) := by
  obtain ⟨answer, first, rest, rfl, inside, onward⟩ := path.split_pure
  obtain ⟨result, rfl, rfl⟩ := of_path_command inside
  refine ⟨result, ?_⟩
  cases result with
  | ended output =>
    simp only [answered] at onward
    split at onward
    · next gone =>
      obtain ⟨rfl, rfl⟩ := onward.end_of_pure
      exact ⟨rfl, fun _ => gone, fun _ => rfl⟩
    · next there =>
      obtain ⟨rfl, rfl⟩ := onward.end_of_pure
      exact ⟨rfl, nofun, fun gone => absurd gone there⟩
  | overdue stdout stderr | unstartable reason =>
    obtain ⟨rfl, rfl⟩ := onward.end_of_pure
    exact ⟨rfl, nofun, nofun⟩

/-- A container stays tracked unless it is reported to be gone. That it is missing is read off the
message of the engine, and counts as being gone. -/
theorem of_path_removeContainer {c : Container} {out : Except GatewayError Unit}
    {after : Tracked} (path : Path (r.removeContainer tracked c) log (.pure (out, after))) :
    ∃ result, log = [⟨.invoke r.program (r.removal c.id), result⟩] ∧
      (out = .ok () ↔ result.reportsGone = true) ∧
        after = if result.reportsGone then untrack tracked c.id else tracked := by
  obtain ⟨answer, first, rest, rfl, inside, onward⟩ := path.split_pure
  obtain ⟨result, rfl, ok⟩ := of_path_removeByName inside
  refine ⟨result, ?_⟩
  -- What is removed is forgotten, and only then.
  cases answer with
  | ok =>
    obtain ⟨rfl, same⟩ := onward.end_of_pure
    cases same
    rw [if_pos (ok.mp rfl)]
    exact ⟨rfl, ok, rfl⟩
  | error e =>
    obtain ⟨rfl, same⟩ := onward.end_of_pure
    cases same
    have there : ¬ result.reportsGone = true := fun gone => nomatch ok.mpr gone
    rw [if_neg there]
    exact ⟨rfl, iff_of_false nofun there, rfl⟩

/-- A removal that is reported as one may come to its end so. -/
theorem path_removeContainer {c : Container} {result : Invocation.Result}
    (gone : result.reportsGone = true) :
    Path (r.removeContainer tracked c) [⟨.invoke r.program (r.removal c.id), result⟩]
      (.pure (.ok (), untrack tracked c.id)) := by
  cases result with
  | overdue | unstartable => cases gone
  | ended output =>
    refine Program.Path.trans (((path_command _ (.ended output)).bind _).bind _) ?_
    simp only [Program.pure_bind, answered]
    rw [if_pos (show (_ || _) = true from gone)]
    exact .here _

/-- Several removals are made one after the other, whatever comes of each. What is tracked between
the first and the rest is handed on. -/
theorem of_path_removeEach_cons {c : Container} {order : List Container} {count : Nat}
    {after : Tracked} (path : Path (r.removeEach tracked (c :: order)) log (.pure (count, after))) :
    ∃ out between others first rest, log = first ++ rest ∧
      (count = match out with | .ok () => others + 1 | .error _ => others) ∧
        Path (r.removeContainer tracked c) first (.pure (out, between)) ∧
          Path (r.removeEach between order) rest (.pure (others, after)) := by
  obtain ⟨⟨out, between⟩, first, rest, rfl, removes, onward⟩ := path.split_pure
  obtain ⟨⟨others, last⟩, removesRest, same⟩ := onward.split_map
  cases same
  exact ⟨out, between, others, first, rest, rfl, rfl, removes, removesRest⟩

/-- The gateway reads the id that is reported. -/
theorem startedId_answered {arguments : List String} {result : Invocation.Result} {id : String} :
    startedId (r.answered arguments result) = .ok id ↔ result.startedId? = some id := by
  cases result with
  | overdue stdout stderr | unstartable reason => exact ⟨nofun, nofun⟩
  | ended output =>
    simp only [answered, startedId, Invocation.Result.startedId?]
    by_cases success : output.ending.success = true <;>
      by_cases blank : printedId output.stdout = "" <;> simp [success, blank]

/-- A start that reports an id is tracked. After any other one a removal is tried, whatever
comes of it. -/
theorem of_path_startContainer {image : ImageTag} {options : StartOptions}
    {out : Except GatewayError Container} {after : Tracked}
    (path : Path (r.startContainer tracked image options) log (.pure (out, after))) :
    ∃ name suffix result rest,
      log = ⟨.suffix, suffix⟩ :: ⟨.invoke r.program (r.starting name image options), result⟩ :: rest
        ∧ ((∃ id, result.startedId? = some id ∧ rest = [] ∧
            out = .ok ⟨id, name, image, options.cell⟩ ∧
              after = track tracked ⟨id, name, image, options.cell⟩) ∨
          (result.startedId? = none ∧ (∃ e, out = .error e) ∧ after = tracked ∧
            ∃ removed, rest = [⟨.invoke r.program (r.removal name), removed⟩])) := by
  obtain ⟨suffix, rest, rfl, named⟩ := path.of_question_bind
  refine ⟨containerName options.cell suffix, suffix, ?_⟩
  obtain ⟨answer, first, rest, rfl, inside, onward⟩ := named.split_pure
  obtain ⟨result, rfl, rfl⟩ := of_path_command inside
  refine ⟨result, rest, rfl, ?_⟩
  -- A start that gives no identifier is followed by the removal of the container by its name.
  cases started : startedId (r.answered
      (r.startArguments (containerName options.cell suffix) image options) result) with
  | ok id =>
    simp only [started] at onward
    obtain ⟨rfl, same⟩ := onward.end_of_pure
    cases same
    exact .inl ⟨id, startedId_answered.mp started, rfl, rfl, rfl⟩
  | error e =>
    simp only [started] at onward
    obtain ⟨removal, first, rest, rfl, removes, ends⟩ := onward.split_pure
    obtain ⟨removed, rfl, -⟩ := of_path_removeByName removes
    obtain ⟨rfl, same⟩ := ends.end_of_pure
    cases same
    refine .inr ⟨?_, ⟨e, rfl⟩, rfl, removed, rfl⟩
    cases reported : result.startedId? with
    | none => rfl
    | some id =>
      rw [startedId_answered.mpr reported] at started
      cases started

/-! ### Sweeps -/

/-- The removals of a sweep, each with its result. The result decides whether the container counts
as removed. -/
abbrev Removals := List (Container × Invocation.Result)

namespace Removals

variable {ends : Removals}

/-- The containers in the order in which a sweep takes them. -/
def order (ends : Removals) : List Container := ends.map Prod.fst

/-- One removal is asked for after the other. -/
def asked (r : EngineGateway) (ends : Removals) : Transcript EngineAnswer :=
  ends.map fun e => ⟨.invoke r.program (r.removal e.1.id), e.2⟩

/-- Those that are reported to be gone. -/
def removed (ends : Removals) : List Container :=
  (ends.filter fun e => e.2.reportsGone).map Prod.fst

/-- Those that are not. -/
def failed (ends : Removals) : List Container :=
  (ends.filter fun e => !e.2.reportsGone).map Prod.fst

/-- The first container is counted as removed if it is reported to be gone. -/
theorem removed_cons (c : Container) (result : Invocation.Result) (ends : Removals) :
    removed ((c, result) :: ends) =
      if result.reportsGone then c :: ends.removed else ends.removed := by
  cases gone : result.reportsGone <;> simp [removed, gone]

/-- A sweep asks for removals, and for nothing else. It neither looks at containers nor at images.
-/
theorem mem_asked {q : EngineQuestion} {a : EngineAnswer q} (mem : ⟨q, a⟩ ∈ ends.asked r) :
    ∃ c : Container, q = .invoke r.program (r.removal c.id) := by
  obtain ⟨e, -, same⟩ := List.mem_map.mp mem
  cases same
  exact ⟨e.1, rfl⟩

/-- Where no two containers share an id, a removal failed just if no removal of this id
succeeded. -/
theorem failed_eq_filter (distinct : (ends.order.map Container.id).Nodup) :
    ends.failed = ends.order.filter fun c => decide (c.id ∉ ends.removed.map Container.id) := by
  rw [failed, order, List.filter_map]
  congr 1
  refine List.filter_congr fun e mem => ?_
  -- A removal of this id is the one of this container.
  have only : ∀ e' ∈ ends, e'.1.id = e.1.id → e' = e := by
    rw [order, List.map_map] at distinct
    exact fun e' mem' same => List.inj_on_of_nodup_map distinct mem' mem same
  cases gone : e.2.reportsGone with
  | true =>
    have hit : e.1.id ∈ ends.removed.map Container.id :=
      List.mem_map_of_mem (List.mem_map_of_mem (List.mem_filter.mpr ⟨mem, gone⟩))
    exact (decide_eq_false (not_not.mpr hit)).symm
  | false =>
    have none : e.1.id ∉ ends.removed.map Container.id := by
      intro hit
      obtain ⟨c, isRemoved, same⟩ := List.mem_map.mp hit
      obtain ⟨e', isGone, rfl⟩ := List.mem_map.mp isRemoved
      obtain ⟨mem', gone'⟩ := List.mem_filter.mp isGone
      rw [only e' mem' same, gone] at gone'
      cases gone'
    exact (decide_eq_true none).symm

end Removals

/-- A sweep makes one removal for each container, whatever comes of the others, and counts
those that succeed. -/
theorem of_path_removeEach {after : Tracked} {order : List Container} {count : Nat}
    (path : Path (r.removeEach tracked order) log (.pure (count, after))) :
    ∃ ends : Removals, ends.order = order ∧ log = ends.asked r ∧ count = ends.removed.length ∧
      after = tracked.filter fun c => decide (c.id ∉ ends.removed.map Container.id) := by
  induction order generalizing tracked log count with
  | nil =>
    obtain ⟨rfl, same⟩ := path.end_of_pure
    cases same
    exact ⟨[], rfl, rfl, rfl, by simp [Removals.removed]⟩
  | cons c order ih =>
    obtain ⟨out, between, others, first, rest, rfl, rfl, removes, removesRest⟩ :=
      of_path_removeEach_cons path
    obtain ⟨result, rfl, ok, rfl⟩ := of_path_removeContainer removes
    obtain ⟨ends, rfl, rfl, rfl, rfl⟩ := ih removesRest
    refine ⟨(c, result) :: ends, rfl, rfl, ?_⟩
    rw [Removals.removed_cons]
    cases gone : result.reportsGone with
    | true =>
      -- The container is no longer tracked when the others are removed.
      rw [ok.mpr gone]
      refine ⟨rfl, ?_⟩
      simp only [untrack, if_true, List.filter_filter]
      refine List.filter_congr fun d _ => ?_
      rw [Bool.eq_iff_iff]
      simp only [Bool.and_eq_true, decide_eq_true_iff, bne_iff_ne, List.map_cons, List.mem_cons,
        not_or, and_comm, ne_eq]
    | false =>
      cases out with
      | ok => cases gone.symm.trans (ok.mp rfl)
      | error e => exact ⟨rfl, rfl⟩

/-! ### Calls that start nothing -/

/-- The question does not ask for a container to be started. Questions that call no program never
do. -/
def StartsNothing : EngineQuestion → Prop
  | .invoke _ call => call.starts? = none
  | _ => True

/-- The program starts no containers, whatever it is answered. Most of what a gateway does is
harmless, and the containers that are tracked are left alone by it. -/
def Harmless {α : Type} (p : EngineProgram α) : Prop :=
  p.Meets (fun _ _ => True) StartsNothing fun _ => True

/-- A program starts nothing if its parts do not. Programs are shown harmless along the way they
are put together. -/
theorem Harmless.bind {α β : Type} {p : EngineProgram α} {f : α → EngineProgram β}
    (h : Harmless p) (rest : ∀ a, Harmless (f a)) : Harmless (p >>= f) :=
  Program.meets_bind.mpr (h.mono (fun _ => id) fun a _ => rest a)

/-- A question that starts nothing is a harmless program. -/
theorem harmless_question {q : EngineQuestion} (h : StartsNothing q) :
    Harmless (Program.question q) := ⟨h, fun _ _ => trivial⟩

/-- A program without questions starts nothing. -/
theorem harmless_pure {α : Type} (a : α) : Harmless (Program.pure a) := trivial

/-- A call that starts nothing and leaves alone what is tracked. Most calls of a session are of
this kind, and one lemma about them covers all. -/
theorem Harmless.of_path {α : Type} {p : EngineProgram α} (h : Harmless p) {a : α}
    {after : Tracked} (path : Path (do return (← p, tracked)) log (.pure (a, after))) :
    after = tracked ∧
      ∀ {q : EngineQuestion} {a : EngineAnswer q}, ⟨q, a⟩ ∈ log → StartsNothing q := by
  obtain ⟨b, inside, same⟩ := path.split_map
  cases same
  exact ⟨rfl, fun mem => h.asks_of_path inside (fun _ => trivial) mem⟩

/-- A call whose first word is another one starts nothing. -/
theorem starts?_eq_none {call : Invocation} (other : call.arguments.head? ≠ some "run") :
    call.starts? = none := by
  unfold Invocation.starts?
  split
  · next words =>
    rw [words] at other
    exact absurd rfl other
  · rfl

/-- A call of the engine's program starts nothing if its first word is another one. -/
theorem harmless_invoke {arguments : List String} (other : arguments.head? ≠ some "run")
    (limit : Nat) : Harmless (r.invoke arguments limit) :=
  harmless_question (starts?_eq_none other)

/-- So it is with a command, which is such a call. -/
theorem harmless_command {arguments : List String} (other : arguments.head? ≠ some "run") :
    Harmless (r.command arguments) := by
  refine (harmless_invoke other _).bind fun result => ?_
  cases result <;> exact harmless_pure _

/-- Building an image in a directory starts nothing. -/
theorem harmless_buildIn (d : Definition) (dir : String) : Harmless (r.buildIn d dir) :=
  (harmless_invoke (by simp [buildArguments]) _).bind fun _ => harmless_pure _

/-- Nor does writing the files for it. -/
theorem harmless_buildMissing (d : Definition) : Harmless (r.buildMissing d) := by
  refine (harmless_question (q := .writeContext d.context) trivial).bind fun context => ?_
  cases context with
  | ok dir => exact harmless_buildIn d dir
  | error reason => exact harmless_pure _

/-- Nor does looking for the image first. -/
theorem harmless_findOrBuild (d : Definition) : Harmless (r.findOrBuild d) := by
  refine (harmless_command (by simp)).bind fun answer => ?_
  cases answer with
  | error e => exact harmless_pure _
  | ok output =>
    dsimp only
    by_cases success : output.ending.success = true
    · rw [if_pos success]
      exact harmless_pure _
    · rw [if_neg success]
      exact harmless_buildMissing d

/-- Nor does waiting for the lock before that. -/
theorem harmless_buildImage (d : Definition) : Harmless (r.buildImage d) :=
  (harmless_question (q := .lock d.imageTag) trivial).bind fun lock =>
    (harmless_question (q := .hold lock) trivial).bind fun _ => harmless_findOrBuild d

/-- A command inside a container starts none. -/
theorem harmless_exec (c : Container) (command : ShellCommand) : Harmless (r.exec c command) :=
  (harmless_invoke (by simp [execArguments]) _).bind fun _ => harmless_pure _

/-- Reading the logs starts none. -/
theorem harmless_logs (c : Container) : Harmless (r.logs c) := by
  refine (harmless_command (by simp)).bind fun answer => ?_
  cases answer with
  | error e => exact harmless_pure _
  | ok output =>
    dsimp only
    by_cases success : output.ending.success = true
    · rw [if_pos success]
      exact harmless_pure _
    · rw [if_neg success]
      -- What the engine complains of does not matter, and is not to be computed.
      generalize isMissing _ = missing
      cases missing <;> exact harmless_pure _

end EngineGateway

end InstallMatrix
