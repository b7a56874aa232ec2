import InstallMatrix.Proofs.Engine.Gateway

/-!
# `InstallMatrix.Proofs.Engine.Containers`: what a sweep leaves on the engine

A gateway is called any number of times to start, remove and retain containers and to sweep,
and the engine may fail at each call, also after it has made the container it was asked for.

`Known` ties the engine's containers to what the gateway remembers: each of them is tracked,
or there is an excuse for it. `known_of_step` keeps it along every call. There are three excuses:
* the container was retained;
* it is stranded: its start failed, and then it could not be removed either. A failed start is
  not tracked, so nobody tries again;
* it was denied: a removal of it failed with words that are taken to mean that it is missing,
  and so it was forgotten although it was there.

`gone_of_sweep` says that a sweep whose removals all exit with code zero leaves no other
container behind. `exists_stranded_of_sweep` has two sessions in which one is left that was not
retained: a stranded one, and one that was denied.
-/

set_option autoImplicit false

namespace InstallMatrix

open Program (Path Transcript)

/-! ### The containers of the engine -/

namespace EngineContainer

variable {present between after lost others : List EngineContainer}
  {log more : Transcript EngineAnswer}

/-- Where nothing was asked, the engine has what it had and denies nothing. -/
theorem Follows.nil (h : Follows present [] after lost) : after = present ∧ lost = [] := by
  cases h
  exact ⟨rfl, rfl⟩

/-- A transcript that begins with a call of the program goes on from what the call changed. What
the call denied comes first. -/
theorem Follows.of_invoked {program : String} {call : Invocation} {result : Invocation.Result}
    (h : Follows present (⟨.invoke program call, result⟩ :: log) after lost) :
    ∃ between others, Changes present call result between ∧ Follows between log after others ∧
      lost = denied call result between ++ others := by
  cases h with
  | invoked changes rest => exact ⟨_, _, changes, rest, rfl⟩
  | other quiet rest => exact absurd rfl (quiet _ _)

/-- Questions that call no program leave the engine alone. -/
theorem Follows.of_other {q : EngineQuestion} {answer : EngineAnswer q}
    (quiet : ∀ program call, q ≠ .invoke program call)
    (h : Follows present (⟨q, answer⟩ :: log) after lost) : Follows present log after lost := by
  cases h with
  | invoked changes rest => exact absurd rfl (quiet _ _)
  | other _ rest => exact rest

/-- What was asked first was answered first. What was denied falls into two parts as well. -/
theorem Follows.split (h : Follows present (log ++ more) after lost) :
    ∃ between first second, Follows present log between first ∧
      Follows between more after second ∧ lost = first ++ second := by
  induction log generalizing present lost with
  | nil => exact ⟨present, [], lost, .here present, h, rfl⟩
  | cons entry log ih =>
    cases h with
    | invoked changes rest =>
      obtain ⟨between, lost', lost'', first, second, rfl⟩ := ih rest
      exact ⟨between, _, lost'', .invoked changes first, second, (List.append_assoc ..).symm⟩
    | other quiet rest =>
      obtain ⟨between, lost', lost'', first, second, rfl⟩ := ih rest
      exact ⟨between, lost', lost'', .other quiet first, second, rfl⟩

/-- Two transcripts that fit together are followed by what follows the second. What was denied in
them is strung together. -/
theorem Follows.trans (h : Follows present log between lost)
    (rest : Follows between more after others) :
    Follows present (log ++ more) after (lost ++ others) := by
  induction h with
  | here => exact rest
  | invoked changes _ ih =>
    rw [List.append_assoc]
    exact .invoked changes (ih rest)
  | other quiet _ ih => exact .other quiet (ih rest)

/-- A call that starts nothing adds no container. A removal may take some away. -/
theorem Changes.subset {call : Invocation} {result : Invocation.Result}
    (h : Changes present call result after) (none : call.starts? = none) : after ⊆ present := by
  intro c mem
  rcases h.made c mem with before | ⟨started, -⟩
  · exact before
  · rw [none] at started
    cases started

/-- Where nothing is started, no container is added. -/
theorem Follows.subset (h : Follows present log after lost)
    (none : ∀ {q : EngineQuestion} {a : EngineAnswer q}, ⟨q, a⟩ ∈ log →
      EngineGateway.StartsNothing q) : after ⊆ present := by
  induction h with
  | here => exact List.Subset.refl _
  | invoked changes rest ih =>
    have shrinks := changes.subset (none List.mem_cons_self)
    exact List.Subset.trans (ih fun mem => none (List.mem_cons_of_mem _ mem)) shrinks
  | other quiet rest ih => exact ih fun mem => none (List.mem_cons_of_mem _ mem)

/-- A container is denied if a removal of it fails, reports it to be gone, and leaves it. The
message that something was not found need not have been about the container. -/
theorem mem_denied_iff {call : Invocation} {result : Invocation.Result} {c : EngineContainer} :
    c ∈ denied call result after ↔ ∃ target, call.removes? = some target ∧
      result.reportsGone = true ∧ result.isZero = false ∧ c ∈ after ∧
        (c.id = target ∨ c.name = target) := by
  unfold denied
  cases call.removes? with
  | none => simp
  | some target =>
    cases result.reportsGone <;> cases result.isZero <;> simp

/-- What is still there after a removal that reports it to be gone was denied. -/
theorem Changes.mem_denied {call : Invocation} {result : Invocation.Result} {target : String}
    {c : EngineContainer} (h : Changes present call result after)
    (removes : call.removes? = some target) (reported : result.reportsGone = true)
    (mem : c ∈ after) (named : c.id = target ∨ c.name = target) :
    c ∈ denied call result after := by
  have failed : result.isZero = false := by
    cases zero : result.isZero with
    | false => rfl
    | true =>
      obtain ⟨otherId, otherName⟩ := h.gone target removes zero c mem
      exact named.elim (absurd · otherId) (absurd · otherName)
  exact mem_denied_iff.mpr ⟨target, removes, reported, failed, mem, named⟩

end EngineContainer

/-! ### What the gateway remembers -/

/-- Every container is tracked, or it is excused. This is the invariant of a session; what excuses
a container is left open here, and gathered in the theorem. -/
def Known (tracked : Tracked) (excused : EngineContainer → Prop)
    (present : List EngineContainer) : Prop :=
  ∀ c ∈ present, (∃ t ∈ tracked, t.id = c.id) ∨ excused c

namespace Known

open EngineContainer EngineGateway

variable {r : EngineGateway} {tracked : Tracked} {excused excused' : EngineContainer → Prop}
  {present after lost : List EngineContainer} {log : Transcript EngineAnswer}

/-- If there are fewer containers than before, they are still known. -/
theorem subset (h : Known tracked excused present) (fewer : after ⊆ present) :
    Known tracked excused after :=
  fun c mem => h c (fewer mem)

/-- More may be excused than before. The excuses pile up over a session and are never taken back.
-/
theorem mono (h : Known tracked excused present) (weaker : ∀ c, excused c → excused' c) :
    Known tracked excused' present :=
  fun c mem => (h c mem).imp id (weaker c)

/-- The containers that are no longer tracked are gone or excused. Only those with the id that is
dropped have to be looked at. -/
theorem untrack (h : Known tracked excused present) {id : String}
    (settled : ∀ c ∈ present, c.id = id → excused c) :
    Known (untrack tracked id) excused present := by
  intro c mem
  by_cases same : c.id = id
  · exact .inr (settled c mem same)
  · rcases h c mem with ⟨t, isTracked, own⟩ | excuse
    · have other : (t.id != id) = true := bne_iff_ne.mpr (own ▸ same)
      exact .inl ⟨t, List.mem_filter.mpr ⟨isTracked, other⟩, own⟩
    · exact .inr excuse

/-- After a removal what is tracked is still known. If the container is reported to be gone and
is not, it was denied. -/
theorem removeContainer {c : Container} {out : Except GatewayError Unit} {kept : Tracked}
    (h : Known tracked excused present)
    (path : Path (r.removeContainer tracked c) log (.pure (out, kept)))
    (engine : Follows present log after lost) (forgiven : ∀ c ∈ lost, excused c) :
    Known kept excused after := by
  obtain ⟨result, rfl, -, rfl⟩ := of_path_removeContainer path
  obtain ⟨between, others, changes, rest, rfl⟩ := engine.of_invoked
  obtain ⟨rfl, rfl⟩ := rest.nil
  have left := h.subset (changes.subset rfl)
  split
  · next gone =>
    refine left.untrack fun d mem same => forgiven d ?_
    exact List.mem_append_left _ (changes.mem_denied rfl gone mem (.inl same))
  · exact left

/-- A call that starts nothing and leaves alone what is tracked keeps what is known, whatever the
engine answers. -/
theorem untouched {α : Type} {p : EngineProgram α} {a : α} {kept : Tracked}
    (h : Known tracked excused present) (harmless : Harmless p)
    (path : Path (do return (← p, tracked)) log (.pure (a, kept)))
    (engine : Follows present log after lost) : Known kept excused after := by
  obtain ⟨rfl, quiet⟩ := harmless.of_path path
  exact h.subset (engine.subset quiet)

/-- After several removals what is tracked is still known. The induction is on the containers that
are to be removed, and each removal may forget only one that is gone or denied. -/
theorem removeEach {order : List Container} {count : Nat} {kept : Tracked}
    (h : Known tracked excused present)
    (path : Path (r.removeEach tracked order) log (.pure (count, kept)))
    (engine : Follows present log after lost) (forgiven : ∀ c ∈ lost, excused c) :
    Known kept excused after := by
  -- The containers are removed one after another, and each removal keeps what is known.
  induction order generalizing tracked present log lost count kept with
  | nil =>
    obtain ⟨rfl, same⟩ := path.end_of_pure
    cases same
    obtain ⟨rfl, -⟩ := engine.nil
    exact h
  | cons c order ih =>
    obtain ⟨out, between, others, first, rest, rfl, -, removes, removesRest⟩ :=
      of_path_removeEach_cons path
    obtain ⟨middle, lost', lost'', engineFirst, engineRest, rfl⟩ := engine.split
    have known := h.removeContainer removes engineFirst fun c mem =>
      forgiven c (List.mem_append_left _ mem)
    exact ih known removesRest engineRest fun c mem => forgiven c (List.mem_append_right _ mem)

/-- Tracking one more container forgets none, for only one with the same id is replaced. -/
theorem track (h : Known tracked excused present) (c : Container) :
    Known (track tracked c) excused present := by
  intro d mem
  rcases h d mem with ⟨t, isTracked, own⟩ | excuse
  · by_cases same : t.id = c.id
    · exact .inl ⟨c, List.mem_append_right _ List.mem_cons_self, same.symm.trans own⟩
    · have other : (t.id != c.id) = true := bne_iff_ne.mpr same
      exact .inl ⟨t, List.mem_append_left _ (List.mem_filter.mpr ⟨isTracked, other⟩), own⟩
  · exact .inr excuse

/-- A started container is tracked. One whose start failed is excused if it is not reported to
be gone (`left`), or if it is and was denied (`forgiven`). -/
theorem startContainer {image : ImageTag} {options : StartOptions}
    {out : Except GatewayError Container} {kept : Tracked} (h : Known tracked excused present)
    (path : Path (r.startContainer tracked image options) log (.pure (out, kept)))
    (engine : Follows present log after lost) (forgiven : ∀ c ∈ lost, excused c)
    (left : ∀ {c : EngineContainer} {program : String} {result : Invocation.Result},
      (⟨.invoke program (r.removal c.name), result⟩ : Σ q, EngineAnswer q) ∈ log →
        result.reportsGone = false → excused c) : Known kept excused after := by
  obtain ⟨name, suffix, result, rest, rfl, came⟩ := of_path_startContainer path
  have quiet : ∀ program call, EngineQuestion.suffix ≠ .invoke program call := nofun
  obtain ⟨between, lost', changes, onward, rfl⟩ := (engine.of_other quiet).of_invoked
  have made : ∀ c ∈ between, c ∈ present ∨
      c.name = name ∧ ∀ id, result.startedId? = some id → c.id = id := by
    intro c mem
    refine (changes.made c mem).imp id (And.imp (fun started => ?_) id)
    rw [starts?_starting, Option.some.injEq] at started
    exact started.symm
  -- What the start made bears its name, and the id it reported if there is one.
  rcases came with ⟨id, reported, rfl, -, rfl⟩ | ⟨-, -, rfl, removed, rfl⟩
  · obtain ⟨rfl, -⟩ := onward.nil
    intro c mem
    rcases made c mem with before | ⟨-, own⟩
    · exact h.track _ c before
    · exact .inl ⟨_, List.mem_append_right _ List.mem_cons_self, (own id reported).symm⟩
  · obtain ⟨_, lost'', changes', rest, rfl⟩ := onward.of_invoked
    obtain ⟨rfl, -⟩ := rest.nil
    intro c mem
    rcases made c (changes'.subset rfl mem) with before | ⟨rfl, -⟩
    · exact h c before
    · cases gone : removed.reportsGone with
      | true =>
        refine .inr (forgiven c (List.mem_append_left _ ?_))
        exact changes'.mem_denied rfl gone mem (.inr rfl)
      | false =>
        have tried : (⟨.invoke r.program (r.removal c.name), removed⟩ : Σ q, EngineAnswer q) ∈
            [⟨.suffix, suffix⟩, ⟨.invoke r.program (r.starting c.name image options), result⟩,
              ⟨.invoke r.program (r.removal c.name), removed⟩] :=
          List.mem_cons_of_mem _ (List.mem_cons_of_mem _ List.mem_cons_self)
        exact .inr (left tried gone)

end Known

/-! ### Sessions -/

namespace EngineSession

open EngineContainer EngineGateway

variable {r : EngineGateway} {s t : EngineSession} {e : SessionEvent}
  {log : Transcript EngineAnswer} {history : List (SessionEvent × Transcript EngineAnswer)}

/-- The name of a container that was asked to be removed and is not reported to be gone. Such a
removal follows a start that failed, and the gateway tracks nothing for it. -/
def unremoved? : (Σ q, EngineAnswer q) → Option String
  | ⟨.invoke _ call, result⟩ => if result.reportsGone then none else call.removes?
  | _ => none

/-- The names of the containers that were neither tracked nor removed when their start
failed. -/
def strandedBy : SessionEvent × Transcript EngineAnswer → List String
  | (.serve (.start _ _), log) => log.filterMap unremoved?
  | _ => []

/-- The names of all containers that were left behind so, in a whole session. If there is such a
container, no sweep asks for it to be removed. -/
def stranded (history : List (SessionEvent × Transcript EngineAnswer)) : List String :=
  history.flatMap strandedBy

/-- What excuses a container that is not tracked: it was retained, its name is one of these, or
the engine has denied to have it. -/
def Excused (s : EngineSession) (names : List String) (c : EngineContainer) : Prop :=
  c.id ∈ s.retained ∨ c.name ∈ names ∨ c ∈ s.denied

/-- A container is stranded by a start if its removal was tried and is not reported to be gone. -/
theorem mem_strandedBy {image : ImageTag} {options : StartOptions} {program name : String}
    {result : Invocation.Result}
    (tried : (⟨.invoke program (r.removal name), result⟩ : Σ q, EngineAnswer q) ∈ log)
    (there : result.reportsGone = false) :
    name ∈ strandedBy (.serve (.start image options), log) := by
  refine List.mem_filterMap.mpr ⟨_, tried, ?_⟩
  simp only [unremoved?, there, Bool.false_eq_true, if_false]
  rfl

/-- Whatever the gateway is called for, it knows the engine's containers afterwards. A start that
fails is the case in which a container is left that only its excuse accounts for. -/
theorem known_of_step {names : List String} (h : Known s.tracked (Excused s names) s.present)
    (step : Step r s e log t) :
    Known t.tracked (Excused t (names ++ strandedBy (e, log))) t.present := by
  obtain ⟨-, path, ⟨lost, engine, denied⟩, retained⟩ := step
  have wider : ∀ c, Excused s names c → Excused t (names ++ strandedBy (e, log)) c := by
    rintro c (isRetained | isStranded | isDenied)
    · exact .inl (retained ▸ List.mem_append_left _ isRetained)
    · exact .inr (.inl (List.mem_append_left _ isStranded))
    · exact .inr (.inr (denied ▸ List.mem_append_left _ isDenied))
  have forgiven : ∀ c ∈ lost, Excused t (names ++ strandedBy (e, log)) c :=
    fun c mem => .inr (.inr (denied ▸ List.mem_append_right _ mem))
  have known := h.mono wider
  -- The excuses only become more. What is left to show is that nothing else is forgotten.
  cases e with
  | sweep order =>
    obtain ⟨⟨count, kept⟩, path, rfl⟩ := path.split_map
    exact known.removeEach path engine forgiven
  | serve call =>
    obtain ⟨⟨reply, kept⟩, path, rfl⟩ := path.split_map
    cases call with
    | build d => exact known.untouched (harmless_buildImage d) path engine
    | start image options =>
      exact known.startContainer path engine forgiven fun tried there =>
        .inr (.inl (List.mem_append_right _ (mem_strandedBy tried there)))
    | exec c command => exact known.untouched (harmless_exec c command) path engine
    | logs c => exact known.untouched (harmless_logs c) path engine
    | remove c => exact known.removeContainer path engine forgiven
    | retain c =>
      obtain ⟨rfl, same⟩ := path.of_pure
      rw [Program.pure.injEq, Prod.mk.injEq] at same
      rw [same.2, engine.nil.1]
      refine known.untrack fun d _ same => .inl ?_
      rw [retained, same]
      exact List.mem_append_right _ List.mem_cons_self

/-- After any calls the gateway knows the engine's containers. The excuses of the single calls are
gathered along the session. -/
theorem known_of_reaches {names : List String} (h : Known s.tracked (Excused s names) s.present)
    (run : Reaches r s history t) :
    Known t.tracked (Excused t (names ++ stranded history)) t.present := by
  induction run generalizing names with
  | here s => simpa [stranded] using h
  | step first rest ih =>
    have known := ih (known_of_step h first)
    rw [List.append_assoc] at known
    exact known

/-! ### Sweeps -/

/-- What was removed with exit code zero is reported to be gone. -/
theorem reportsGone_of_isZero {result : Invocation.Result} (zero : result.isZero = true) :
    result.reportsGone = true := by
  cases result with
  | ended output => exact Bool.or_eq_true_iff.mpr (.inl zero)
  | overdue | unstartable => cases zero

/-- Where every removal succeeds, nothing stays tracked that was to be removed. -/
theorem untracked_of_removeEach {tracked kept : Tracked} {order : List Container} {count : Nat}
    (path : Path (r.removeEach tracked order) log (.pure (count, kept)))
    (gone : ∀ {program target : String} {result : Invocation.Result},
      (⟨.invoke program (r.removal target), result⟩ : Σ q, EngineAnswer q) ∈ log →
        result.reportsGone = true) :
    ∀ t ∈ kept, t ∈ tracked ∧ ∀ c ∈ order, t.id ≠ c.id := by
  obtain ⟨ends, rfl, rfl, -, rfl⟩ := of_path_removeEach path
  intro t mem
  obtain ⟨isTracked, other⟩ := List.mem_filter.mp mem
  refine ⟨isTracked, fun c inOrder same => ?_⟩
  obtain ⟨e, isEnd, rfl⟩ := List.mem_map.mp inOrder
  have isGone : e.2.reportsGone = true := gone (List.mem_map_of_mem isEnd)
  refine decide_eq_true_iff.mp other ?_
  rw [same]
  exact List.mem_map_of_mem (List.mem_map_of_mem (List.mem_filter.mpr ⟨isEnd, isGone⟩))

/-- Every removal exits with code zero. This is the case in which nothing is left behind. -/
def Succeeds (log : Transcript EngineAnswer) : Prop :=
  ∀ {program : String} {call : Invocation} {result : Invocation.Result},
    (⟨.invoke program call, result⟩ : Σ q, EngineAnswer q) ∈ log →
      call.removes?.isSome = true → result.isZero = true

/-- Where every removal exits with code zero, nothing is denied. A container is denied by a
removal that fails. -/
theorem lost_eq_nil_of_succeeds {present after lost : List EngineContainer}
    (engine : Follows present log after lost) (succeeds : Succeeds log) : lost = [] := by
  induction engine with
  | here => rfl
  | @invoked present between after lost program call result log changes rest ih =>
    have none : EngineContainer.denied call result between = [] := by
      refine List.eq_nil_iff_forall_not_mem.mpr fun c mem => ?_
      obtain ⟨target, removes, -, failed, -⟩ := mem_denied_iff.mp mem
      have zero := succeeds List.mem_cons_self (Option.isSome_of_eq_some removes)
      rw [failed] at zero
      cases zero
    rw [none, ih fun mem => succeeds (List.mem_cons_of_mem _ mem)]
    rfl
  | other quiet rest ih => exact ih fun mem => succeeds (List.mem_cons_of_mem _ mem)

/-- Containers are started, removed and retained in any order and the engine may fail at any
of it. If every removal of a sweep then exits with code zero, the engine has none of the
gateway's containers left but those that were retained, those that were stranded, and those
that the engine had denied to have before. -/
theorem gone_of_sweep {order : List Container} (run : Reaches r fresh history s)
    (sweep : Step r s (.sweep order) log t) (succeeds : Succeeds log) :
    ∀ c ∈ t.present, c.id ∈ t.retained ∨ c.name ∈ stranded history ∨ c ∈ s.denied := by
  have known : Known s.tracked (Excused s (stranded history)) s.present := by
    have nothing : Known fresh.tracked (Excused fresh []) fresh.present := nofun
    exact known_of_reaches nothing run
  obtain ⟨⟨count, kept⟩, path, rfl⟩ := sweep.path.split_map
  -- A sweep that succeeds leaves nothing tracked: each removal reports its container gone.
  have untracked : ∀ c ∈ t.tracked, False := by
    intro c mem
    have gone := untracked_of_removeEach path fun mem => reportsGone_of_isZero (succeeds mem rfl)
    obtain ⟨isTracked, ne⟩ := gone c mem
    exact ne c ((sweep.order order rfl).mem_iff.mpr isTracked) rfl
  obtain ⟨lost, engine, -⟩ := sweep.engine
  obtain rfl := lost_eq_nil_of_succeeds engine succeeds
  intro c mem
  have retained : t.retained = s.retained := by
    rw [sweep.retained]
    exact List.append_nil _
  rcases known.removeEach path engine nofun c mem with ⟨c', isTracked, -⟩ | excuse
  · exact (untracked c' isTracked).elim
  · rw [retained]
    exact excuse

/-! ### A session -/

namespace Sample

/-- A gateway to Podman, with its settings as they come. -/
def gateway : EngineGateway :=
  ⟨⟨.podman, "/run/podman/podman.sock"⟩, ⟨none, 60000, 600000, 1800000, 50, "run-1"⟩⟩

/-- The options of the first cell, without mounts and labels. -/
def startOptions : StartOptions := ⟨"alpine-3.19-x86_64-musl-root", none, [], .empty⟩

/-- A container with this id, and digits in its name. The digits are those the gateway draws for
each start. -/
def container (id suffix : String) : Container :=
  ⟨id, containerName startOptions.cell suffix, ⟨"image"⟩, startOptions.cell⟩

/-- The engine's side of it, which is nothing but the id and the name. -/
def made (id suffix : String) : EngineContainer := ⟨id, (container id suffix).name⟩

/-- The program ran to its end and printed this to its standard output. -/
def exits (code : Nat) (stdout : Text.Octets) : Invocation.Result :=
  .ended ⟨stdout, [], .exited code, 0⟩

/-- What is asked for a start that ends like this: the digits of the name, and one call. -/
def startLog (suffix : String) (result : Invocation.Result) : Transcript EngineAnswer :=
  [⟨.suffix, suffix⟩, ⟨.invoke gateway.program (gateway.starting
    (containerName startOptions.cell suffix) ⟨"image"⟩ startOptions), result⟩]

/-- A removal that ends like this. -/
def removeLog (target : String) (result : Invocation.Result) : Transcript EngineAnswer :=
  [⟨.invoke gateway.program (gateway.removal target), result⟩]

/-- A call that fails to start a container, and then fails to remove it. -/
def failedStart (suffix : String) : SessionEvent × Transcript EngineAnswer :=
  (.serve (.start ⟨"image"⟩ startOptions), startLog suffix (exits 1 [])
    ++ removeLog (containerName startOptions.cell suffix) (exits 1 []))

/-- A start adds the container with the id that was reported, and denies nothing. -/
theorem follows_startLog {id suffix : String} {result : Invocation.Result}
    (reported : ∀ id', result.startedId? = some id' → id = id') (present : List EngineContainer) :
    Follows present (startLog suffix result) (present ++ [made id suffix]) [] := by
  -- A start asks for no removal, so nothing is denied.
  refine .other (fun _ _ => nofun) (.invoked ⟨fun c mem => ?_, fun target removes => ?_⟩ (.here _))
  · rcases List.mem_append.mp mem with before | new
    · exact .inl before
    · cases List.mem_singleton.mp new
      exact .inr ⟨starts?_starting _ _ _, reported⟩
  · rw [removes?_starting] at removes
    cases removes

/-- A removal, after which the engine may deny to have what it still has. -/
theorem follows_removeLog {target : String} {result : Invocation.Result}
    {present after lost : List EngineContainer} (fewer : after ⊆ present)
    (gone : result.isZero = true → ∀ c ∈ after, c.id ≠ target ∧ c.name ≠ target)
    (kept : EngineContainer.denied (gateway.removal target) result after = lost) :
    Follows present (removeLog target result) after lost := by
  rw [← kept, ← List.append_nil (EngineContainer.denied _ _ _)]
  refine .invoked ⟨fun c mem => .inl (fewer mem), fun target' removes zero => ?_⟩ (.here _)
  obtain rfl := Option.some.inj removes
  exact gone zero

/-- A start that succeeds. -/
theorem path_started {tracked : Tracked} (suffix : String) {result : Invocation.Result}
    {id : String} (reported : result.startedId? = some id) :
    Path (gateway.startContainer tracked ⟨"image"⟩ startOptions) (startLog suffix result)
      (.pure (.ok (container id suffix), track tracked (container id suffix))) := by
  have read : startedId (gateway.answered (gateway.startArguments
      (containerName startOptions.cell suffix) ⟨"image"⟩ startOptions) result) = .ok id :=
    startedId_answered.mpr reported
  refine Program.Path.step (A := EngineAnswer) (q := .suffix) suffix ?_
  refine Program.Path.trans ((path_command _ result).bind _) ?_
  simp only [Program.pure_bind, read]
  exact .here _

/-- A start that reports an id is a step of a session, after which the container is there and
tracked. -/
theorem step_started (suffix : String) {result : Invocation.Result} {id : String}
    (reported : result.startedId? = some id) :
    Step gateway s (.serve (.start ⟨"image"⟩ startOptions)) (startLog suffix result)
      ⟨track s.tracked (container id suffix), s.present ++ [made id suffix], s.retained,
        s.denied⟩ := by
  refine ⟨nofun, (path_started suffix reported).bind _,
    ⟨[], follows_startLog (fun id' same => ?_) _, (List.append_nil _).symm⟩,
    (List.append_nil _).symm⟩
  rw [reported, Option.some.injEq] at same
  exact same

/-- A start that fails, and whose container cannot be removed, ends with its error and tracks
nothing more than before. -/
theorem path_failedStart {tracked : Tracked} (suffix : String) :
    Path (gateway.startContainer tracked ⟨"image"⟩ startOptions) (failedStart suffix).2
      (.pure (.error (.commandFailed "run" ""), tracked)) := by
  refine Program.Path.step (A := EngineAnswer) (q := .suffix) suffix ?_
  refine Program.Path.step (A := EngineAnswer) (q := .invoke _ _) (exits 1 []) ?_
  refine Program.Path.step (A := EngineAnswer) (q := .invoke _ _) (exits 1 []) ?_
  exact .here _

/-- A failed start leaves a container that is not tracked. The engine has made it, and its removal
fails as well. -/
theorem step_failedStart (id suffix : String) :
    Step gateway s (failedStart suffix).1 (failedStart suffix).2
      ⟨s.tracked, s.present ++ [made id suffix], s.retained, s.denied⟩ := by
  have unreported : (exits 1 []).startedId? = none := by decide +kernel
  have started : Follows s.present (startLog suffix (exits 1 []))
      (s.present ++ [made id suffix]) [] := by
    refine follows_startLog (fun id' reported => ?_) _
    rw [unreported] at reported
    cases reported
  -- The removal fails as well, and does not say that anything is missing.
  have failed : (exits 1 []).isZero = false := by decide +kernel
  have there : (exits 1 []).reportsGone = false := by decide +kernel
  refine ⟨nofun, (path_failedStart suffix).bind _,
    ⟨[], started.trans (follows_removeLog (List.Subset.refl _) (fun zero => ?_) ?_),
      (List.append_nil _).symm⟩, (List.append_nil _).symm⟩
  · rw [failed] at zero
    cases zero
  · refine List.eq_nil_iff_forall_not_mem.mpr fun c mem => ?_
    obtain ⟨target, removes, reported, -⟩ := EngineContainer.mem_denied_iff.mp mem
    rw [there] at reported
    cases reported

/-- A removal that fails because some program of the engine was not found. -/
def notFound : Invocation.Result :=
  .ended ⟨[], Text.Utf8.encode "executable file not found in $PATH", .exited 125, 0⟩

/-- A removal that fails so is taken for one that succeeds. The container stays, and it is not
tracked any more. -/
theorem step_notFound (id suffix : String) :
    Step gateway ⟨[container id suffix], [made id suffix], s.retained, s.denied⟩
      (.serve (.remove (container id suffix))) (removeLog id notFound)
      ⟨[], [made id suffix], s.retained, s.denied ++ [made id suffix]⟩ := by
  have failed : notFound.isZero = false := by decide +kernel
  have reported : notFound.reportsGone = true := by decide +kernel
  have path : Path (gateway.removeContainer [container id suffix] (container id suffix))
      (removeLog id notFound)
      (.pure (.ok (), untrack [container id suffix] (container id suffix).id)) :=
    path_removeContainer reported
  have forgotten : untrack [container id suffix] (container id suffix).id = [] := by
    simp [untrack]
  rw [forgotten] at path
  refine ⟨fun order same => ?_, path.bind _,
    ⟨[made id suffix], follows_removeLog (List.Subset.refl _) (fun zero => ?_) ?_, rfl⟩,
    (List.append_nil _).symm⟩
  · cases same
  · -- The removal exits with an error, so that the container may well be there.
    rw [failed] at zero
    cases zero
  · have removes : (gateway.removal id).removes? = some id := rfl
    simp [EngineContainer.denied, removes, failed, reported, made]

end Sample

/-- A container is started and tracked, and another one is stranded. The sweep removes the
first one and leaves the second. -/
theorem gone_of_sweep_of_failed_start :
    ∃ history s log t, Reaches Sample.gateway fresh history s ∧
      Step Sample.gateway s (.sweep [Sample.container "c1" "0a1b2c3d"]) log t ∧ Succeeds log ∧
        s.present.length = 2 ∧ t.present = [Sample.made "c2" "4e5f6a7b"] ∧
        ∀ c ∈ t.present, c.id ∈ t.retained ∨ c.name ∈ stranded history ∨ c ∈ s.denied := by
  have reported : (Sample.exits 0 [99, 49]).startedId? = some "c1" := by decide +kernel
  -- One start that works, then one that leaves a container nobody tracks.
  have run := Reaches.step (Sample.step_started (s := fresh) "0a1b2c3d" reported)
    (.step (Sample.step_failedStart "c2" "4e5f6a7b") (.here _))
  have sweep : Step Sample.gateway
      ⟨[Sample.container "c1" "0a1b2c3d"],
        [Sample.made "c1" "0a1b2c3d", Sample.made "c2" "4e5f6a7b"], [], []⟩
      (.sweep [Sample.container "c1" "0a1b2c3d"]) (Sample.removeLog "c1" (Sample.exits 0 []))
      ⟨[], [Sample.made "c2" "4e5f6a7b"], [], []⟩ := by
    refine ⟨?_, ?_, ⟨[], Sample.follows_removeLog (by simp) (fun _ => ?_) ?_, rfl⟩, rfl⟩
    · intro order same
      cases same
      exact .refl _
    · refine Program.Path.step (A := EngineAnswer) (q := .invoke _ _) (Sample.exits 0 []) ?_
      exact .here _
    · decide +kernel
    · decide +kernel
  have succeeds : Succeeds (Sample.removeLog "c1" (Sample.exits 0 [])) := by
    intro program call result mem removes
    cases List.mem_singleton.mp mem
    rfl
  exact ⟨_, _, _, _, run, sweep, succeeds, rfl, rfl, gone_of_sweep run sweep succeeds⟩

/-- A sweep of a gateway that tracks nothing. -/
theorem Sample.step_sweepNothing {present lost : List EngineContainer} :
    Step Sample.gateway ⟨[], present, [], lost⟩ (.sweep []) [] ⟨[], present, [], lost⟩ := by
  refine ⟨?_, .here _, ⟨[], .here _, (List.append_nil _).symm⟩, rfl⟩
  intro order same
  cases same
  exact .refl _

/-- Two sessions after which a sweep does not even try to remove a container that was not
retained. In the first one, a start fails although the container was made, and removing it fails
as well. In the second one nothing is stranded: a removal fails because a program was not found,
and that is taken to mean that the container is missing. -/
theorem exists_stranded_of_sweep :
    (∃ history order log s t, Reaches Sample.gateway fresh history s ∧
      Step Sample.gateway s (.sweep order) log t ∧ Succeeds log ∧
        ∃ c ∈ t.present, c.id ∉ t.retained) ∧
      ∃ history order log s t, Reaches Sample.gateway fresh history s ∧
        Step Sample.gateway s (.sweep order) log t ∧ Succeeds log ∧
          ∃ c ∈ t.present, c.id ∉ t.retained ∧ c.name ∉ stranded history := by
  have reported : (Sample.exits 0 [99, 49]).startedId? = some "c1" := by decide +kernel
  have failedStart := Reaches.step (Sample.step_failedStart (s := fresh) "c1" "0a1b2c3d") (.here _)
  have notFound := Reaches.step (Sample.step_started (s := fresh) "0a1b2c3d" reported)
    (.step (Sample.step_notFound (s := fresh) "c1" "0a1b2c3d") (.here _))
  exact ⟨⟨_, _, _, _, _, failedStart, Sample.step_sweepNothing, nofun, _, List.mem_cons_self,
    nofun⟩, ⟨_, _, _, _, _, notFound, Sample.step_sweepNothing, nofun, _, List.mem_cons_self, nofun,
    nofun⟩⟩

end EngineSession

end InstallMatrix
