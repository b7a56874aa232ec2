import InstallMatrix.Proofs.Run.Rehearsal
import InstallMatrix.Proofs.Run.Supply

/-!
# `InstallMatrix.Proofs.Run.Stock`: the images that a rehearsal has in stock

A task starts a container of the image that it was built, and of no other. The gateway keeps
every image it has built, whatever errors, panics and cancellations come in between, so it has
the image whenever a task asks for a container of it: `image_mem_of_start`. The invariant is
`Stocked`, and `stocked_step` says that every event of a rehearsal keeps it.

So what a start comes to does not depend on the images any more. `foresee` takes the events of
a rehearsal one by one without looking at them, and `reaches_of_foreseen` says that what it
comes to is a rehearsal. That is of use for rehearsals that are computed: an image is named by
a digest, and to look for an image is to compare digests.
-/

set_option autoImplicit false

namespace InstallMatrix

open CellProgram MemoryGateway

/-! ### Images -/

namespace MemoryGateway

variable {g : MemoryGateway} {cancelled : Bool}

/-- Bringing a build to its end adds an image or none. -/
theorem images_subset_finishBuild (g : MemoryGateway) (d : Definition) :
    g.images ⊆ (g.finishBuild d).2.images :=
  (replies_finishBuild g d).images

/-- No call takes an image away. Only a build adds one, so the stock of a gateway grows along a
rehearsal. -/
theorem images_subset_serve (g : MemoryGateway) (cancelled : Bool) (c : Call) :
    g.images ⊆ (g.serve cancelled c).2.images := by
  cases c with
  | build d =>
    unfold serve
    simp only
    split
    · exact fun _ => id
    · exact images_subset_finishBuild (g.requestBuild d) d
  | start image options =>
    simp only [serve, start]
    split
    · exact fun _ => id
    · split <;> exact fun _ => id
  | exec container command =>
    have same : (g.exec container command).2.images = g.images := by
      unfold exec
      split <;> rfl
    unfold serve
    simp only
    split <;>
    · next whole =>
      rw [whole] at same
      exact same ▸ fun _ => id
  | logs | remove | retain => exact fun _ => id

/-- The image that a build replies with is there. -/
theorem image_mem_of_serve {d : Definition} {image : ImageTag}
    (replied : (g.serve cancelled (.build d)).1 = .replied (.ok image)) :
    image ∈ (g.serve cancelled (.build d)).2.images := by
  unfold serve at replied ⊢
  simp only at replied ⊢
  split at replied
  · cases replied
  · next prompt =>
    rw [if_neg prompt]
    refine (replies_finishBuild (g.requestBuild d) d).built (d := d) ?_
    rw [Outcome.replied.injEq] at replied
    rw [replied]

end MemoryGateway

namespace RunState

variable {s t : RunState} {g g' : MemoryGateway} {i : Nat} {c : Call}

/-- Every image that a task was built is one of the gateway's. This is what a start needs, since a
cell starts its container from the image it was built. -/
def Stocked (s : RunState) (g : MemoryGateway) : Prop :=
  ∀ ⦃i d image⦄, .called (.build d) (.ok image) ∈ s.deeds i → image ∈ g.images

/-- Where no build is answered and no image is lost, the stock is as it was. -/
theorem Stocked.quiet (h : Stocked s g) (images : g.images ⊆ g'.images)
    (calls : ∀ {i d image}, .called (.build d) (.ok image) ∈ t.deeds i →
      .called (.build d) (.ok image) ∈ s.deeds i) : Stocked t g' :=
  fun _ _ _ mem => images (h (calls mem))

/-- When a call is answered, what has to be known is that the answer is no image the gateway
does not have. -/
theorem Stocked.answered {reply : c.Reply} (h : Stocked s g) (images : g.images ⊆ g'.images)
    (answered : Answered s t i c reply)
    (built : ∀ {d image}, Deed.called c reply = .called (.build d) (.ok image) →
      image ∈ g'.images) : Stocked t g' := by
  intro j d image mem
  rw [answered.deeds, List.mem_append] at mem
  rcases mem with old | fresh
  · exact images (h old)
  · split at fresh
    · exact built (List.mem_singleton.mp fresh).symm
    · cases fresh

/-- A call that comes in is answered, breaks its task off or is held, and the stock is kept. -/
theorem Stocked.served {held : List Nat} (h : Stocked s g) (stands : s.callOf? i = some c) :
    Stocked (s.afterServe held i c ⟨false, (g.serve s.cancelled c).1⟩).1
      (g.serve s.cancelled c).2 := by
  have images := images_subset_serve g s.cancelled c
  -- A reply is told to the task. A panic or a call that is held tells it nothing.
  cases outcome : (g.serve s.cancelled c).1 with
  | replied reply =>
    obtain ⟨t, happens, after⟩ := exists_afterServe_replied stands reply held
    rw [after]
    refine h.answered images (happens.answered stands) fun same => ?_
    cases same
    exact image_mem_of_serve outcome
  | panicked =>
    obtain ⟨t, happens, after⟩ := exists_afterServe_panicked stands held
    rw [after]
    refine h.quiet images fun {j d image} mem => ?_
    rwa [deeds_eq_of_panic happens j] at mem
  | held => exact h.quiet images id

end RunState

namespace Rehearsal

open RunState

variable {r q : Rehearsal} {e : RehearsalEvent} {context : RunContext} {plan : List PlannedCell}
  {cancelled : Bool} {behaviour : MemoryBehaviour}

/-- The stock of a rehearsal is kept by every event of it. An answer that is given in the
place of the gateway is an error, and so it is no image. -/
theorem stocked_step (h : Stocked r.run r.gateway) (stepped : r.step e = some q) :
    Stocked q.run q.gateway := by
  -- What was built stays in stock. Only an answer adds to what the tasks have been told.
  cases occurs_of_step stepped with
  | inner inner happens => exact h.quiet (fun _ => id) (called_mem_of_inner happens inner)
  | serve stands => exact h.served stands
  | begin => exact h
  | @complete i d t stands held happens =>
    have replies := replies_finishBuild r.gateway d
    exact h.answered replies.images (happens.answered stands) replies.built
  | giveUp cancelled waits given happens =>
    obtain ⟨c, reply, answered, -, failed⟩ := answered_of_resume? given happens
    exact h.answered (fun _ => id) answered fun built => absurd built failed
  | @fail i c error t stands retains free happens =>
    refine h.answered (fun _ => id) (happens.answered stands) fun failed => ?_
    cases c <;> cases failed
  | panic free happens =>
    exact h.quiet (fun _ => id) fun {j d image} mem => deeds_eq_of_panic happens j ▸ mem
  | sweep happens | sweepFails happens =>
    exact h.quiet (fun _ => id) fun {j d image} mem => deeds_eq_of_finish happens j ▸ mem

/-- A task that asks for a container has been built the image it names. -/
theorem image_mem_of_start {i : Nat} {image : ImageTag} {options : StartOptions}
    (faithful : Faithful r.run) (h : Stocked r.run r.gateway)
    (stands : r.run.callOf? i = some (.start image options)) : image ∈ r.gateway.images := by
  obtain ⟨cell, next, found⟩ := callOf?_eq_some stands
  obtain ⟨log, path, deeds_eq, -⟩ := (faithful.follows found).1
  obtain ⟨d, mem⟩ := Pipeline.grounded_of_path path
  exact h (deeds_eq ▸ mem)

end Rehearsal

/-! ### Rehearsals foreseen -/

/-- The answer `reply` to every call of the kind of `c`. To tell two kinds of calls apart needs no
tag to be compared, which would mean to compute a hash. -/
def Call.answeringLike : (c : Call) → c.Reply → (d : Call) → d.Reply
  | .build _, reply, .build _ => reply
  | .start _ _, reply, .start _ _ => reply
  | .exec _ _, reply, .exec _ _ => reply
  | .logs _, reply, .logs _ => reply
  | .remove _, reply, .remove _ => reply
  | .retain _, reply, .retain _ => reply
  | _, _, d => d.failed (.timeout "")

/-- The reply that was given to a call is the one a call of the same kind is answered with. -/
theorem Call.answeringLike_self (c : Call) (reply : c.Reply) : c.answeringLike reply c = reply := by
  cases c <;> rfl

namespace MemoryGateway

variable {g : MemoryGateway} {cancelled : Bool}

/-- Starts a container from an image that is taken to be there. This leaves out the one test that
compares tags. -/
def startBuilt (g : MemoryGateway) (image : ImageTag) (options : StartOptions) :
    Except GatewayError Container × MemoryGateway :=
  match g.behaviour.startFailure with
  | some message => (.error (.commandFailed "run" message), g)
  | none =>
    let id := "mock-" ++ toString (g.started + 1)
    let container : Container := ⟨id, "install-matrix-" ++ options.cell, image, options.cell⟩
    (.ok container,
      { g with
        started := g.started + 1
        created := g.created ++ [container]
        mounts := g.mounts ++ [options.mounts]
        live := g.live ++ [id] })

/-- With the image at hand, starting a container is what it is when nobody asks for the image. -/
theorem start_eq_startBuilt {image : ImageTag} {options : StartOptions} (there : image ∈ g.images) :
    g.start image options = g.startBuilt image options := by
  unfold start startBuilt
  cases g.behaviour.startFailure with
  | some message => rfl
  | none => exact if_pos there

/-- Serves a call as `serve` does, every image being taken to be there. -/
def serveBuilt (g : MemoryGateway) (cancelled : Bool) (c : Call) : Outcome c × MemoryGateway :=
  match c with
  | .start image options =>
    let (reply, g) := g.startBuilt image options
    (.replied reply, g)
  | c => g.serve cancelled c

/-- So a gateway that has the images of all calls for a start serves them as if it had every
image. -/
theorem serve_eq_serveBuilt {c : Call}
    (there : ∀ {image options}, c = .start image options → image ∈ g.images) :
    g.serve cancelled c = g.serveBuilt cancelled c := by
  cases c with
  | start image options => simp only [serve, serveBuilt, start_eq_startBuilt (there rfl)]
  | build | exec | logs | remove | retain => rfl

end MemoryGateway

/-- What the task makes of an answer is what it makes of the reply to its own call. -/
theorem RunState.step_answering {s : RunState} {i : Nat} {c : Call} (stands : s.callOf? i = some c)
    (reply : c.Reply) :
    s.step (.reply i (c.answering reply)) = s.step (.reply i (c.answeringLike reply)) := by
  obtain ⟨cell, next, found⟩ := callOf?_eq_some stands
  simp only [step, found, c.answering_self, c.answeringLike_self]

namespace Rehearsal

open RunState

variable {r q : Rehearsal} {context : RunContext} {plan : List PlannedCell}
  {cancelled : Bool} {behaviour : MemoryBehaviour}

/-- What an event makes of a rehearsal, as `step` says, without a look at any image. -/
def foresee (r : Rehearsal) : RehearsalEvent → Option Rehearsal
  | .serve i =>
    match r.run.callOf? i with
    | some c =>
      if r.held.contains i then none
      else
        match r.gateway.serveBuilt r.run.cancelled c with
        | (.replied reply, gateway) =>
          { r with gateway }.stepRun (.reply i (c.answeringLike reply))
        | _ => r.step (.serve i)
    | none => none
  | .fail i error =>
    match r.run.callOf? i with
    | some (.retain _) => none
    | some c =>
      if r.held.contains i then none else r.stepRun (.reply i (c.answeringLike (c.failed error)))
    | none => none
  | e => r.step e

/-- Where a task asks for a container, its image is there. So what is foreseen happens. -/
theorem foresee_eq_step (faithful : Faithful r.run) (stocked : Stocked r.run r.gateway)
    (e : RehearsalEvent) : r.foresee e = r.step e := by
  cases e with
  | serve i =>
    simp only [foresee]
    split
    · next c stands =>
      -- A start is only asked for with an image that was built, so the check for it is idle.
      have built : r.gateway.serve r.run.cancelled c = r.gateway.serveBuilt r.run.cancelled c :=
        serve_eq_serveBuilt fun same => image_mem_of_start faithful stocked (same ▸ stands)
      split
      · next isHeld => simp only [step, stands, isHeld, if_true]
      · next free =>
        split
        · next reply gateway served =>
          obtain ⟨t, happens, after⟩ := exists_afterServe_replied stands reply r.held
          have foreseen := step_answering stands reply ▸ happens.step_eq
          simp only [step, stands, free, built, served, after, stepRun, foreseen]
          rfl
        · rfl
    · next idle => simp only [step, idle]
  | fail i error =>
    cases stands : r.run.callOf? i with
    | none => simp only [foresee, step, stands]
    | some c => cases c <;> simp only [foresee, step, stands, stepRun, step_answering stands]
  | inner | begin | complete | giveUp | panic | sweep | sweepFails => rfl

/-- A rehearsal whose run is one, and whose gateway has the images that were built in it. -/
structure Supplied (context : RunContext) (plan : List PlannedCell) (cancelled : Bool)
    (r : Rehearsal) : Prop where
  reached : ∃ events, RunState.Reaches (.start context plan cancelled) events r.run
  stocked : Stocked r.run r.gateway

/-- Before the first event no image is needed, so everything that is needed is there. -/
theorem supplied_start (context : RunContext) (plan : List PlannedCell) (cancelled : Bool)
    (behaviour : MemoryBehaviour) :
    Supplied context plan cancelled (start context plan cancelled behaviour) :=
  ⟨⟨[], .here _⟩, nofun⟩

/-- A rehearsal stays supplied with every event that it goes through. -/
theorem Supplied.step {e : RehearsalEvent} (h : Supplied context plan cancelled r)
    (stepped : r.step e = some q) : Supplied context plan cancelled q :=
  ⟨exists_run_reaches_step stepped h.reached, stocked_step h.stocked stepped⟩

/-- As long as the gateway has what was built, nothing is foreseen but what happens. -/
theorem Supplied.foresee_eq (h : Supplied context plan cancelled r) (e : RehearsalEvent) :
    r.foresee e = r.step e := by
  obtain ⟨events, reached⟩ := h.reached
  exact foresee_eq_step (faithful_of_reaches reached) h.stocked e

/-- The rehearsal that is foreseen after the events. It can be computed without any hash, and
agrees with the rehearsal where the gateway is stocked. -/
def foreseen (r : Rehearsal) : List RehearsalEvent → Option Rehearsal
  | [] => some r
  | e :: events => (r.foresee e).bind fun q => q.foreseen events

/-- What is foreseen can be reached. The induction is on the events, and being supplied is kept by
each of them. -/
theorem Supplied.reaches {events : List RehearsalEvent} (h : Supplied context plan cancelled r)
    (ends : r.foreseen events = some q) : Reaches r events q := by
  induction events generalizing r with
  | nil =>
    cases ends
    exact .here _
  | cons e events ih =>
    obtain ⟨u, first, rest⟩ := Option.bind_eq_some_iff.mp ends
    rw [h.foresee_eq] at first
    exact .step first (ih (h.step first) rest)

/-- If the foreseen end passes a test, there is a rehearsal to such an end. -/
theorem exists_reaches_of_foreseen {events : List RehearsalEvent} {test : Rehearsal → Bool}
    (passes : ((start context plan cancelled behaviour).foreseen events).any test = true) :
    ∃ q, Reaches (start context plan cancelled behaviour) events q ∧ test q = true := by
  obtain ⟨q, ends, holds⟩ := (Option.any_eq_true test _).mp passes
  exact ⟨q, (supplied_start context plan cancelled behaviour).reaches ends, holds⟩

end Rehearsal

/-! ### Three cells side by side -/

/-- The context of runs that leave their containers running. -/
def RunContext.retaining (ctx : RunContext) : RunContext :=
  { ctx with settings := { ctx.settings with retainContainers := true } }

namespace Sample

/-- The ordinary context with a second release in the catalog, and with room for three cells
at once. -/
def twoReleases : RunContext :=
  { context with
    catalog := ⟨[release, { release with version := "3.20", baseImage := "alpine:3.20" }]⟩
    settings := { context.settings with maxParallel := 3 } }

/-- Root and user of one release, and root of another one. The first two have the same
image. -/
def threeCells : List PlannedCell :=
  [.run cell, .run user, .run { cell with version := "3.20" }]

/-- A task goes on for some steps, looking at the run at the same clock reading each time. -/
def goesOn (i steps clock : Nat) : List RehearsalEvent :=
  List.replicate steps (.inner (.proceed i clock))

/-- A task goes on for some steps, and the call it comes to is served. -/
def calls (i steps clock : Nat) : List RehearsalEvent := goesOn i steps clock ++ [.serve i]

/-- The three cells build and start side by side. Then the first one runs to its end, the second
one up to where it gives its container up, and the third one up to its second command. -/
def threeInstalls : List RehearsalEvent :=
  [.inner (.take 0), .inner (.take 0), .inner (.take 0), .inner (.grant 0), .inner (.grant 2),
    .inner (.grant 1)]
  ++ calls 0 3 1 ++ calls 2 3 2 ++ calls 0 1 3 ++ calls 1 3 4 ++ calls 2 1 5 ++ calls 1 1 6
  ++ calls 0 2 7 ++ calls 1 3 8 ++ calls 2 2 9 ++ calls 1 1 10 ++ calls 0 1 11 ++ calls 1 1 12
  ++ calls 0 1 13 ++ calls 0 4 14 ++ goesOn 1 3 15 ++ goesOn 2 1 16

end Sample

end InstallMatrix
