import InstallMatrix.Proofs.Engine.BuildCall
import Mathlib.Data.List.Nodup

/-!
# `InstallMatrix.Proofs.Engine.Builds`: one build of a tag at a time

Any number of calls for images are under way at one gateway. In whatever order they go on,
however their programs end, and whichever of them are given up, `singleFlight_of_reaches`
says four things of every state they come to: no two builds of one tag are running; once a
build of a tag has exited with code zero, none is running ever after; a call returns a tag
only if the engine has the image; and a call that cannot go on, unless by running out of
time, stands behind a call for the same tag.

`sound_of_happens` is the step lemma, and the locks carry it. Between looking for an image
and building it a call relies on the image staying away, and it may: a call that holds a
lock is the only one of its tag that does, so nobody else builds this image.

The model takes the engine at its word: it finds an image just if a build of its tag has
exited with code zero. Nothing is assumed of the order in which waiting calls come to hold a
lock, nor of how long anything takes.
-/

set_option autoImplicit false

namespace InstallMatrix

/-! ### Events -/

/-- The call that an event takes further, by its own doing or by its program's. -/
def BuildsEvent.advances? : BuildsEvent → Option Nat
  | .lock i | .hold i | .exit i _ | .answer i _ => some i
  | .request _ | .drop _ => none

/-- In the event no program runs out of time. Running out of time ends any call, so it is left out
where waiting is spoken of. -/
def BuildsEvent.IsPrompt : BuildsEvent → Prop
  | .answer _ reply => ∀ program call stdout stderr,
      reply (.invoke program call) ≠ .overdue stdout stderr
  | _ => True

namespace BuildsState

variable {s t : BuildsState} {e : BuildsEvent}

/-- `Happens s e t`: in the state `s` the event `e` may happen, and `t` comes of it. -/
inductive Happens (s : BuildsState) : BuildsEvent → BuildsState → Prop
  | request (d : Definition) :
      Happens s (.request d)
        { s with
          calls := s.calls
            ++ [(⟨d, none, none, .dropped⟩ : BuildCall).continued (s.gateway.buildImage d)] }
  | lock {i : Nat} {d : Definition} {held : Option Nat} {exited : Option Ending} {tag : ImageTag}
      {next : Nat → EngineProgram (Except GatewayError ImageTag)}
      (found : s.calls[i]? = some ⟨d, held, exited, .running (.ask (.lock tag) next)⟩) :
      Happens s (.lock i) ((s.withLock tag).modify i fun c => c.continued (next (s.lockOf tag)))
  | hold {i : Nat} {d : Definition} {held : Option Nat} {exited : Option Ending} {lock : Nat}
      {next : Unit → EngineProgram (Except GatewayError ImageTag)}
      (found : s.calls[i]? = some ⟨d, held, exited, .running (.ask (.hold lock) next)⟩)
      (free : s.isHeld lock = false) :
      Happens s (.hold i)
        (s.modify i fun c => { c with holds := some lock }.continued (next ()))
  | exit {i : Nat} {d : Definition} {held : Option Nat} {program : String} {call : Invocation}
      {next : Invocation.Result → EngineProgram (Except GatewayError ImageTag)}
      (ending : Ending)
      (found : s.calls[i]? = some ⟨d, held, none, .running (.ask (.invoke program call) next)⟩)
      (may : s.mayExit call ending = true) :
      Happens s (.exit i ending)
        ((s.afterExit call ending).modify i fun c => { c with exited := some ending })
  | notice {i : Nat} {d : Definition} {held : Option Nat} {exited : Option Ending}
      {program : String} {call : Invocation}
      {next : Invocation.Result → EngineProgram (Except GatewayError ImageTag)}
      (reply : (q : EngineQuestion) → EngineAnswer q)
      (found : s.calls[i]? = some ⟨d, held, exited, .running (.ask (.invoke program call) next)⟩)
      (agrees : (reply (.invoke program call)).agrees exited = true) :
      Happens s (.answer i reply)
        (s.modify i fun c => c.continued (next (reply (.invoke program call))))
  | write {i : Nat} {d : Definition} {held : Option Nat} {exited : Option Ending}
      {files : List (String × String)}
      {next : Except String String → EngineProgram (Except GatewayError ImageTag)}
      (reply : (q : EngineQuestion) → EngineAnswer q)
      (found : s.calls[i]? = some ⟨d, held, exited, .running (.ask (.writeContext files) next)⟩) :
      Happens s (.answer i reply)
        (s.modify i fun c => c.continued (next (reply (.writeContext files))))
  | drop {i : Nat} {d : Definition} {held : Option Nat} {exited : Option Ending}
      {rest : EngineProgram (Except GatewayError ImageTag)}
      (found : s.calls[i]? = some ⟨d, held, exited, .running rest⟩) :
      Happens s (.drop i) (s.modify i BuildCall.givenUp)

/-- What `Happens` lists, `step` does. -/
theorem Happens.step_eq (h : Happens s e t) : s.step e = some t := by
  cases h with
  | request d => rfl
  | lock found => simp only [step, found]
  | hold found free => simp only [step, found, free, Bool.false_eq_true, if_false]
  | exit ending found may => simp only [step, found, may, if_true]
  | notice reply found agrees => simp only [step, found, agrees, if_true]
  | write reply found => simp only [step, found]
  | drop found => simp only [step, found]

/-- What `step` does, `Happens` lists. -/
theorem happens_of_step (h : s.step e = some t) : Happens s e t := by
  -- Every event has one arm of `step`, and `answer` has two.
  cases e with
  | request d =>
    cases h
    exact .request d
  | lock i =>
    simp only [step] at h
    split at h
    · next found =>
      cases h
      exact .lock found
    · cases h
  | hold i =>
    simp only [step] at h
    split at h
    · next lock next found =>
      split at h
      · cases h
      · next free =>
        cases h
        exact .hold found (Bool.eq_false_iff.mpr free)
    · cases h
  | exit i ending =>
    simp only [step] at h
    split at h
    · next found =>
      split at h
      · next may =>
        cases h
        exact .exit ending found may
      · cases h
    · cases h
  | answer i reply =>
    simp only [step] at h
    split at h
    · next found =>
      split at h
      · next agrees =>
        cases h
        exact .notice reply found agrees
      · cases h
    · next found =>
      cases h
      exact .write reply found
    · cases h
  | drop i =>
    simp only [step] at h
    split at h
    · next found =>
      cases h
      exact .drop found
    · cases h

/-- `Happens` is `step`, as for runs: the relation is for proofs and the function computes. -/
theorem step_eq_some_iff : s.step e = some t ↔ Happens s e t :=
  ⟨happens_of_step, Happens.step_eq⟩

/-! ### What every event keeps -/

/-- Every tag has one lock and every call stands somewhere. No two calls hold the same
lock. -/
structure Sound (s : BuildsState) : Prop where
  nodup : s.locks.Nodup
  stands : ∀ {i : Nat} {c : BuildCall}, s.calls[i]? = some c →
    c.Stands s.gateway s.locks s.images
  apart : ∀ {i j lock : Nat} {c d : BuildCall}, s.calls[i]? = some c → s.calls[j]? = some d →
    c.holds = some lock → d.holds = some lock → i = j

/-- Two calls that hold a lock for the same tag are the same call. Their locks are that of the
tag, and a lock is held by one call. -/
theorem Sound.eq_of_tag (sound : Sound s) {i j m n : Nat} {c d : BuildCall}
    (atI : s.calls[i]? = some c) (atJ : s.calls[j]? = some d) (holdsI : c.holds = some m)
    (holdsJ : d.holds = some n) (tag : c.definition.imageTag = d.definition.imageTag) :
    i = j := by
  have ownI := (sound.stands atI).lock_eq holdsI
  have ownJ := (sound.stands atJ).lock_eq holdsJ
  rw [← tag, ← ownI] at ownJ
  have inside := (List.getElem?_eq_some_iff.mp ownI).1
  obtain rfl := (List.getElem?_inj inside sound.nodup).mp ownJ.symm
  exact sound.apart atI atJ holdsI holdsJ

/-- The calls after one of them has changed: it is the changed one, or it is at another place and
as it was. -/
theorem eq_or_of_getElem?_modify {calls : List BuildCall} {i j : Nat} {c d : BuildCall}
    {f : BuildCall → BuildCall} (found : calls[i]? = some c)
    (after : (calls.modify i f)[j]? = some d) :
    (j = i ∧ d = f c) ∨ (j ≠ i ∧ calls[j]? = some d) := by
  by_cases same : j = i
  · subst same
    rw [List.getElem?_modify_eq, found] at after
    cases after
    exact .inl ⟨rfl, rfl⟩
  · rw [List.getElem?_modify_ne _ _ (Ne.symm same)] at after
    exact .inr ⟨same, after⟩

/-- A state is sound in which one call has changed, if the call stands somewhere, the others
stand where they did, and no lock has come to be held that some call holds. -/
theorem Sound.modify (sound : Sound s) {i : Nat} {c : BuildCall} {f : BuildCall → BuildCall}
    {locks : List ImageTag} {images : List String} (found : s.calls[i]? = some c)
    (nodup : locks.Nodup) (own : (f c).Stands s.gateway locks images)
    (others : ∀ {j d}, j ≠ i → s.calls[j]? = some d → d.Stands s.gateway locks images)
    (holds : ∀ {lock}, (f c).holds = some lock → c.holds = some lock ∨ s.isHeld lock = false) :
    Sound ⟨s.gateway, locks, images, s.calls.modify i f⟩ := by
  -- A lock that is free is held by no call at all.
  have free {j lock : Nat} {d : BuildCall} (at_ : s.calls[j]? = some d)
      (no : s.isHeld lock = false) : d.holds ≠ some lock := by
    intro held
    have isHeld : s.isHeld lock = true :=
      List.any_eq_true.mpr ⟨d, List.mem_of_getElem? at_, beq_iff_eq.mpr held⟩
    rw [no] at isHeld
    cases isHeld
  refine ⟨nodup, fun {j d} after => ?_, fun {j k lock d e} afterJ afterK holdsJ holdsK => ?_⟩
  · rcases eq_or_of_getElem?_modify found after with ⟨rfl, rfl⟩ | ⟨ne, before⟩
    · exact own
    · exact others ne before
  · -- The changed call may be one of the two. Then its lock was its own before, or nobody's.
    rcases eq_or_of_getElem?_modify found afterJ with ⟨rfl, rfl⟩ | ⟨neJ, beforeJ⟩ <;>
      rcases eq_or_of_getElem?_modify found afterK with ⟨rfl, rfl⟩ | ⟨neK, beforeK⟩
    · rfl
    · rcases holds holdsJ with held | no
      · exact sound.apart found beforeK held holdsK
      · exact absurd holdsK (free beforeK no)
    · rcases holds holdsK with held | no
      · exact sound.apart beforeJ found holdsJ held
      · exact absurd holdsJ (free beforeJ no)
    · exact sound.apart beforeJ beforeK holdsJ holdsK

/-- A call that lets go of its lock, or keeps it, holds no lock it did not hold. -/
theorem holds_continued {c : BuildCall} {rest : EngineProgram (Except GatewayError ImageTag)}
    {lock : Nat} (h : (c.continued rest).holds = some lock) : c.holds = some lock := by
  cases rest with
  | pure result => cases h
  | ask q next => exact h

/-- The images after a program exited: one more if a build exited with code zero. -/
theorem mem_images_afterExit {call : Invocation} {ending : Ending} {tag : String} :
    tag ∈ (s.afterExit call ending).images ↔
      tag ∈ s.images ∨ ending.success = true ∧ call.builds? = some tag := by
  unfold afterExit
  by_cases success : ending.success = true <;> simp [success]

/-- A tag has the lock that was found out for it, whether it was there before or not. -/
theorem getElem?_lockOf (s : BuildsState) (tag : ImageTag) :
    (s.withLock tag).locks[s.lockOf tag]? = some tag := by
  unfold withLock lockOf
  by_cases known : tag ∈ s.locks
  · have inside := List.idxOf_lt_length_of_mem known
    rw [if_pos known, List.getElem?_eq_getElem inside, List.getElem_idxOf inside]
  · rw [if_neg known, List.idxOf_eq_length_iff.mpr known, List.getElem?_concat_length]

/-- Finding out the lock of a tag leaves the other locks as they are. -/
theorem getElem?_withLock {asked tag : ImageTag} {lock : Nat} (h : s.locks[lock]? = some tag) :
    (s.withLock asked).locks[lock]? = some tag := by
  unfold withLock
  by_cases known : asked ∈ s.locks
  · rw [if_pos known, h]
  · have inside := (List.getElem?_eq_some_iff.mp h).1
    rw [if_neg known, List.getElem?_append_left inside, h]

/-- A tag gets a lock only if it has none, so that the locks stay different. -/
theorem nodup_withLock (nodup : s.locks.Nodup) (tag : ImageTag) :
    (s.withLock tag).locks.Nodup := by
  unfold withLock
  by_cases known : tag ∈ s.locks
  · rw [if_pos known]
    exact nodup
  · rw [if_neg known, ← List.concat_eq_append]
    exact nodup.concat known

/-- Before the first call there is no lock and nobody to hold one. -/
theorem sound_start (g : EngineGateway) (images : List String) : Sound (start g images) :=
  ⟨List.nodup_nil, nofun, nofun⟩

/-- A call that comes holds no lock and has asked for nothing yet. It is added behind the others,
so their places stay the same. -/
theorem Sound.request (sound : Sound s) (d : Definition) :
    Sound { s with
      calls := s.calls
        ++ [(⟨d, none, none, .dropped⟩ : BuildCall).continued (s.gateway.buildImage d)] } := by
  have old {i : Nat} {c : BuildCall} {calls : List BuildCall} {new : BuildCall}
      (at_ : (calls ++ [new])[i]? = some c) : calls[i]? = some c ∨ c = new := by
    rw [List.getElem?_append] at at_
    split at at_
    · exact .inl at_
    · have last := List.mem_of_getElem? at_
      exact .inr (List.mem_singleton.mp last)
  refine ⟨sound.nodup, fun {i c} found => ?_, fun {i j lock c e} atI atJ holdsI holdsJ => ?_⟩
  · rcases old found with before | rfl
    · exact sound.stands before
    · exact .asking d
  · -- The new call holds no lock yet, so both calls are old ones.
    rcases old atI with beforeI | rfl
    · rcases old atJ with beforeJ | rfl
      · exact sound.apart beforeI beforeJ holdsI holdsJ
      · cases holdsJ
    · cases holdsI

/-- A program that exits keeps the state sound. If it has built an image, no other call that holds
a lock is for that tag, so nobody is still about to build what is there now. -/
theorem Sound.exit (sound : Sound s) {i : Nat} {c : BuildCall} {call : Invocation}
    {ending : Ending} {lock : Nat} (found : s.calls[i]? = some c) (held : c.holds = some lock)
    (asked : ∀ tag, call.builds? = some tag → tag = c.definition.imageTag.text)
    (own : BuildCall.Stands s.gateway s.locks (s.afterExit call ending).images
      { c with exited := some ending }) :
    Sound ((s.afterExit call ending).modify i fun c => { c with exited := some ending }) := by
  refine sound.modify found sound.nodup own (fun {j d} ne at_ => ?_) .inl
  refine (sound.stands at_).mono id (fun tag there => mem_images_afterExit.mpr (.inl there)) ?_
  intro n holds there
  rcases mem_images_afterExit.mp there with before | ⟨-, built⟩
  · exact before
  · -- It would hold the lock the building call holds.
    have tag : d.definition.imageTag = c.definition.imageTag :=
      ImageTag.eq_of_text (asked _ built)
    exact absurd (sound.eq_of_tag at_ found holds held tag) ne

/-- Every event keeps a state sound. The cases are the events; the one that matters is `hold`,
which needs that nobody else holds the lock. -/
theorem sound_of_happens (sound : Sound s) (happens : Happens s e t) : Sound t := by
  have stay {i : Nat} : ∀ {j d}, j ≠ i → s.calls[j]? = some d →
      d.Stands s.gateway s.locks s.images := fun _ before => sound.stands before
  cases happens with
  | request d => exact sound.request d
  | @lock i d held exited tag next found =>
    cases sound.stands found with
    | asking =>
      refine sound.modify found (nodup_withLock sound.nodup _) ?_ (fun _ before => ?_) nofun
      · exact .waiting d (getElem?_lockOf s d.imageTag)
      · exact (sound.stands before).mono getElem?_withLock (fun _ => id) fun _ => id
  | hold found free =>
    cases sound.stands found with
    | waiting _ own =>
      refine sound.modify found sound.nodup (BuildCall.stands_held own) stay fun same => ?_
      cases holds_continued same
      exact .inr free
  | @exit i d held program call next ending found may =>
    cases sound.stands found with
    | looking _ own known =>
      have told : ending.success = s.images.contains d.imageTag.text := beq_iff_eq.mp may
      -- Looking leaves no image, so what the call has found out remains true.
      refine sound.exit found rfl nofun (.looking d own fun e exited => ?_)
      cases exited
      rw [mem_images_afterExit, told, List.contains_iff_mem]
      exact ⟨.inl, fun there => there.elim id nofun⟩
    | building _ dir own missing built =>
      -- The only image that may have come is the one the call was building.
      have asked := EngineGateway.builds?_building s.gateway d dir
      refine sound.exit found rfl (fun tag builds => ?_)
        (.building d dir own nofun fun e exited success => ?_)
      · exact (Option.some.inj (asked.symm.trans builds)).symm
      · cases exited
        exact mem_images_afterExit.mpr (.inr ⟨success, asked⟩)
  | notice reply found agrees =>
    cases sound.stands found with
    | looking _ own known =>
      exact sound.modify found sound.nodup (BuildCall.stands_inspected own known agrees) stay
        fun same => .inl (holds_continued same)
    | building _ dir own missing built =>
      exact sound.modify found sound.nodup (BuildCall.stands_built built agrees) stay nofun
  | write reply found =>
    cases sound.stands found with
    | writing _ own missing =>
      exact sound.modify found sound.nodup (BuildCall.stands_written own missing _) stay
        fun same => .inl (holds_continued same)
  | drop found => exact sound.modify found sound.nodup (.dropped _) stay nofun

/-- No event takes an image away. Only a build that exits with code zero adds one. -/
theorem mem_images_of_happens (happens : Happens s e t) {tag : String} (there : tag ∈ s.images) :
    tag ∈ t.images := by
  cases happens with
  | exit ending found may => exact mem_images_afterExit.mpr (.inl there)
  | request | lock | hold | notice | write | drop => exact there

/-! ### Runs -/

/-- What every event keeps, a run keeps. The induction on the events is made here once. -/
theorem Reaches.invariant (Holds : BuildsState → Prop) {events : List BuildsEvent}
    (keeps : ∀ {s e t}, Holds s → Happens s e t → Holds t) (first : Holds s)
    (run : Reaches s events t) : Holds t := by
  induction run with
  | here s => exact first
  | step happens rest ih => exact ih (keeps first (happens_of_step happens))

/-- What is sound stays so along a run, by one event after another. -/
theorem sound_of_reaches {events : List BuildsEvent} (sound : Sound s)
    (run : Reaches s events t) : Sound t :=
  run.invariant Sound sound_of_happens sound

/-- An image that is there stays there, as no event takes one away. -/
theorem mem_images_of_reaches {events : List BuildsEvent} {tag : String}
    (there : tag ∈ s.images) (run : Reaches s events t) : tag ∈ t.images :=
  run.invariant (fun s => tag ∈ s.images)
    (fun before happens => mem_images_of_happens happens before) there

/-! ### Builds that run -/

/-- `s.Builds i tag`: the program of the call at the place `i` is building the tag. -/
def Builds (s : BuildsState) (i : Nat) (tag : String) : Prop :=
  ∃ d held program call next,
    s.calls[i]? = some ⟨d, held, none, .running (.ask (.invoke program call) next)⟩ ∧
      call.builds? = some tag

/-- A call that builds a tag holds the lock of it, and the engine does not have the image. It
found so under the lock, and nobody else could build it since. -/
theorem Sound.of_builds (sound : Sound s) {i : Nat} {tag : String} (h : s.Builds i tag) :
    ∃ c lock, s.calls[i]? = some c ∧ c.holds = some lock ∧ c.definition.imageTag.text = tag ∧
      tag ∉ s.images := by
  obtain ⟨d, held, program, call, next, found, builds⟩ := h
  cases sound.stands found with
  | looking d own known => cases builds
  | @building _ dir lock exited own missing built =>
    rw [EngineGateway.builds?_building, Option.some.injEq] at builds
    subst builds
    exact ⟨_, lock, found, rfl, rfl, missing rfl⟩

/-! ### Calls that wait -/

/-- `s.Waits i`: the call at the place `i` is under way, and it cannot go on but by running
out of time. -/
def Waits (s : BuildsState) (i : Nat) : Prop :=
  (∃ d held exited rest, s.calls[i]? = some ⟨d, held, exited, .running rest⟩) ∧
    ∀ e : BuildsEvent, e.advances? = some i → e.IsPrompt → s.step e = none

/-- `s.Blocks j i`: the call at the place `i` stands at a lock that the call at the place `j`
holds, and both are for one tag. -/
def Blocks (s : BuildsState) (j i : Nat) : Prop :=
  ∃ c d lock next, s.calls[i]? = some c ∧ s.calls[j]? = some d ∧
    c.status = .running (.ask (.hold lock) next) ∧ d.holds = some lock ∧
      d.definition.imageTag = c.definition.imageTag

/-- Surroundings in which programs end like this. They serve to show that a call may go on. -/
def ending (e : Ending) : (q : EngineQuestion) → EngineAnswer q
  | .invoke _ _ => .ended ⟨[], [], e, 0⟩
  | .writeContext _ => .ok ""
  | .suffix => ""
  | .lock _ => 0
  | .hold _ => ()

/-- An answer in which the program has ended is one within the time limit. -/
theorem isPrompt_ending (i : Nat) (e : Ending) : (BuildsEvent.answer i (ending e)).IsPrompt :=
  fun _ _ _ _ => nofun

/-- A call whose program is running or has exited goes on, if the program may exit. -/
theorem exists_advance_of_invoke {i : Nat} {d : Definition} {held : Option Nat}
    {exited : Option Ending} {program : String} {call : Invocation}
    {next : Invocation.Result → EngineProgram (Except GatewayError ImageTag)}
    (found : s.calls[i]? = some ⟨d, held, exited, .running (.ask (.invoke program call) next)⟩)
    (may : ∃ e, s.mayExit call e = true) :
    ∃ e t, e.advances? = some i ∧ e.IsPrompt ∧ Happens s e t := by
  cases exited with
  | none =>
    obtain ⟨e, may⟩ := may
    exact ⟨.exit i e, _, rfl, trivial, .exit e found may⟩
  | some e =>
    have agrees : (ending e (.invoke program call)).agrees (some e) = true := beq_self_eq_true _
    exact ⟨.answer i (ending e), _, rfl, isPrompt_ending i e, .notice _ found agrees⟩

/-- Whether the engine has the image or not, it may say so. -/
theorem exists_mayExit_inspection (s : BuildsState) (d : Definition) :
    ∃ e, s.mayExit (s.gateway.inspection d) e = true := by
  by_cases there : d.imageTag.text ∈ s.images
  · have contains : s.images.contains d.imageTag.text = true := List.contains_iff_mem.mpr there
    exact ⟨.exited 0, beq_iff_eq.mpr contains.symm⟩
  · have missing : s.images.contains d.imageTag.text = false := by simpa using there
    exact ⟨.exited 1, beq_iff_eq.mpr missing.symm⟩

/-- A call that cannot go on stands behind another one for the same tag, which holds the lock.
There is no other reason to wait, for a program that was started may always exit. -/
theorem Sound.exists_blocks (sound : Sound s) {i : Nat} (h : s.Waits i) :
    ∃ j, j ≠ i ∧ s.Blocks j i := by
  obtain ⟨⟨d, held, exited, rest, found⟩, stuck⟩ := h
  have goes {e : BuildsEvent} {t : BuildsState} (happens : Happens s e t)
      (its : e.advances? = some i) (prompt : e.IsPrompt) : False := by
    have step := happens.step_eq
    rw [stuck e its prompt] at step
    cases step
  cases sound.stands found with
  | asking => exact (goes (.lock found) rfl trivial).elim
  | looking =>
    obtain ⟨e, t, its, prompt, happens⟩ :=
      exists_advance_of_invoke found (exists_mayExit_inspection s d)
    exact (goes happens its prompt).elim
  | writing => exact (goes (.write _ found) rfl (isPrompt_ending i (.exited 0))).elim
  | building _ dir =>
    have may : s.mayExit (s.gateway.building d dir) (.exited 0) = true := by
      rw [mayExit, EngineGateway.inspects?_building]
    obtain ⟨e, t, its, prompt, happens⟩ := exists_advance_of_invoke found ⟨_, may⟩
    exact (goes happens its prompt).elim
  | @waiting _ lock own =>
    cases held : s.isHeld lock with
    | false => exact (goes (.hold found held) rfl trivial).elim
    | true =>
      obtain ⟨c, mem, holds⟩ := List.any_eq_true.mp held
      obtain ⟨j, at_⟩ := List.mem_iff_getElem?.mp mem
      have holds : c.holds = some lock := beq_iff_eq.mp holds
      have theirs := (sound.stands at_).lock_eq holds
      rw [own, Option.some.injEq] at theirs
      refine ⟨j, ?_, _, c, lock, _, found, at_, rfl, holds, theirs.symm⟩
      -- The waiting call itself holds nothing.
      rintro rfl
      rw [found, Option.some.injEq] at at_
      subst at_
      cases holds

/-! ### Single flight -/

/-- What concurrent builds come to: no two builds of one tag at once, none after one that
succeeded, and nobody waiting but behind a call for the same tag. -/
structure SingleFlight (s : BuildsState) : Prop where
  /-- No two builds of one tag are running. -/
  alone : ∀ {i j : Nat} {tag : String}, s.Builds i tag → s.Builds j tag → i = j
  /-- Once a build of a tag has exited with code zero, no build of it is ever running. -/
  once : ∀ {i : Nat} {tag : String} {events : List BuildsEvent} {t u : BuildsState},
    s.Builds i tag → s.step (.exit i (.exited 0)) = some t → Reaches t events u →
      ∀ j, ¬ u.Builds j tag
  /-- A call that returns a tag was called for it, and the engine has the image. -/
  returned : ∀ {c : BuildCall} {tag : ImageTag}, c ∈ s.calls → c.status = .returned (.ok tag) →
    tag = c.definition.imageTag ∧ tag.text ∈ s.images
  /-- A call that cannot go on but by running out of time stands behind another one for the
  same tag. -/
  waits : ∀ {i : Nat}, s.Waits i → ∃ j, j ≠ i ∧ s.Blocks j i

/-- A sound state has at most one build under way for each tag, and what stands still waits for
it. -/
theorem Sound.singleFlight (sound : Sound s) : SingleFlight s := by
  constructor
  case alone =>
    intro i j tag buildsI buildsJ
    obtain ⟨c, m, atI, holdsI, tagI, -⟩ := sound.of_builds buildsI
    obtain ⟨d, n, atJ, holdsJ, tagJ, -⟩ := sound.of_builds buildsJ
    exact sound.eq_of_tag atI atJ holdsI holdsJ (ImageTag.eq_of_text (tagI.trans tagJ.symm))
  case once =>
    intro i tag events t u builds exit run j again
    -- The exit leaves an image, which stays, and who builds knows that there is none.
    have happens := happens_of_step exit
    have there : tag ∈ t.images := by
      obtain ⟨d, held, program, call, next, found, asked⟩ := builds
      cases happens with
      | exit ending found' may =>
        rw [found, Option.some.injEq, BuildCall.mk.injEq] at found'
        obtain ⟨-, -, -, same⟩ := found'
        cases same
        have left : tag ∈ (s.afterExit call (.exited 0)).images :=
          mem_images_afterExit.mpr (.inr ⟨rfl, asked⟩)
        exact left
    obtain ⟨c, lock, -, -, -, away⟩ :=
      (sound_of_reaches (sound_of_happens sound happens) run).of_builds again
    exact away (mem_images_of_reaches there run)
  case returned =>
    intro c tag mem status
    obtain ⟨i, found⟩ := List.mem_iff_getElem?.mp mem
    cases sound.stands found with
    | returned d built =>
      cases status
      exact built tag rfl
    | asking | waiting | looking | writing | building | dropped => cases status
  case waits => exact sound.exists_blocks

/-- Any number of calls, in any order, whatever the engine does to their programs and
whichever of them are given up: every state they come to has single flight. -/
theorem singleFlight_of_reaches {gateway : EngineGateway} {images : List String}
    {events : List BuildsEvent} (run : Reaches (start gateway images) events s) :
    SingleFlight s :=
  (sound_of_reaches (sound_start gateway images) run).singleFlight

/-! ### Two calls for one image -/

namespace Sample

variable (g : EngineGateway) (d : Definition) (dir : String)

/-- One call is building, and another one waits for the lock of the tag. -/
def sharing : BuildsState :=
  ⟨g, [d.imageTag], [],
    [⟨d, some 0, none, .running (g.buildIn d dir)⟩,
      ⟨d, none, none, .running (.ask (.hold 0) fun _ => g.findOrBuild d)⟩]⟩

/-- An engine that lacks the image, and a directory for its files. -/
def lacking : (q : EngineQuestion) → EngineAnswer q
  | .invoke _ _ => .ended ⟨[], [], .exited 1, 0⟩
  | .writeContext _ => .ok dir
  | .suffix => ""
  | .lock _ => 0
  | .hold _ => ()

/-- Two calls for one definition come to this: the first has asked for its lock and is building,
and the second one stands before the lock. -/
theorem reaches_sharing : ∃ events, Reaches (start g []) events (sharing g d dir) := by
  let asking : BuildCall := ⟨d, none, none, .running (g.buildImage d)⟩
  let waiting : BuildCall := ⟨d, none, none, .running (.ask (.hold 0) fun _ => g.findOrBuild d)⟩
  -- The tag has its lock already, and computing the tag to see so would take long.
  have second : (⟨g, [d.imageTag], [], [waiting, asking]⟩ : BuildsState).step (.lock 1)
      = some ⟨g, [d.imageTag], [], [waiting, waiting]⟩ := by
    show some (modify (withLock _ _) 1 _) = _
    simp only [withLock, lockOf, BuildsState.modify, List.mem_singleton, if_true,
      List.idxOf_cons_self]
    rfl
  refine ⟨[.request d, .request d, .lock 0, .lock 1, .hold 0, .exit 0 (.exited 1),
    .answer 0 (lacking dir), .answer 0 (lacking dir)], ?_⟩
  refine .step rfl (.step rfl (.step rfl (.step second ?_)))
  exact .step rfl (.step rfl (.step rfl (.step rfl (.here _))))

/-- The first of the two calls is building. -/
theorem builds_sharing : (sharing g d dir).Builds 0 d.imageTag.text :=
  ⟨d, some 0, g.program, g.building d dir, _, rfl, g.builds?_building d dir⟩

/-- The second of them waits. -/
theorem waits_sharing : (sharing g d dir).Waits 1 := by
  refine ⟨⟨d, none, none, _, rfl⟩, fun e its _ => ?_⟩
  cases e with
  | lock i | hold i | exit i ending | answer i reply =>
    cases its
    rfl
  | request | drop => cases its

/-- A gateway to Docker, with its settings as they come. -/
def gateway : EngineGateway :=
  ⟨⟨.docker, "/var/run/docker.sock"⟩, ⟨none, 60000, 600000, 1800000, 50, "run-1"⟩⟩

/-- A definition that both calls are for. -/
def definition : Definition :=
  ⟨"alpine-3.19-x86_64", "alpine:3.19", "linux/amd64", .empty, .empty, [], [], [], "/", ["sh"]⟩

end Sample

/-- While one call builds, another one for the same image waits behind it. When the build
has exited with code zero, nobody builds the image again. -/
theorem singleFlight_of_reaches_of_sharing :
    ∃ events s t, Reaches (start Sample.gateway []) events s ∧
      s.Builds 0 Sample.definition.imageTag.text ∧ s.Waits 1 ∧
      s.step (.exit 0 (.exited 0)) = some t ∧
      (∀ i, s.Builds i Sample.definition.imageTag.text → i = 0) ∧
      (∃ j, j ≠ 1 ∧ s.Blocks j 1) ∧ ∀ j, ¬ t.Builds j Sample.definition.imageTag.text := by
  obtain ⟨events, run⟩ := Sample.reaches_sharing Sample.gateway Sample.definition "/tmp/context"
  have flight := singleFlight_of_reaches run
  have builds := Sample.builds_sharing Sample.gateway Sample.definition "/tmp/context"
  have waits := Sample.waits_sharing Sample.gateway Sample.definition "/tmp/context"
  exact ⟨events, _, _, run, builds, waits, rfl, fun i also => flight.alone also builds,
    flight.waits waits, flight.once builds rfl (.here _)⟩

end BuildsState

end InstallMatrix
