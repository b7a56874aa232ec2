import InstallMatrix.Engine.Builds
import InstallMatrix.Proofs.Engine.Gateway

/-!
# `InstallMatrix.Proofs.Engine.BuildCall`: how far a call for an image has come

A call for an image finds out the lock of its tag, waits for it, looks for the image, writes
the files of one that is not there, and builds it. `BuildCall.Stands` lists these points,
with what the call knows of the locks and of the engine's images at each of them.

`Stands.mono` says which changes around a call leave it where it stands: more locks, and more
images as long as its own does not come to be there while it holds its lock. The lemmas
`stands_held`, `stands_inspected`, `stands_written` and `stands_built` say where the call
goes on to from each point.
-/

set_option autoImplicit false

namespace InstallMatrix

/-- A tag is nothing but its text. -/
theorem ImageTag.eq_of_text {a b : ImageTag} (h : a.text = b.text) : a = b := by
  cases a
  cases b
  cases h
  rfl

/-! ### What a call asks -/

namespace EngineGateway

variable (r : EngineGateway) (d : Definition)

/-- The call that looks for the image of a definition. Its exit code says whether the image is
there. -/
def inspection : Invocation :=
  ⟨r.engine.kind.hostArguments r.engine.socket, ["image", "inspect", d.imageTag.text],
    r.config.commandTimeout⟩

/-- The call that builds the image of a definition in a directory, which holds the files of the
context. -/
def building (dir : String) : Invocation :=
  ⟨r.engine.kind.hostArguments r.engine.socket, r.buildArguments d dir, r.config.buildTimeout⟩

/-- What is left when the engine has been asked for the image: nothing if it is there, and a build
of it otherwise. It also returns if the engine could not be asked. -/
def inspected (result : Invocation.Result) : EngineProgram (Except GatewayError ImageTag) :=
  match r.answered ["image", "inspect", d.imageTag.text] result with
  | .error e => .pure (.error e)
  | .ok output =>
    if output.ending.success then .pure (.ok d.imageTag) else r.buildMissing d

/-- What is left when the files of the image have been written: the build in their directory, or
an error if they could not be written. -/
def written : Except String String → EngineProgram (Except GatewayError ImageTag)
  | .ok dir => r.buildIn d dir
  | .error reason => .pure (.error (.inputOutput reason))

/-- The search for an image is one call of the engine's program, and the rest depends on its
answer. -/
theorem findOrBuild_eq :
    r.findOrBuild d = .ask (.invoke r.program (r.inspection d)) (r.inspected d) := by
  rw [findOrBuild, command_eq]
  rfl

/-- A program that has ended says by its exit code whether the image is there. -/
theorem inspected_ended (output : ProcessOutput) :
    r.inspected d (.ended output)
      = if output.ending.success then .pure (.ok d.imageTag) else r.buildMissing d :=
  rfl

/-- A build begins with writing the files of the image. -/
theorem buildMissing_eq :
    r.buildMissing d = .ask (.writeContext d.context) (r.written d) := by
  show Program.ask _ _ = Program.ask _ _
  congr 1
  funext result
  cases result with
  | ok dir => rfl
  | error reason => rfl

/-- The call that builds an image does not look for one. -/
theorem inspects?_building (dir : String) : (r.building d dir).inspects? = none := by
  simp [building, buildArguments, Invocation.inspects?]

/-- The call that builds an image builds the one of the definition's tag. -/
theorem builds?_building (dir : String) :
    (r.building d dir).builds? = some d.imageTag.text := by
  simp [building, buildArguments, Invocation.builds?]

/-- A build that comes to a tag has exited with code zero, and the tag is the one it was
asked for. -/
theorem of_buildOutcome_eq_ok {tailLines : Nat} {asked tag : ImageTag}
    {result : Invocation.Result} (h : buildOutcome tailLines asked result = .ok tag) :
    tag = asked ∧ ∃ output, result = .ended output ∧ output.ending.success = true := by
  -- A build whose program did not end gives no tag, whatever it printed.
  cases result with
  | unstartable reason => cases h
  | overdue stdout stderr =>
    simp only [buildOutcome] at h
    split at h <;> cases h
  | ended output =>
    simp only [buildOutcome] at h
    split at h
    · cases h
    · split at h
      · next success =>
        cases h
        exact ⟨rfl, output, rfl, success⟩
      · cases h

end EngineGateway

/-! ### How far a call has come -/

namespace BuildCall

/-- `Stands g locks images c`: the call `c` at the gateway `g` has come to one of these
points, the locks and the engine's images being as given. -/
inductive Stands (g : EngineGateway) (locks : List ImageTag) (images : List String) :
    BuildCall → Prop
  | asking (d : Definition) :
      Stands g locks images ⟨d, none, none, .running (.ask (.lock d.imageTag) fun lock =>
        .ask (.hold lock) fun _ => g.findOrBuild d)⟩
  | waiting (d : Definition) {lock : Nat} (own : locks[lock]? = some d.imageTag) :
      Stands g locks images ⟨d, none, none, .running (.ask (.hold lock) fun _ => g.findOrBuild d)⟩
  | looking (d : Definition) {lock : Nat} {exited : Option Ending}
      (own : locks[lock]? = some d.imageTag)
      (found : ∀ e, exited = some e → (e.success = true ↔ d.imageTag.text ∈ images)) :
      Stands g locks images ⟨d, some lock, exited,
        .running (.ask (.invoke g.program (g.inspection d)) (g.inspected d))⟩
  | writing (d : Definition) {lock : Nat} (own : locks[lock]? = some d.imageTag)
      (missing : d.imageTag.text ∉ images) :
      Stands g locks images ⟨d, some lock, none,
        .running (.ask (.writeContext d.context) (g.written d))⟩
  | building (d : Definition) (dir : String) {lock : Nat} {exited : Option Ending}
      (own : locks[lock]? = some d.imageTag)
      (missing : exited = none → d.imageTag.text ∉ images)
      (built : ∀ e, exited = some e → e.success = true → d.imageTag.text ∈ images) :
      Stands g locks images ⟨d, some lock, exited,
        .running (.ask (.invoke g.program (g.building d dir)) fun result =>
          .pure (EngineGateway.buildOutcome g.config.logTailLines d.imageTag result))⟩
  | returned (d : Definition) {result : Except GatewayError ImageTag}
      (built : ∀ tag, result = .ok tag → tag = d.imageTag ∧ tag.text ∈ images) :
      Stands g locks images ⟨d, none, none, .returned result⟩
  | dropped (d : Definition) : Stands g locks images ⟨d, none, none, .dropped⟩

variable {g : EngineGateway} {locks locks' : List ImageTag} {images images' : List String}
  {c : BuildCall}

/-- The lock a call holds is that of its tag. So calls that hold different locks build different
images, and calls for one tag share a lock. -/
theorem Stands.lock_eq (h : c.Stands g locks images) {lock : Nat} (holds : c.holds = some lock) :
    locks[lock]? = some c.definition.imageTag := by
  cases h with
  | asking | waiting | returned | dropped => cases holds
  | looking d own | writing d own | building d dir own =>
    cases holds
    exact own

/-- A call stands where it stood when there are more locks and more images, unless it holds
its lock and its own image has come to be there. -/
theorem Stands.mono (h : c.Stands g locks images)
    (grown : ∀ {lock : Nat} {tag : ImageTag}, locks[lock]? = some tag → locks'[lock]? = some tag)
    (kept : ∀ tag ∈ images, tag ∈ images')
    (away : ∀ {lock}, c.holds = some lock → c.definition.imageTag.text ∈ images' →
      c.definition.imageTag.text ∈ images) : c.Stands g locks' images' := by
  cases h with
  | asking d => exact .asking d
  | waiting d own => exact .waiting d (grown own)
  | looking d own found =>
    refine .looking d (grown own) fun e exited => ?_
    exact (found e exited).trans ⟨kept _, away rfl⟩
  | writing d own missing =>
    -- The call holds its lock, so an image that is there now was there when it looked.
    exact .writing d (grown own) fun there => missing (away rfl there)
  | building d dir own missing built =>
    refine .building d dir (grown own) (fun running there => ?_) fun e exited success => ?_
    · exact missing running (away rfl there)
    · exact kept _ (built e exited success)
  | returned d built =>
    refine .returned d fun tag ok => ?_
    obtain ⟨own, there⟩ := built tag ok
    exact ⟨own, kept _ there⟩
  | dropped d => exact .dropped d

/-- A call that has come to hold its lock looks for its image. It has asked the engine for nothing
before. -/
theorem stands_held {d : Definition} {lock : Nat} {status : BuildStatus}
    (own : locks[lock]? = some d.imageTag) :
    (continued ⟨d, some lock, none, status⟩ (g.findOrBuild d)).Stands g locks images := by
  rw [g.findOrBuild_eq]
  exact .looking d own nofun

/-- What a call does when it has looked: it returns, or it writes the files of an image that
is not there. -/
theorem stands_inspected {d : Definition} {lock : Nat} {exited : Option Ending}
    {status : BuildStatus} {result : Invocation.Result}
    (own : locks[lock]? = some d.imageTag)
    (found : ∀ e, exited = some e → (e.success = true ↔ d.imageTag.text ∈ images))
    (agrees : result.agrees exited = true) :
    (continued ⟨d, some lock, exited, status⟩ (g.inspected d result)).Stands g locks images := by
  cases result with
  | ended output =>
    have same : exited = some output.ending := by simpa [Invocation.Result.agrees] using agrees
    have there := found _ same
    -- The engine's answer stands for the image from here on: it is taken, or it is built.
    by_cases success : output.ending.success = true
    · rw [g.inspected_ended, if_pos success]
      refine .returned d fun tag ok => ?_
      cases ok
      exact ⟨rfl, there.mp success⟩
    · rw [g.inspected_ended, if_neg success, g.buildMissing_eq]
      exact .writing d own (mt there.mpr success)
  | overdue stdout stderr => exact .returned d nofun
  | unstartable reason => exact .returned d nofun

/-- What a call does when it has written the files: it builds the image, or it returns. -/
theorem stands_written {d : Definition} {lock : Nat} {status : BuildStatus}
    (own : locks[lock]? = some d.imageTag) (missing : d.imageTag.text ∉ images)
    (result : Except String String) :
    (continued ⟨d, some lock, none, status⟩ (g.written d result)).Stands g locks images := by
  cases result with
  | ok dir => exact .building d dir own (fun _ => missing) nofun
  | error reason => exact .returned d nofun

/-- A call returns when it has built, and with a tag only if the build left an image. -/
theorem stands_built {d : Definition} {tailLines : Nat} {exited held} {status : BuildStatus}
    {result : Invocation.Result}
    (built : ∀ e, exited = some e → e.success = true → d.imageTag.text ∈ images)
    (agrees : result.agrees exited = true) :
    (continued ⟨d, held, exited, status⟩
      (.pure (EngineGateway.buildOutcome tailLines d.imageTag result))).Stands g locks images := by
  refine .returned d fun tag ok => ?_
  obtain ⟨rfl, output, rfl, success⟩ := EngineGateway.of_buildOutcome_eq_ok ok
  have same : exited = some output.ending := by simpa [Invocation.Result.agrees] using agrees
  exact ⟨rfl, built _ same success⟩

end BuildCall

end InstallMatrix
