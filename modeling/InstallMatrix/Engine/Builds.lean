import InstallMatrix.Engine.Gateway

/-!
# `InstallMatrix.Engine.Builds`: builds that run at the same time

Several calls may ask one gateway for images at once. Every tag has a lock, given to it
when it is first asked for; a call finds out the lock of its tag, waits until no other
call holds it, and holds it from then on until it returns or is given up.

A call that stands at an invocation has its program running. The program ends by itself,
or when its time is up, or when the call is given up. The engine finds an image just if
one was built: `BuildsState.images` are the tags for which a build has exited with code
zero.

Definitions: `BuildCall`, `BuildsState`, `BuildsEvent`, `BuildsState.step`,
`BuildsState.Reaches`, and `EngineGateway.buildEach`, which makes calls one after
the other.
-/

set_option autoImplicit false

namespace InstallMatrix

/-! ### Invocations as the engine reads them -/

namespace Invocation

/-- The tag of the image the call looks for, if it looks for one. Calls are told apart by their
arguments. -/
def inspects? (call : Invocation) : Option String :=
  match call.arguments with
  | ["image", "inspect", tag] => some tag
  | _ => none

/-- The tag of the image the call builds, if it builds one. This is what the tag option says. -/
def builds? (call : Invocation) : Option String :=
  match call.arguments with
  | "build" :: "--platform" :: _ :: "-t" :: tag :: _ => some tag
  | _ => none

/-- May a call end like this whose program exited as given, or is still running. A call may run
out of time in either case. -/
def Result.agrees : Result → Option Ending → Bool
  | .ended output, exited => exited == some output.ending
  | .overdue _ _, _ => true
  | .unstartable _, exited => exited.isNone

end Invocation

/-! ### Calls -/

/-- How far a call has come. A call that was given up does nothing more. -/
inductive BuildStatus
  /-- It has this left to do. -/
  | running (rest : EngineProgram (Except GatewayError ImageTag))
  | returned (result : Except GatewayError ImageTag)
  /-- It was given up. -/
  | dropped

/-- One call for an image. Its program may have exited before the call has taken notice, which is
a moment others can come between. -/
structure BuildCall where
  definition : Definition
  /-- The lock the call holds. -/
  holds : Option Nat
  /-- How its program exited, as long as the call has not taken notice. -/
  exited : Option Ending
  status : BuildStatus

namespace BuildCall

/-- The call with this left to do. It lets go of its lock when it returns. -/
def continued (c : BuildCall) :
    EngineProgram (Except GatewayError ImageTag) → BuildCall
  | .pure result => { c with holds := none, exited := none, status := .returned result }
  | .ask q next => { c with exited := none, status := .running (.ask q next) }

/-- The call after it was given up. Its program ends with it, and its lock is free again. -/
def givenUp (c : BuildCall) : BuildCall :=
  { c with holds := none, exited := none, status := .dropped }

end BuildCall

/-- Calls for images under way at one gateway, and the engine behind it. Of the engine only the
images matter here. -/
structure BuildsState where
  gateway : EngineGateway
  /-- The tags that have a lock. A lock is known by the place of its tag. -/
  locks : List ImageTag
  /-- The tags for which a build has exited with code zero. -/
  images : List String
  calls : List BuildCall

/-- What may happen next. Calls are given by the order in which they came, and may go on in any
order. -/
inductive BuildsEvent
  /-- One more call comes. -/
  | request (definition : Definition)
  /-- A call finds out the lock of its tag. -/
  | lock (call : Nat)
  /-- A call comes to hold the lock it waits for. -/
  | hold (call : Nat)
  /-- The program of a call exits by itself. -/
  | exit (call : Nat) (ending : Ending)
  /-- A call takes notice of how its program ended, or goes on after writing files. -/
  | answer (call : Nat) (reply : (q : EngineQuestion) → EngineAnswer q)
  /-- A call is given up. -/
  | drop (call : Nat)

namespace BuildsState

/-- No call has come yet, and no tag has a lock. The engine may have images. -/
def start (gateway : EngineGateway) (images : List String) : BuildsState where
  gateway := gateway
  locks := []
  images := images
  calls := []

/-- The lock of a tag, which is the next new one if the tag has none. Locks are numbered in the
order they were made. -/
def lockOf (s : BuildsState) (tag : ImageTag) : Nat := s.locks.idxOf tag

/-- The state in which a tag has a lock. Locks are never taken away. -/
def withLock (s : BuildsState) (tag : ImageTag) : BuildsState :=
  { s with locks := if tag ∈ s.locks then s.locks else s.locks ++ [tag] }

/-- Does some call hold the lock. A call that waits for it has to wait as long as one does. -/
def isHeld (s : BuildsState) (lock : Nat) : Bool :=
  s.calls.any fun c => c.holds == some lock

/-- May the program of a call exit like this. An image is found just if one was built, and a build
may exit in any way. -/
def mayExit (s : BuildsState) (call : Invocation) (ending : Ending) : Bool :=
  match call.inspects? with
  | some tag => ending.success == s.images.contains tag
  | none => true

/-- The state after the program of a call exited: a build with code zero leaves an
image. -/
def afterExit (s : BuildsState) (call : Invocation) (ending : Ending) : BuildsState :=
  { s with images := if ending.success then s.images ++ call.builds?.toList else s.images }

/-- Changes one call and leaves the others as they are. -/
def modify (s : BuildsState) (call : Nat) (f : BuildCall → BuildCall) : BuildsState :=
  { s with calls := s.calls.modify call f }

/-- What an event makes of a state, if it may happen there. Each event is about one call, and no
two happen at once. -/
def step (s : BuildsState) : BuildsEvent → Option BuildsState
  | .request d =>
    let call : BuildCall := ⟨d, none, none, .dropped⟩
    some { s with calls := s.calls ++ [call.continued (s.gateway.buildImage d)] }
  | .lock i =>
    -- The table of locks is read and changed in one go: no call is seen to hold it.
    match s.calls[i]? with
    | some ⟨_, _, _, .running (.ask (.lock tag) next)⟩ =>
      some ((s.withLock tag).modify i fun c => c.continued (next (s.lockOf tag)))
    | _ => none
  | .hold i =>
    match s.calls[i]? with
    | some ⟨_, _, _, .running (.ask (.hold lock) next)⟩ =>
      if s.isHeld lock then none
      else some (s.modify i fun c => { c with holds := some lock }.continued (next ()))
    | _ => none
  | .exit i ending =>
    match s.calls[i]? with
    | some ⟨_, _, none, .running (.ask (.invoke _ call) _)⟩ =>
      if s.mayExit call ending then
        some ((s.afterExit call ending).modify i fun c => { c with exited := some ending })
      else none
    | _ => none
  | .answer i reply =>
    match s.calls[i]? with
    | some ⟨_, _, exited, .running (.ask (.invoke program call) next)⟩ =>
      let result := reply (.invoke program call)
      if result.agrees exited then some (s.modify i fun c => c.continued (next result))
      else none
    | some ⟨_, _, _, .running (.ask (.writeContext files) next)⟩ =>
      some (s.modify i fun c => c.continued (next (reply (.writeContext files))))
    | _ => none
  | .drop i =>
    match s.calls[i]? with
    | some ⟨_, _, _, .running _⟩ => some (s.modify i BuildCall.givenUp)
    | _ => none

/-- `Reaches s events t`: the events may happen in this order from `s` on, and
then the state is `t`. -/
inductive Reaches : BuildsState → List BuildsEvent → BuildsState → Prop
  | here (s : BuildsState) : Reaches s [] s
  | step {s t u : BuildsState} {e : BuildsEvent} {events : List BuildsEvent}
      (first : s.step e = some t) (rest : Reaches t events u) : Reaches s (e :: events) u

end BuildsState

/-- Calls for images, each made when the one before has returned. This is how a single caller uses
the gateway. -/
def EngineGateway.buildEach (r : EngineGateway) :
    List Definition → EngineProgram (List (Except GatewayError ImageTag))
  | [] => return []
  | d :: rest => do
    let result ← r.buildImage d
    let results ← r.buildEach rest
    return result :: results

end InstallMatrix
