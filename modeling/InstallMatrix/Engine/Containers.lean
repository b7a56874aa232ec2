import InstallMatrix.Engine.Gateway

/-!
# `InstallMatrix.Engine.Containers`: the containers an engine keeps for a gateway

An engine makes a container when it is asked to start one, and keeps it until it is asked
to remove it. It may make the container and still report a failure, and it may fail to
remove one. `EngineContainer.Changes` says what the engine's word can be relied on for:
containers come to be by a start only, under the name it asks for and with the id it
reports, and what a removal with exit code zero was asked for is not there.

A removal that fails may print that something was not found, and a gateway takes that for a
container that is gone. The engine need not mean the container, though, so nothing is taken
for granted here: the containers that are there all the same are `denied`, and a session keeps
account of them.

An `EngineSession` is a gateway at work on such an engine: it serves calls one after the
other, and now and then sweeps, removing everything it tracks in any order.

Definitions: `EngineContainer`, `EngineContainer.Changes`, `EngineContainer.denied`,
`EngineContainer.Follows`, `EngineSession`, `SessionEvent`, `EngineSession.Step`,
`EngineSession.Reaches`.
-/

set_option autoImplicit false

namespace InstallMatrix

/-! ### Invocations as the engine reads them -/

namespace Invocation

/-- The name under which the call starts a container. -/
def starts? (call : Invocation) : Option String :=
  match call.arguments with
  | "run" :: "--detach" :: "--name" :: name :: _ => some name
  | _ => none

/-- The id or name of the container the call removes. -/
def removes? (call : Invocation) : Option String :=
  match call.arguments with
  | ["rm", "--force", target] => some target
  | _ => none

namespace Result

/-- Did the program exit with code zero. -/
def isZero : Result → Bool
  | .ended output => output.ending.success
  | _ => false

/-- The id of a started container as it is reported: the last line that was printed. -/
def startedId? : Result → Option String
  | .ended output =>
    let id := EngineGateway.printedId output.stdout
    if output.ending.success && id != "" then some id else none
  | _ => none

/-- Is a container reported to be removed, or to be missing. -/
def reportsGone : Result → Bool
  | .ended output =>
    output.ending.success || EngineGateway.isMissing (Text.Utf8.decodeLossy output.stderr)
  | _ => false

end Result

end Invocation

/-! ### Containers -/

/-- A container of an engine. -/
structure EngineContainer where
  id : String
  name : String
  deriving DecidableEq

namespace EngineContainer

/-- `Changes present call result after`: the engine had the containers `present` of a
gateway, and after a call with this result it has `after`. -/
structure Changes (present : List EngineContainer) (call : Invocation)
    (result : Invocation.Result) (after : List EngineContainer) : Prop where
  /-- Whether a start succeeds or fails, it may have made a container. -/
  made : ∀ c ∈ after, c ∈ present ∨
    call.starts? = some c.name ∧ ∀ id, result.startedId? = some id → c.id = id
  gone : ∀ target, call.removes? = some target → result.isZero = true →
    ∀ c ∈ after, c.id ≠ target ∧ c.name ≠ target

/-- The containers that a failed removal reports to be missing, although the engine has them
afterwards. -/
def denied (call : Invocation) (result : Invocation.Result) (after : List EngineContainer) :
    List EngineContainer :=
  match call.removes? with
  | some target =>
    if result.reportsGone && !result.isZero then
      after.filter fun c => c.id == target || c.name == target
    else []
  | none => []

/-- `Follows present log after lost`: the questions were answered as in `log`, and the engine's
containers went from `present` to `after`. On the way it denied to have those in `lost`. -/
inductive Follows : List EngineContainer → Program.Transcript EngineAnswer →
    List EngineContainer → List EngineContainer → Prop
  | here (present : List EngineContainer) : Follows present [] present []
  | invoked {present between after lost : List EngineContainer} {program : String}
      {call : Invocation} {result : Invocation.Result}
      {log : Program.Transcript EngineAnswer} (changes : Changes present call result between)
      (rest : Follows between log after lost) :
      Follows present (⟨.invoke program call, result⟩ :: log) after
        (denied call result between ++ lost)
  | other {present after lost : List EngineContainer} {q : EngineQuestion}
      {answer : EngineAnswer q} {log : Program.Transcript EngineAnswer}
      (quiet : ∀ program call, q ≠ .invoke program call) (rest : Follows present log after lost) :
      Follows present (⟨q, answer⟩ :: log) after lost

end EngineContainer

/-! ### Sessions -/

/-- A gateway at work, with the engine behind it. -/
structure EngineSession where
  tracked : Tracked
  /-- The containers of this gateway that the engine has. -/
  present : List EngineContainer
  /-- The ids of the containers that were left running on purpose. -/
  retained : List String
  /-- The containers that the engine has denied to have. -/
  denied : List EngineContainer

/-- What a gateway is called for. -/
inductive SessionEvent
  | serve (call : Call)
  /-- All tracked containers are removed, in this order. -/
  | sweep (order : List Container)

namespace SessionEvent

/-- What the gateway does. It yields what is tracked afterwards. -/
def program (r : EngineGateway) (tracked : Tracked) : SessionEvent → EngineProgram Tracked
  | .serve call => do return (← r.serve tracked call).2
  | .sweep order => do return (← r.removeEach tracked order).2

/-- The id of the container that is left running on purpose. -/
def retained? : SessionEvent → Option String
  | .serve (.retain c) => some c.id
  | _ => none

end SessionEvent

namespace EngineSession

/-- No container was started yet. -/
def fresh : EngineSession := ⟨[], [], [], []⟩

/-- `Step r s e log t`: in the session `s` the gateway is called for `e`, its questions
are answered as in `log`, and the session is `t`. -/
structure Step (r : EngineGateway) (s : EngineSession) (e : SessionEvent)
    (log : Program.Transcript EngineAnswer) (t : EngineSession) : Prop where
  /-- The tracked containers are kept without an order. -/
  order : ∀ order, e = .sweep order → order.Perm s.tracked
  path : Program.Path (e.program r s.tracked) log (.pure t.tracked)
  /-- The engine's containers change with every call to it, and more may be denied. -/
  engine : ∃ lost, EngineContainer.Follows s.present log t.present lost ∧
    t.denied = s.denied ++ lost
  retained : t.retained = s.retained ++ e.retained?.toList

/-- `Reaches r s history t`: the gateway is called for each event in turn, from `s` on,
and then the session is `t`. -/
inductive Reaches (r : EngineGateway) : EngineSession →
    List (SessionEvent × Program.Transcript EngineAnswer) → EngineSession → Prop
  | here (s : EngineSession) : Reaches r s [] s
  | step {s t u : EngineSession} {e : SessionEvent} {log : Program.Transcript EngineAnswer}
      {history : List (SessionEvent × Program.Transcript EngineAnswer)}
      (first : Step r s e log t) (rest : Reaches r t history u) :
      Reaches r s ((e, log) :: history) u

end EngineSession

end InstallMatrix
