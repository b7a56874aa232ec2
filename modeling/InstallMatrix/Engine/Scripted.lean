import InstallMatrix.Engine.Gateway

/-!
# `InstallMatrix.Engine.Scripted`: an engine that follows a script

A stand-in for an engine's program. Rules say what certain calls print and how
they end; calls without a rule behave as a well-meaning engine would. The engine
remembers which images were built and lists every call.

Definitions: `EngineRule`, `ScriptedEngine`, `ScriptedEngine.invoke`,
`ScriptedEngine.Host`, `ScriptedEngine.answer`.
-/

set_option autoImplicit false

namespace InstallMatrix

open Text (Octets)

/-- How a scripted call ends. -/
inductive ScriptedEnd
  /-- It exits; of the code, the low eight bits are seen. -/
  | exits (code : Int)
  | diesOf (signal : Nat)
  /-- It runs until its time is up. -/
  | hangs
  /-- It asks the calling program to stop, and then runs until its time is up. -/
  | interruptsCaller
  deriving DecidableEq

/-- What one kind of call is to do. -/
structure EngineRule where
  /-- The command of the call. -/
  command : String
  /-- A text that the arguments, joined by blanks, must hold. -/
  holding : Option String
  /-- The number of the call among those of its command. -/
  number : Option Nat
  stdout : Octets
  stderr : Octets
  ending : ScriptedEnd
  deriving DecidableEq

/-- A call as the engine saw it. -/
structure EngineCall where
  arguments : List String
  /-- The files of the build context, for a build. -/
  context : Option (List (String × String))
  deriving DecidableEq

/-- The engine with what it remembers. -/
structure ScriptedEngine where
  rules : List EngineRule
  /-- The command of every call so far. -/
  seen : List String
  /-- Tags that were built. -/
  built : List String
  calls : List EngineCall
  /-- The build context written last. -/
  context : List (String × String)
  /-- Was the calling program asked to stop. -/
  interrupted : Bool
  deriving DecidableEq

namespace ScriptedEngine

/-- The engine before its first call. -/
def fresh (rules : List EngineRule) : ScriptedEngine where
  rules := rules
  seen := []
  built := []
  calls := []
  context := []
  interrupted := false

/-- The argument after `-t`: the tag of a build. -/
def tagOf : List String → Option String
  | "-t" :: tag :: _ => some tag
  | _ :: rest => tagOf rest
  | [] => none

/-- Does a rule speak of this call, the call being this number among those of its
command. -/
def speaksOf (arguments : List String) (number : Nat) (rule : EngineRule) : Bool :=
  arguments.head? == some rule.command
    && (match rule.holding with
      | some part => Text.contains (Text.joined " " arguments) part
      | none => true)
    && (match rule.number with
      | some n => n == number
      | none => true)

/-- What a call without a rule does: output and exit code. -/
def customary (e : ScriptedEngine) (arguments : List String) (number : Nat) :
    String × String × Nat :=
  match arguments with
  | "version" :: _ => ("fake-engine 1.0\n", "", 0)
  | "image" :: "inspect" :: tag :: _ => ("", "", if tag ∈ e.built then 0 else 1)
  | "run" :: _ => ("cid-" ++ toString number ++ "\n", "", 0)
  | "exec" :: _ => ("", EngineGateway.sentinel ++ "\n", 0)
  | "logs" :: _ => ("container log line\n", "", 0)
  | _ => ("", "", 0)

/-- The engine after a call, with the image it has if the call was a build. -/
def noted (e : ScriptedEngine) (call : Invocation) (succeeded : Bool) : ScriptedEngine :=
  let isBuild := call.arguments.head? == some "build"
  { e with
    seen := e.seen ++ call.arguments.head?.toList
    built :=
      if isBuild && succeeded then e.built ++ (tagOf call.arguments).toList else e.built
    calls := e.calls
      ++ [⟨call.host ++ call.arguments, if isBuild then some e.context else none⟩] }

/-- Answers a call of the engine's program. -/
def invoke (e : ScriptedEngine) (call : Invocation) : Invocation.Result × ScriptedEngine :=
  let number := e.seen.count (call.arguments.head?.getD "") + 1
  match e.rules.find? (speaksOf call.arguments number) with
  | some rule =>
    match rule.ending with
    | .exits code =>
      -- The operating system keeps the low eight bits of an exit code.
      let seen := (code % 256).toNat
      (.ended ⟨rule.stdout, rule.stderr, .exited seen, 0⟩, e.noted call (seen == 0))
    | .diesOf signal =>
      (.ended ⟨rule.stdout, rule.stderr, .killed signal, 0⟩, e.noted call false)
    | .hangs => (.overdue rule.stdout rule.stderr, e.noted call false)
    | .interruptsCaller =>
      (.overdue rule.stdout rule.stderr, { e.noted call false with interrupted := true })
  | none =>
    let (stdout, stderr, code) := e.customary call.arguments number
    (.ended ⟨Text.Utf8.encode stdout, Text.Utf8.encode stderr, .exited code, 0⟩,
      e.noted call (code == 0))

/-- The surroundings of a scripted engine. -/
structure Host where
  /-- Why a program cannot be started; nothing for the engine itself. -/
  unstartable : String → Option String
  /-- Where build contexts are written. -/
  contextDir : String
  /-- The end of every container name. -/
  suffix : String

/-- Answers the questions of a gateway. -/
def answer (h : Host) (q : EngineQuestion) (e : ScriptedEngine) :
    EngineAnswer q × ScriptedEngine :=
  match q with
  | .invoke program call =>
    let refusals := [call.refusal? program, h.unstartable program, call.overlong?]
    match refusals.findSome? id with
    | some reason => (.unstartable reason, e)
    | none => e.invoke call
  | .writeContext files => (.ok h.contextDir, { e with context := files })
  | .suffix => (h.suffix, e)
  -- Calls come one after the other here, so one lock will do for every tag.
  | .lock _ => (0, e)
  | .hold _ => ((), e)

end ScriptedEngine

end InstallMatrix
