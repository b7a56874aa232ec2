import InstallMatrix.Gateway.Call
import InstallMatrix.Program
import InstallMatrix.Results.Basic

/-!
# `InstallMatrix.Run.Question`: what a cell asks of the run

A cell is driven by a `CellProgram`. It looks at the clock and at whether the run
was cancelled, calls the gateway, and hands in its result; nothing else reaches
it or leaves it.
-/

set_option autoImplicit false

namespace InstallMatrix

/-- What a look at the run shows. Both are taken at the same time. -/
structure Moment where
  /-- Was the run cancelled. -/
  cancelled : Bool
  /-- Nanoseconds since the beginning of 1970. -/
  clock : Nat

/-- Whole milliseconds from one clock reading to a later one, rounded down. -/
def millisecondsBetween (earlier later : Nat) : Nat :=
  (later - earlier) / 1000000

/-- What a cell may ask. It has no other way to learn of the run and the other cells. -/
inductive CellQuestion
  /-- Look at the clock and at the run. -/
  | observe
  | call (c : Call)
  /-- Hand in the result of the cell. -/
  | record (result : CellResult)

/-- The answers to each question. Handing in a result is not answered with anything. -/
@[reducible]
def CellAnswer : CellQuestion → Type
  | .observe => Moment
  | .call c => c.Reply
  | .record _ => Unit

/-- A computation on behalf of a cell. It is carried out one question at a time, so others may
come between any two. -/
abbrev CellProgram (α : Type) : Type := Program CellAnswer α

namespace CellProgram

/-- Looks at the run. A program goes on from what it has seen until it looks again. -/
def observe : CellProgram Moment := Program.question CellQuestion.observe

/-- Calls the gateway and goes on with the reply. -/
def call (c : Call) : CellProgram c.Reply := Program.question (CellQuestion.call c)

/-- Hands in a result. A cell does so once, before its container is given up. -/
def record (r : CellResult) : CellProgram Unit := Program.question (CellQuestion.record r)

end CellProgram

end InstallMatrix
