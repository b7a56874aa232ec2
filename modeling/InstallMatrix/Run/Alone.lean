import InstallMatrix.Gateway.Faults
import InstallMatrix.Run.Pipeline

/-!
# `InstallMatrix.Run.Alone`: one cell with a gateway to itself

A cell driven on its own, without other cells and without permits, against a
gateway kept in memory. A call that is held is given up when the run is
cancelled.
-/

set_option autoImplicit false

namespace InstallMatrix

/-- The surroundings of a cell driven alone: no other cell calls the gateway, and the clock stands
still. -/
structure Alone where
  cancelled : Bool
  clock : Nat
  results : List CellResult
  gateway : FaultyGateway

namespace Alone

/-- The reply to a call that was served, given up if it is held. Alone there is nobody to wait
for. -/
def settle (c : Call) : Outcome c → c.Reply
  | .replied reply => reply
  | _ => (c.interrupted?).getD (c.failed (.timeout ""))

/-- Answers one question of the cell. A call changes the gateway and may cancel the run, a result
is kept, and a look changes nothing. -/
def answer (q : CellQuestion) (s : Alone) : CellAnswer q × Alone :=
  match q with
  | .observe => (⟨s.cancelled, s.clock⟩, s)
  | .call c =>
    let (served, gateway) := s.gateway.serve s.cancelled c
    (settle c served.outcome, { s with cancelled := s.cancelled || served.cancels, gateway })
  | .record r => ((), { s with results := s.results ++ [r] })

/-- Carries a program of the cell out, with the state of the surroundings handed from one answer
to the next. -/
def run {α : Type} (p : CellProgram α) (s : Alone) : α × Alone := Program.run answer p s

end Alone

end InstallMatrix
