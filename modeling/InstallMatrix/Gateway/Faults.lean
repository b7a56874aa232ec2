import InstallMatrix.Gateway.Memory

/-!
# `InstallMatrix.Gateway.Faults`: faults in front of a gateway

A fault strikes just before the gateway sees the call of a certain kind and
number: it may cancel the run, break the calling task off, or answer in the
gateway's place. Calls are counted by kind from one.

Definitions: `CallKind`, `FaultAction`, `Fault`, `FaultyGateway`,
`FaultyGateway.serve`, `FaultyGateway.sweep`.
-/

set_option autoImplicit false

namespace InstallMatrix

/-- The kinds of calls a fault can strike. -/
inductive CallKind
  | build
  | start
  | exec
  | logs
  | remove
  | retain
  | sweep
  deriving DecidableEq

/-- The kind of a call. -/
def Call.kind : Call → CallKind
  | .build _ => .build
  | .start _ _ => .start
  | .exec _ _ => .exec
  | .logs _ => .logs
  | .remove _ => .remove
  | .retain _ => .retain

/-- What a fault does. -/
inductive FaultAction
  /-- Cancels the run and lets the call go on. -/
  | cancel
  /-- Cancels the run and never answers. -/
  | cancelAndHang
  /-- Breaks the calling task off. -/
  | panic
  /-- Answers with an error. -/
  | fail (error : GatewayError)

/-- A fault that strikes one call. -/
structure Fault where
  kind : CallKind
  /-- Which call of the kind is struck, the first being number one. -/
  number : Nat
  action : FaultAction

/-- What the faults of one call come to: whether they cancel the run, and what
they put in the place of the gateway. -/
inductive Interference
  | none
  | hang
  | panic
  | fail (error : GatewayError)

/-- The faults of one call, one after the other. The first that ends the call
hides those after it. -/
def interfere : List FaultAction → Bool × Interference
  | [] => (false, .none)
  | .cancel :: rest => (true, (interfere rest).2)
  | .cancelAndHang :: _ => (true, .hang)
  | .panic :: _ => (false, .panic)
  | .fail e :: _ => (false, .fail e)

/-- A gateway with faults in front of it. -/
structure FaultyGateway where
  faults : List Fault
  /-- The kind of every call made so far. -/
  seen : List CallKind
  gateway : MemoryGateway

namespace FaultyGateway

/-- The actions of the faults that strike the next call of a kind. -/
def striking (g : FaultyGateway) (kind : CallKind) : List FaultAction :=
  (g.faults.filter fun f => f.kind == kind && f.number == g.seen.count kind + 1).map
    Fault.action

/-- The gateway after one more call of a kind. -/
def counted (g : FaultyGateway) (kind : CallKind) : FaultyGateway :=
  { g with seen := g.seen ++ [kind] }

/-- Serves one call. -/
def serve (g : FaultyGateway) (cancelled : Bool) (c : Call) : Served c × FaultyGateway :=
  let (cancels, interference) := interfere (g.striking c.kind)
  let counted := g.counted c.kind
  match interference with
  | .hang => (⟨cancels, .held⟩, counted)
  | .panic => (⟨cancels, .panicked⟩, counted)
  | .fail e => (⟨cancels, .replied (c.failed e)⟩, counted)
  | .none =>
    let (outcome, gateway) := counted.gateway.serve (cancelled || cancels) c
    (⟨cancels, outcome⟩, { counted with gateway })

/-- Removes every live container. -/
def sweep (g : FaultyGateway) : Swept × FaultyGateway :=
  let (cancels, interference) := interfere (g.striking .sweep)
  let counted := g.counted .sweep
  match interference with
  | .fail e => (⟨cancels, .error e⟩, counted)
  | _ =>
    let (count, gateway) := counted.gateway.sweep
    (⟨cancels, .ok count⟩, { counted with gateway })

end FaultyGateway

end InstallMatrix
