import InstallMatrix.Gateway.Call

/-!
# `InstallMatrix.Gateway.Outcome`: how a served call ends

A gateway that serves calls for a run says of each call how it ended, and whether
the run was cancelled meanwhile.
-/

set_option autoImplicit false

namespace InstallMatrix

/-- How a call ended. -/
inductive Outcome (c : Call)
  | replied (reply : c.Reply)
  /-- The calling task broke off. -/
  | panicked
  /-- No reply comes unless the run is cancelled. -/
  | held

/-- A served call. -/
structure Served (c : Call) where
  /-- Was the run cancelled while the call was under way. -/
  cancels : Bool
  outcome : Outcome c

/-- A served removal of what a run left behind. -/
structure Swept where
  /-- Was the run cancelled while the containers were removed. -/
  cancels : Bool
  /-- How many containers there were. -/
  removed : Except GatewayError Nat

/-- The answer to every call that gives `reply` to the call `c`. -/
def Call.answering (c : Call) (reply : c.Reply) : (d : Call) → d.Reply := fun d =>
  if h : c = d then h ▸ reply else d.failed (.timeout "")

/-- The reply that was given to a call is the one the call is answered with. -/
theorem Call.answering_self (c : Call) (reply : c.Reply) : c.answering reply c = reply := by
  simp [Call.answering]

end InstallMatrix
