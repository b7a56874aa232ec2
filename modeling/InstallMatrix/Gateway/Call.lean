import InstallMatrix.Gateway.Basic

/-!
# `InstallMatrix.Gateway.Call`: the calls of a gateway

`Call` lists what a cell may ask of the gateway and `Call.Reply` what comes back.
`Call.interrupted` is the reply to a call that was given up while it waited:
building an image and running a command end when the run is cancelled, every
other call is waited for.
-/

set_option autoImplicit false

namespace InstallMatrix

/-- A request to the gateway. A run asks nothing else of it but the final sweep. -/
inductive Call
  /-- Build the image of a definition, or find it built. -/
  | build (definition : Definition)
  /-- Start a container that stays up. -/
  | start (image : ImageTag) (options : StartOptions)
  /-- Run a command to completion. -/
  | exec (container : Container) (command : ShellCommand)
  /-- The end of what the container itself printed. -/
  | logs (container : Container)
  /-- Remove a container. Removing one that is gone succeeds. -/
  | remove (container : Container)
  /-- Leave a container running after the run. -/
  | retain (container : Container)
  deriving DecidableEq

namespace Call

/-- What comes back from a call. All calls may fail but the last, which only has the gateway
forget a container. -/
@[reducible]
def Reply : Call → Type
  | .build _ => Except GatewayError ImageTag
  | .start _ _ => Except GatewayError Container
  | .exec _ _ => Except GatewayError CommandOutput
  | .logs _ => Except GatewayError String
  | .remove _ => Except GatewayError Unit
  | .retain _ => Unit

/-- The error every call but `retain` may come back with. A rehearsal uses it for errors in front
of the gateway. -/
def failed (e : GatewayError) : (c : Call) → c.Reply
  | .build _ => .error e
  | .start _ _ => .error e
  | .exec _ _ => .error e
  | .logs _ => .error e
  | .remove _ => .error e
  | .retain _ => ()

/-- What a call that ends with the run's cancellation was doing. Only builds and commands are
given up so; all others are waited for. -/
def interruption? : Call → Option String
  | .build d => some ("build of " ++ d.name)
  | .exec c _ => some ("exec in " ++ c.name)
  | _ => none

/-- The reply to a call that is given up because the run was cancelled, if it may be given up. -/
def interrupted? (c : Call) : Option c.Reply :=
  c.interruption?.map fun action => c.failed (.cancelled action)

end Call

end InstallMatrix
