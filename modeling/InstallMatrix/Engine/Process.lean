import InstallMatrix.Text.Basic
import InstallMatrix.Text.Utf8

/-!
# `InstallMatrix.Engine.Process`: what a called program leaves behind

An engine is driven by calling its program. This module says how such a call can
end and reads the output of a call line by line.

Definitions: `Ending`, `ProcessOutput`, `Invocation`, `Invocation.Result`,
`Invocation.refusal?`, `octetLines`, `OutputTail`.
-/

set_option autoImplicit false

namespace InstallMatrix

open Text (Octets)

/-- How a process ended: by itself with an exit code, or by a signal from outside. -/
inductive Ending
  | exited (code : Nat)
  | killed (signal : Nat)
  deriving DecidableEq

namespace Ending

/-- Did the process exit with code zero. A process that was killed did not. -/
def success (e : Ending) : Bool := e == .exited 0

/-- The names of the signals from number one on. -/
def signalNames : List String :=
  ["SIGHUP", "SIGINT", "SIGQUIT", "SIGILL", "SIGTRAP", "SIGABRT", "SIGBUS", "SIGFPE",
    "SIGKILL", "SIGUSR1", "SIGSEGV", "SIGUSR2", "SIGPIPE", "SIGALRM", "SIGTERM", "SIGSTKFLT",
    "SIGCHLD", "SIGCONT", "SIGSTOP", "SIGTSTP", "SIGTTIN", "SIGTTOU", "SIGURG", "SIGXCPU",
    "SIGXFSZ", "SIGVTALRM", "SIGPROF", "SIGWINCH", "SIGIO", "SIGPWR", "SIGSYS"]

/-- The name of a signal in brackets, or nothing if it has none. It stands behind the number. -/
def signalName (signal : Nat) : String :=
  match signalNames[signal - 1]? with
  | some name => if signal = 0 then "" else " (" ++ name ++ ")"
  | none => ""

/-- The wording of an ending: an exit with its code, a signal with its number and name. -/
def text : Ending → String
  | .exited code => "exit status: " ++ toString code
  | .killed signal => "signal: " ++ toString signal ++ signalName signal

end Ending

/-- What a process left behind. Both streams are octets, since nothing says that they are text. -/
structure ProcessOutput where
  stdout : Octets
  stderr : Octets
  ending : Ending
  /-- Running time in nanoseconds. -/
  elapsed : Nat
  deriving DecidableEq

/-- A call of the engine's program. The arguments that point at the engine are kept apart, as they
are the same for all calls. -/
structure Invocation where
  /-- Arguments that point at the engine. -/
  host : List String
  /-- The command and its arguments. -/
  arguments : List String
  /-- Milliseconds the call may take. -/
  limit : Nat
  deriving DecidableEq

/-- How a call of a program can end. Only the first way has an exit to speak of. -/
inductive Invocation.Result
  | ended (output : ProcessOutput)
  /-- It was still running when its time was up; what it had printed by then. -/
  | overdue (stdout stderr : Octets)
  /-- It could not be started. -/
  | unstartable (reason : String)
  deriving DecidableEq

/-- The most octets one argument of a program may have. The operating system refuses a call with a
longer one. -/
def Invocation.argumentLimit : Nat := 131071

/-- Why no program can be called with these words, whatever the program is: one of them has an
octet zero. -/
def Invocation.refusal? (program : String) (call : Invocation) : Option String :=
  let words := program :: (call.host ++ call.arguments)
  if words.any fun w => w.toList.any fun c => c.toNat = 0 then
    some "nul byte found in provided data"
  else none

/-- Why a program that is there cannot be called with these words. This is found out later than a
program that is missing. -/
def Invocation.overlong? (call : Invocation) : Option String :=
  if (call.host ++ call.arguments).any fun w =>
      Invocation.argumentLimit < (Text.Utf8.encode w).length then
    some "Argument list too long (os error 7)"
  else none

/-! ### Lines of output -/

/-- One line of raw output. The last line of an output may lack its line feed. -/
structure OctetLine where
  octets : Octets
  /-- Does a line feed, which belongs to the octets, end the line. -/
  complete : Bool
  deriving DecidableEq

/-- The lines of an output, `acc` holding the octets of the current line in
reverse. -/
def octetLinesFrom (acc : Octets) : Octets → List OctetLine
  | [] => if acc.isEmpty then [] else [⟨acc.reverse, false⟩]
  | b :: rest =>
    if b = 10 then ⟨(b :: acc).reverse, true⟩ :: octetLinesFrom [] rest
    else octetLinesFrom (b :: acc) rest

/-- The lines of an output. Put together again, they are the output. -/
def octetLines (output : Octets) : List OctetLine := octetLinesFrom [] output

/-- A line without its line feed and a carriage return before that. Other carriage returns stay.
-/
def withoutEnd (line : String) : String :=
  match line.toList.reverse with
  | '\n' :: '\r' :: rest => String.ofList rest.reverse
  | '\n' :: rest => String.ofList rest.reverse
  | _ => line

/-- The text of a line, or why it is none. The whole line is read as UTF-8, its end included. -/
def OctetLine.read (line : OctetLine) : Except Text.Utf8.Fault String :=
  (Text.Utf8.decode line.octets).map withoutEnd

/-! ### The end of an output -/

/-- The last lines of an output, at most `capacity` of them. It is filled line by line while the
output comes in. -/
structure OutputTail where
  capacity : Nat
  lines : List String
  deriving DecidableEq

namespace OutputTail

/-- No lines yet. Room for `capacity` lines is set aside by then. That there may not be so much
memory is left out, and so a tail of any capacity can be had. -/
def empty (capacity : Nat) : OutputTail := ⟨capacity, []⟩

/-- One more line; the oldest makes room for it. Without any room nothing is kept. -/
def push (t : OutputTail) (line : String) : OutputTail :=
  if t.capacity = 0 then t
  else if t.lines.length = t.capacity then { t with lines := t.lines.tail ++ [line] }
  else { t with lines := t.lines ++ [line] }

/-- The lines with line feeds between them. There is none behind the last line. -/
def text (t : OutputTail) : String := Text.joined "\n" t.lines

end OutputTail

end InstallMatrix
