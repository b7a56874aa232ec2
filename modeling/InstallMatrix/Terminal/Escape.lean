import InstallMatrix.Text.Utf8

/-!
# `InstallMatrix.Terminal.Escape`: texts without escape sequences

A terminal reads a text as an automaton does: the escape character begins a
sequence, what follows tells its kind, and the kind tells where it ends. Only
what stands outside every sequence is shown, so a text can be printed where there
is no terminal once its sequences and its control characters are left out.
Characters that make room, such as line feeds, are kept; one inside a sequence
ends it.

Definitions: `Standing` (where a reader is), `Standing.keeps`, `Standing.after`,
`withoutEscapes`.
-/

set_option autoImplicit false

namespace InstallMatrix.Terminal

/-- Where a reader of a text stands: outside every sequence or within one. -/
inductive Standing
  | text
  /-- Behind the escape character. -/
  | escape
  /-- In a short sequence that only lacks its last character. -/
  | escapeTail
  /-- In a control sequence. -/
  | control
  /-- Behind the beginning of a device control string. -/
  | deviceStart
  /-- In the parameters of a device control string. -/
  | deviceParameters
  /-- In a device control string whose parameters are complete. -/
  | deviceTail
  /-- In the data of a device control string. -/
  | deviceData
  /-- In a command to the operating system. -/
  | systemCommand
  /-- In a string that no terminal shows. -/
  | silentString
  deriving DecidableEq

/-- Is the character in the range. -/
def isWithin (low high : Nat) (c : Char) : Bool := low ≤ c.toNat && c.toNat ≤ high

/-- Is it a control character that makes room. -/
def isSpacing (c : Char) : Bool := c == '\t' || c == '\n' || c == '\x0C' || c == '\r'

/-- Can the character stand between the beginning of a sequence and its last
character. -/
def isIntermediate (c : Char) : Bool := isWithin 0x20 0x2F c

/-- Can the character be the last one of a sequence. -/
def isFinal (c : Char) : Bool := isWithin 0x40 0x7E c

/-- Does the character end a string within a sequence: one of its octets is the
string terminator. -/
def endsString (c : Char) : Bool := (String.utf8EncodeChar c).contains 0x9C

namespace Standing

/-- Is a character kept that is met here. -/
def keeps (s : Standing) (c : Char) : Bool :=
  match s with
  | .text => isSpacing c || (0x20 ≤ c.toNat && c.toNat ≠ 0x7F)
  | .escape => isSpacing c
  | .escapeTail => isSpacing c
  | .control => isSpacing c
  | _ => false

/-- Where a reader stands behind the character that follows an escape
character. -/
def afterIntroducer (c : Char) : Standing :=
  if isIntermediate c then .escapeTail
  else if c == '[' then .control
  else if c == ']' then .systemCommand
  else if c == 'P' then .deviceStart
  else if c == 'X' || c == '^' || c == '_' then .silentString
  else if isWithin 0x30 0x7E c then .text
  else .escape

/-- Where a reader stands behind a character of the head of a device control
string, `loose` telling the characters that may not stand there. -/
def afterHead (s : Standing) (loose : Char → Bool) (c : Char) : Standing :=
  if isFinal c || loose c then .deviceData
  else if isIntermediate c then .deviceTail
  else if isWithin 0x30 0x3F c then .deviceParameters
  else s

/-- Where a reader stands behind a character that was not kept. -/
def after (s : Standing) (c : Char) : Standing :=
  if c == '\x1b' then .escape
  -- Either of these gives a sequence up at any point.
  else if c == '\x18' || c == '\x1a' then .text
  else
    match s with
    | .text => .text
    | .escape => afterIntroducer c
    | .escapeTail => if isWithin 0x30 0x7E c then .text else s
    | .control => if isFinal c then .text else s
    | .deviceStart => s.afterHead (fun c => c == ':') c
    | .deviceParameters => s.afterHead (fun c => c == ':' || isWithin 0x3C 0x3F c) c
    | .deviceTail => s.afterHead (isWithin 0x30 0x3F) c
    | .deviceData => if endsString c then .text else s
    | .systemCommand => if c == '\x07' then .text else s
    | .silentString => if endsString c then .text else s

end Standing

/-- What is left of the rest of a text. A character that is kept stands outside
every sequence. -/
def keptFrom : Standing → List Char → List Char
  | _, [] => []
  | s, c :: rest => if s.keeps c then c :: keptFrom .text rest else keptFrom (s.after c) rest

/-- A text without its escape sequences and without control characters, but for
those that make room. -/
def withoutEscapes (s : String) : String := String.ofList (keptFrom .text s.toList)

end InstallMatrix.Terminal
