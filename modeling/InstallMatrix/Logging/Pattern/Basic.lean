/-!
# `InstallMatrix.Logging.Pattern.Basic`: patterns for field values

A log filter may ask for the value of a field by a pattern, a regular expression.
Patterns are matched octet by octet with tables that know nothing of the letters
of other scripts, so a pattern that needs to know them is not understood: the
classes of digits, blanks and word characters, word boundaries, and any letter
whose case is to be ignored. With the flag `u` turned off they mean ASCII, and
then a pattern must not match half a character.

Definitions: `Pattern`, `CharClass`, `Pattern.understood?`, `Pattern.depth`.
-/

set_option autoImplicit false

namespace InstallMatrix.Logging

/-- What can be turned on and off within a pattern. -/
inductive Pattern.Flag
  | ignoreCase
  | multiLine
  | dotMatchesAll
  | swapGreed
  | unicode
  | carriageReturn
  /-- Blanks and comments may stand between the parts of the pattern. -/
  | verbose
  deriving DecidableEq

/-- Flags, each with what it is set to. -/
abbrev Pattern.Flags := List (Pattern.Flag × Bool)

/-- A character to be matched. -/
structure Pattern.Literal where
  char : Char
  /-- It was written by two hexadecimal digits, which can mean an octet. -/
  isOctet : Bool
  deriving DecidableEq

/-- A set of characters in brackets or a part of one. -/
inductive CharClass
  | empty
  | single (l : Pattern.Literal)
  | range (first last : Pattern.Literal)
  /-- One of the ASCII classes with a name. -/
  | named (negated : Bool)
  /-- Digits, blanks or word characters. -/
  | kind (negated : Bool)
  | bracket (negated : Bool) (c : CharClass)
  | union (cs : List CharClass)
  /-- An intersection or a difference. -/
  | operation (left right : CharClass)

/-- A pattern. -/
inductive Pattern
  | empty
  /-- Flags for what follows. -/
  | flags (fs : Pattern.Flags)
  | literal (l : Pattern.Literal)
  | any
  /-- The beginning or the end of a word. -/
  | boundary
  /-- The beginning or the end of a line or of the text. -/
  | anchor
  /-- Digits, blanks or word characters. -/
  | kind (negated : Bool)
  | charClass (c : CharClass)
  | repeated (p : Pattern)
  /-- A group with its own flags. -/
  | group (fs : Pattern.Flags) (p : Pattern)
  | sequence (ps : List Pattern)
  | choice (ps : List Pattern)

/-! ### What is understood -/

/-- The flags that decide what is understood. -/
structure Pattern.Options where
  ignoreCase : Bool
  unicode : Bool
  deriving DecidableEq

namespace Pattern

/-- The options at the beginning of a pattern. -/
def Options.initial : Options := ⟨false, true⟩

/-- Options changed by flags. -/
def Options.changed (o : Options) (fs : Flags) : Options :=
  ⟨(fs.lookup .ignoreCase).getD o.ignoreCase, (fs.lookup .unicode).getD o.unicode⟩

/-- Is this an ASCII character. -/
def Literal.isAscii (l : Literal) : Bool := l.char.toNat ≤ 0x7F

end Pattern

namespace CharClass

open Pattern (Options)

mutual

/-- Is a set understood with these options. -/
def isUnderstood (o : Options) : CharClass → Bool
  | .empty => true
  | .single l => if o.unicode then !o.ignoreCase else l.isAscii
  | .range first last => if o.unicode then !o.ignoreCase else first.isAscii && last.isAscii
  | .named negated => if o.unicode then !o.ignoreCase else !negated
  | .kind negated => !o.unicode && !negated
  | .bracket negated c => (o.unicode || !negated) && c.isUnderstood o
  | .union cs => allUnderstood o cs
  | .operation left right => left.isUnderstood o && right.isUnderstood o

/-- Are all of some sets understood. -/
def allUnderstood (o : Options) : List CharClass → Bool
  | [] => true
  | c :: cs => c.isUnderstood o && allUnderstood o cs

end

mutual

/-- How deep the parts of a set are nested. -/
def depth : CharClass → Nat
  | .empty | .single _ | .range _ _ | .named _ | .kind _ => 0
  | .bracket _ c => c.depth + 1
  | .union cs => depthOfAll cs + 1
  | .operation left right => max left.depth right.depth + 1

/-- How deep the deepest of some sets is nested. -/
def depthOfAll : List CharClass → Nat
  | [] => 0
  | c :: cs => max c.depth (depthOfAll cs)

end

end CharClass

namespace Pattern

/-- The options, if a condition on them holds. -/
def Options.when (o : Options) (condition : Bool) : Option Options :=
  if condition then some o else none

mutual

/-- The options after a pattern that is understood, `o` being those before it. -/
def understood? (o : Options) : Pattern → Option Options
  | .empty | .anchor => some o
  | .flags fs => some (o.changed fs)
  | .literal l => o.when (if o.unicode then !o.ignoreCase else l.isAscii || !l.isOctet)
  | .any => o.when o.unicode
  | .boundary => o.when !o.unicode
  | .kind negated => o.when (!o.unicode && !negated)
  | .charClass c => o.when (c.isUnderstood o)
  | .repeated p => (p.understood? o).map fun _ => o
  | .group fs p => (p.understood? (o.changed fs)).map fun _ => o
  | .sequence ps => allUnderstood? o ps
  | .choice ps => allUnderstood? o ps

/-- The options after patterns that follow one another. -/
def allUnderstood? (o : Options) : List Pattern → Option Options
  | [] => some o
  | p :: ps => (p.understood? o).bind fun o => allUnderstood? o ps

end

mutual

/-- How deep the parts of a pattern are nested. -/
def depth : Pattern → Nat
  | .empty | .flags _ | .literal _ | .any | .boundary | .anchor | .kind _ => 0
  | .charClass c => c.depth
  | .repeated p => p.depth + 1
  | .group _ p => p.depth + 1
  | .sequence ps => depthOfAll ps + 1
  | .choice ps => depthOfAll ps + 1

/-- How deep the deepest of some patterns is nested. -/
def depthOfAll : List Pattern → Nat
  | [] => 0
  | p :: ps => max p.depth (depthOfAll ps)

end

/-- Patterns nested deeper than this are refused. -/
def depthLimit : Nat := 250

/-- Is the pattern understood. -/
def isUnderstood (p : Pattern) : Bool :=
  p.depth ≤ depthLimit && (p.understood? .initial).isSome

end Pattern

end InstallMatrix.Logging
