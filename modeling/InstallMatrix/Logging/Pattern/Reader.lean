import InstallMatrix.Logging.Pattern.Basic
import InstallMatrix.Text.Basic
import InstallMatrix.Text.Letter

/-!
# `InstallMatrix.Logging.Pattern.Reader`: reading patterns

Reads the syntax of regular expressions: groups with names and flags, sets of
characters with operations on them, escapes, repetition, and choice. Properties of
characters and counted repetition are refused, the first because no pattern with
one is understood, the second because it needs a closing brace and that ends the
field a pattern stands in. Readers of nested parts spend one unit of fuel per
step; `read` supplies more than the pattern has characters.

Definitions: `escape?`, `class?`, `group?`, `Pattern.read`, `isPattern`.
-/

set_option autoImplicit false

namespace InstallMatrix.Logging.Pattern

/-! ### Blanks -/

/-- A text without the blanks and comments it begins with, `comment` saying whether
it begins within a comment. -/
def skipFrom (comment : Bool) : List Char → List Char
  | [] => []
  | c :: s =>
    if comment then skipFrom (c != '\n') s
    else if Text.isBlank c then skipFrom false s
    else if c = '#' then skipFrom true s
    else c :: s

/-- Passes over blanks and comments where they have no meaning. -/
def skip (verbose : Bool) (s : List Char) : List Char :=
  if verbose then skipFrom false s else s

/-- The first character of a text that is neither blank nor the first sign of a
comment; the first one of all if there is none. -/
def peekFrom (comment : Bool) (all : List Char) : List Char → Option Char
  | [] => all.head?
  | c :: s =>
    if Text.isBlank c then peekFrom comment all s
    else if !comment && c == '#' then peekFrom true all s
    else some c

/-- The character that comes next where blanks may have no meaning. -/
def peek (verbose : Bool) (s : List Char) : Option Char :=
  if verbose then peekFrom false s s else s.head?

/-! ### Escapes -/

/-- A number in so many hexadecimal digits, `value` being that of the digits before. -/
def hexDigits? (verbose : Bool) (value : Nat) : Nat → List Char → Option (Nat × List Char)
  | 0, s => some (value, s)
  | _ + 1, [] => none
  | count + 1, c :: s => do
    let d ← Text.hexValue? c
    hexDigits? verbose (value * 16 + d) count (skip verbose s)

/-- A character written by so many hexadecimal digits. -/
def hex? (verbose : Bool) (count : Nat) (s : List Char) : Option (Pattern × List Char) := do
  let (n, rest) ← hexDigits? verbose 0 count (skip verbose s)
  if n.isValidChar then some (.literal ⟨Char.ofNat n, count = 2⟩, rest) else none

/-- The control characters with a letter of their own. -/
def controls : List (Char × Nat) :=
  [('a', 7), ('f', 12), ('t', 9), ('n', 10), ('r', 13), ('v', 11)]

/-- What follows a backslash. -/
def escape? (verbose : Bool) : List Char → Option (Pattern × List Char)
  | [] => none
  | c :: s =>
    if c = 'x' then hex? verbose 2 s
    else if c = 'u' then hex? verbose 4 s
    else if c = 'U' then hex? verbose 8 s
    else if ['d', 's', 'w'].contains c then some (.kind false, s)
    else if ['D', 'S', 'W'].contains c then some (.kind true, s)
    else if ['A', 'z'].contains c then some (.anchor, s)
    else if c = 'b' && s.head? == some '\x7b' then none
    else if ['b', 'B', '<', '>'].contains c then some (.boundary, s)
    else
      match controls.lookup c with
      | some n => some (.literal ⟨Char.ofNat n, false⟩, s)
      | none =>
        if c.isAlphanum || 0x80 ≤ c.toNat then none else some (.literal ⟨c, false⟩, s)

/-! ### Sets of characters -/

/-- The ASCII classes with names. -/
def classNames : List String :=
  ["alnum", "alpha", "ascii", "blank", "cntrl", "digit", "graph", "lower", "print", "punct",
    "space", "upper", "word", "xdigit"]

/-- The rest of an ASCII class after its first bracket, and whether it is negated. -/
def named? : List Char → Option (Bool × List Char)
  | ':' :: s =>
    let negated := s.head? == some '^'
    let s := if negated then s.tail else s
    match s.dropWhile (· != ':') with
    | ':' :: ']' :: rest =>
      if classNames.contains (String.ofList (s.takeWhile (· != ':'))) then some (negated, rest)
      else none
    | _ => none
  | _ => none

/-- A set that is being read. -/
structure OpenClass where
  negated : Bool
  /-- The left side of the last operation. -/
  left : Option CharClass
  /-- What was read since then, the last one first. -/
  items : List CharClass

namespace OpenClass

/-- With one more part. -/
def push (k : OpenClass) (c : CharClass) : OpenClass := { k with items := c :: k.items }

/-- What was read so far. -/
def value (k : OpenClass) : CharClass :=
  let right := match k.items with
    | [] => CharClass.empty
    | [c] => c
    | cs => .union cs.reverse
  match k.left with
  | none => right
  | some left => .operation left right

end OpenClass

/-- The hyphens at the beginning of a set, which mean themselves. -/
def hyphens (verbose : Bool) : Nat → OpenClass → List Char → OpenClass × List Char
  | fuel + 1, k, '-' :: s =>
    hyphens verbose fuel (k.push (.single ⟨'-', false⟩)) (skip verbose s)
  | _, k, s => (k, s)

/-- The beginning of a set after its bracket. A closing bracket that comes first
means itself. -/
def openClass? (verbose : Bool) (s : List Char) : Option (OpenClass × List Char) :=
  let s := skip verbose s
  let negated := s.head? == some '^'
  let s := if negated then skip verbose s.tail else s
  let (k, s) := hyphens verbose s.length ⟨negated, none, []⟩ s
  match k.items, s with
  | _, [] => none
  | [], ']' :: s =>
    let s := skip verbose s
    if s.isEmpty then none else some (k.push (.single ⟨']', false⟩), s)
  | _, s => some (k, s)

/-- One character of a set, or an escape. -/
def classItem? (verbose : Bool) : List Char → Option (Pattern × List Char)
  | [] => none
  | '\\' :: s => escape? verbose s
  | c :: s => some (.literal ⟨c, false⟩, s)

/-- A part of a set without brackets: a character, a range, or a kind of character. -/
def classRange? (verbose : Bool) (s : List Char) : Option (CharClass × List Char) := do
  let (first, s) ← classItem? verbose s
  match skip verbose s with
  | [] => none
  | c :: after =>
    let next := peek verbose after
    -- Before the end of the class or another hyphen, a hyphen makes no range.
    if c = '-' && next != some ']' && next != some '-' then
      let (last, s) ← classItem? verbose (skip verbose after)
      match first, last with
      | .literal a, .literal b => if a.char ≤ b.char then some (.range a b, s) else none
      | _, _ => none
    else
      match first with
      | .literal a => some (.single a, c :: after)
      | .kind negated => some (.kind negated, c :: after)
      | _ => none

/-- The rest of a set, `outer` being the sets around it, the innermost first. -/
def classFrom? (verbose : Bool) :
    Nat → OpenClass → List OpenClass → List Char → Option (CharClass × List Char)
  | 0, _, _, _ => none
  | fuel + 1, k, outer, s =>
    -- Behind an operator the class begins anew, and what was read is its left side.
    let operated : OpenClass := ⟨k.negated, some k.value, []⟩
    match skip verbose s with
    | [] => none
    | '[' :: s =>
      match named? s with
      | some (negated, s) => classFrom? verbose fuel (k.push (.named negated)) outer s
      | none => do
        let (inner, s) ← openClass? verbose s
        classFrom? verbose fuel inner (k :: outer) s
    | ']' :: s =>
      let c := CharClass.bracket k.negated k.value
      match outer with
      | [] => some (c, s)
      | up :: outer => classFrom? verbose fuel (up.push c) outer s
    | '&' :: '&' :: s => classFrom? verbose fuel operated outer s
    | '-' :: '-' :: s => classFrom? verbose fuel operated outer s
    | '~' :: '~' :: s => classFrom? verbose fuel operated outer s
    | s => do
      let (c, s) ← classRange? verbose s
      classFrom? verbose fuel (k.push c) outer s

/-- A set after its opening bracket. -/
def class? (verbose : Bool) (s : List Char) : Option (CharClass × List Char) := do
  let (k, s') ← openClass? verbose s
  classFrom? verbose (s.length + 1) k [] s'

/-! ### Groups -/

/-- The flag that a letter stands for. -/
def flag? : Char → Option Flag
  | 'i' => some .ignoreCase
  | 'm' => some .multiLine
  | 's' => some .dotMatchesAll
  | 'U' => some .swapGreed
  | 'u' => some .unicode
  | 'R' => some .carriageReturn
  | 'x' => some .verbose
  | _ => none

/-- Flags up to a colon or a closing bracket, and whether it was a colon. Flags
after a hyphen are turned off; a hyphen must not come last. -/
def flagsFrom? (on hyphen : Bool) (seen : Flags) :
    List Char → Option (Flags × Bool × List Char)
  | [] => none
  | ':' :: s => if hyphen then none else some (seen, true, s)
  | ')' :: s => if hyphen then none else some (seen, false, s)
  | '-' :: s => if on then flagsFrom? false true seen s else none
  | c :: s => do
    let f ← flag? c
    if (seen.lookup f).isSome then none else flagsFrom? on false (seen ++ [(f, on)]) s

/-- May the name of a group hold this character. -/
def isNameChar (first : Bool) (c : Char) : Bool :=
  if first then c == '_' || Text.isAlphabetic c
  else ['_', '.', '[', ']'].contains c || Text.isAlphanumeric c

/-- The name of a group and what follows its closing angle. -/
def name? (s : List Char) : Option (String × List Char) :=
  match s.takeWhile (· != '>'), s.dropWhile (· != '>') with
  | c :: cs, _ :: rest =>
    if isNameChar true c && cs.all (isNameChar false) then some (String.ofList (c :: cs), rest)
    else none
  | _, _ => none

/-- A group that is being read, or the pattern as a whole. -/
structure OpenGroup where
  flags : Flags
  /-- Are blanks without meaning after the group. -/
  verboseAfter : Bool
  /-- The finished alternatives, the last one first. -/
  branches : List Pattern
  /-- The parts of the current alternative, the last one first. -/
  items : List Pattern

namespace OpenGroup

/-- With one more part. -/
def push (g : OpenGroup) (p : Pattern) : OpenGroup := { g with items := p :: g.items }

/-- The current alternative. -/
def branch (g : OpenGroup) : Pattern :=
  match g.items with
  | [] => .empty
  | [p] => p
  | ps => .sequence ps.reverse

/-- With a new alternative begun. -/
def next (g : OpenGroup) : OpenGroup := { g with branches := g.branch :: g.branches, items := [] }

/-- What was read so far. -/
def value (g : OpenGroup) : Pattern :=
  match g.branches with
  | [] => g.branch
  | bs => .choice (g.branch :: bs).reverse

end OpenGroup

/-- How far a pattern has been read. -/
structure Reading where
  group : OpenGroup
  /-- The groups around it, the innermost first. -/
  outer : List OpenGroup
  /-- The names of groups so far. -/
  names : List String
  /-- Are blanks without meaning. -/
  verbose : Bool

namespace Reading

/-- Before the first character. -/
def start : Reading := ⟨⟨[], false, [], []⟩, [], [], false⟩

/-- With one more part of the current group. -/
def push (r : Reading) (p : Pattern) : Reading := { r with group := r.group.push p }

/-- With a group opened. -/
def enter (r : Reading) (fs : Flags) : Reading :=
  { r with
    group := ⟨fs, r.verbose, [], []⟩
    outer := r.group :: r.outer
    verbose := (fs.lookup .verbose).getD r.verbose }

/-- What an opening bracket begins: a group, or flags for the rest of one. -/
def group? (r : Reading) (s : List Char) : Option (Reading × List Char) :=
  let opened (s : List Char) : Option (Reading × List Char) := do
    let (name, s) ← name? s
    if r.names.contains name then none
    else some ({ r.enter [] with names := name :: r.names }, s)
  match skip r.verbose s with
  | '?' :: 'P' :: '<' :: s => opened s
  | '?' :: '<' :: s => opened s
  | '?' :: s => do
    let (fs, isGroup, s) ← flagsFrom? true false [] s
    if isGroup then some (r.enter fs, s)
    else if fs.isEmpty then none
    -- Flags without a group hold up to the end of the group they stand in.
    else some ({ r.push (.flags fs) with verbose := (fs.lookup .verbose).getD r.verbose }, s)
  | s => some (r.enter [], s)

/-- With the current group closed. -/
def leave? (r : Reading) : Option Reading :=
  match r.outer with
  | [] => none
  | up :: outer =>
    some { r with
      group := up.push (.group r.group.flags r.group.value)
      outer := outer
      verbose := r.group.verboseAfter }

/-- With the last part repeated. -/
def repeat? (r : Reading) : Option Reading :=
  match r.group.items with
  | [] => none
  | .flags _ :: _ => none
  | p :: items => some { r with group := { r.group with items := .repeated p :: items } }

end Reading

/-- The text without a question mark at its beginning. -/
def afterLazy : List Char → List Char
  | '?' :: s => s
  | s => s

/-- Reads on. -/
def readFrom? : Nat → Reading → List Char → Option Pattern
  | 0, _, _ => none
  | fuel + 1, r, s =>
    match skip r.verbose s with
    | [] => if r.outer.isEmpty then some r.group.value else none
    | c :: s =>
      if c = '(' then do
        let (r, s) ← r.group? s
        readFrom? fuel r s
      else if c = ')' then do
        let r ← r.leave?
        readFrom? fuel r s
      else if c = '|' then readFrom? fuel { r with group := r.group.next } s
      else if c = '[' then do
        let (k, s) ← class? r.verbose s
        readFrom? fuel (r.push (.charClass k)) s
      else if c = '?' || c = '*' || c = '+' then do
        let r ← r.repeat?
        readFrom? fuel r (afterLazy s)
      else if c = '\x7b' then none
      else if c = '\\' then do
        let (p, s) ← escape? r.verbose s
        readFrom? fuel (r.push p) s
      else if c = '.' then readFrom? fuel (r.push .any) s
      else if c = '^' || c = '$' then readFrom? fuel (r.push .anchor) s
      else readFrom? fuel (r.push (.literal ⟨c, false⟩)) s

/-- Reads a pattern. -/
def read (s : List Char) : Option Pattern := readFrom? (s.length + 1) .start s

end InstallMatrix.Logging.Pattern

namespace InstallMatrix.Logging

/-- Is this a pattern that is understood. -/
def isPattern (s : List Char) : Bool :=
  match Pattern.read s with
  | some p => p.isUnderstood
  | none => false

end InstallMatrix.Logging
