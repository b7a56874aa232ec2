import InstallMatrix.Text.Basic

/-!
# `InstallMatrix.Data.Toml.Text`: blanks, comments and quoted texts of TOML

Every reader takes what is left of the document and gives back what it read
together with the rest. Texts stand between double quotes, where a backslash
begins an escape, or between single quotes, where every character stands for
itself. Three quotes begin a text that may have more than one line.

Definitions: `skipBlanks`, `lineEnd?`, `skipLines`, `text?`.
-/

set_option autoImplicit false

namespace InstallMatrix.Toml

/-! ### Blanks and lines -/

/-- The document without the blanks at its beginning. -/
def skipBlanks : List Char → List Char
  | ' ' :: s => skipBlanks s
  | '\t' :: s => skipBlanks s
  | s => s

/-- May this character stand in a comment or between single quotes. -/
def isPlain (c : Char) : Bool := c = '\t' || (0x20 ≤ c.toNat && c.toNat != 0x7F)

/-- The document without the comment at its beginning, if there is one. -/
def skipComment : List Char → List Char
  | '#' :: s => s.dropWhile isPlain
  | s => s

/-- What follows a line end at the beginning of the document. -/
def newline? : List Char → Option (List Char)
  | '\n' :: s => some s
  | '\r' :: '\n' :: s => some s
  | _ => none

/-- What follows the rest of a line that holds nothing but blanks and a comment. -/
def lineEnd? (s : List Char) : Option (List Char) :=
  match skipComment (skipBlanks s) with
  | [] => some []
  | s => newline? s

/-- The document without the blanks, comments and line ends at its beginning.
Every round passes one line end or is the last, so `fuel` need not exceed the
number of characters. -/
def skipLines : Nat → List Char → List Char
  | 0, s => s
  | fuel + 1, s =>
    let s := skipComment (skipBlanks s)
    match newline? s with
    | some s => skipLines fuel s
    | none => s

/-! ### Escapes -/

/-- The character of a one-letter escape. -/
def shortEscape? (c : Char) : Option Char :=
  if c = '"' ∨ c = '\\' then some c
  else if c = 'b' then some '\x08'
  else if c = 't' then some '\t'
  else if c = 'n' then some '\n'
  else if c = 'f' then some '\x0c'
  else if c = 'r' then some '\r'
  else none

/-- The character with the number that `count` hexadecimal digits write. -/
def numberedChar? (count : Nat) (s : List Char) : Option (Char × List Char) := do
  if s.length < count then none
  let ds ← (s.take count).mapM Text.hexValue?
  let n := Text.ofDigitValues 16 ds
  if n.isValidChar then some (Char.ofNat n, s.drop count) else none

/-- The character of an escape after its backslash. -/
def escape? : List Char → Option (Char × List Char)
  | 'u' :: s => numberedChar? 4 s
  | 'U' :: s => numberedChar? 8 s
  | c :: s => (shortEscape? c).map fun e => (e, s)
  | [] => none

/-! ### Texts of one line -/

/-- The rest of a text after its double quote. -/
def doubleQuoted : Nat → List Char → Option (List Char × List Char)
  | 0, _ => none
  | _ + 1, [] => none
  | _ + 1, '"' :: s => some ([], s)
  | fuel + 1, '\\' :: s => do
    let (c, s) ← escape? s
    (doubleQuoted fuel s).map fun (cs, rest) => (c :: cs, rest)
  | fuel + 1, c :: s =>
    if isPlain c then (doubleQuoted fuel s).map fun (cs, rest) => (c :: cs, rest) else none

/-- The rest of a text after its single quote. -/
def singleQuoted : List Char → Option (List Char × List Char)
  | [] => none
  | '\'' :: s => some ([], s)
  | c :: s =>
    if isPlain c then (singleQuoted s).map fun (cs, rest) => (c :: cs, rest) else none

/-! ### Texts of several lines -/

/-- How many times the quote stands at the beginning, counted up to five: three
end a text, and up to two more belong to it. -/
def leadingQuotes (quote : Char) (s : List Char) : Nat :=
  ((s.take 5).takeWhile (· == quote)).length

/-- The document without the blanks and line ends at its beginning. -/
def skipBlankLines : Nat → List Char → List Char
  | 0, s => s
  | fuel + 1, s =>
    match newline? (skipBlanks s) with
    | some s => skipBlankLines fuel s
    | none => skipBlanks s

/-- The rest of a text of several lines after its quotes. Line ends are read as
line feeds. Between double quotes a backslash at the end of a line joins the line
to the next characters that are not blank. -/
def quotedLines (quote : Char) : Nat → List Char → Option (List Char × List Char)
  | 0, _ => none
  | _ + 1, [] => none
  | fuel + 1, c :: s =>
    let add (cs : List Char) (rest : List Char) : Option (List Char × List Char) :=
      (quotedLines quote fuel rest).map fun (more, rest) => (cs ++ more, rest)
    if c = quote then
      -- Up to two quotes may stand right before the three that close the text.
      let count := leadingQuotes quote (c :: s)
      if count < 3 then add [c] s
      else some (List.replicate (count - 3) quote, (c :: s).drop count)
    else if c = '\\' ∧ quote = '"' then
      -- A backslash at the end of a line drops the blanks and line feeds behind it.
      match newline? (skipBlanks s) with
      | some s => add [] (skipBlankLines s.length s)
      | none => (escape? s).bind fun (e, s) => add [e] s
    else
      match newline? (c :: s) with
      | some s => add ['\n'] s
      | none => if isPlain c then add [c] s else none

/-- What follows a line end that stands right after the opening quotes. -/
def skipFirstLineEnd (s : List Char) : List Char := (newline? s).getD s

/-- A quoted text at the beginning of the document. -/
def text? (s : List Char) : Option (String × List Char) :=
  let read (r : Option (List Char × List Char)) : Option (String × List Char) :=
    r.map fun (cs, rest) => (String.ofList cs, rest)
  match s with
  | '"' :: '"' :: '"' :: s => read (quotedLines '"' (s.length + 1) (skipFirstLineEnd s))
  | '\'' :: '\'' :: '\'' :: s => read (quotedLines '\'' (s.length + 1) (skipFirstLineEnd s))
  | '"' :: s => read (doubleQuoted (s.length + 1) s)
  | '\'' :: s => read (singleQuoted s)
  | _ => none

end InstallMatrix.Toml
