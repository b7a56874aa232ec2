import InstallMatrix.Table
import Mathlib.Data.List.Basic

/-!
# `InstallMatrix.Proofs.Shell.Reading`: how a shell reads a script

A POSIX shell cuts a script into words and operators before it expands or runs any of it.
`Reader.step` is that reading, one character at a time: quotes and backslashes take the meaning
from characters, a dollar sign begins the name of a variable, and blanks and operators end a
word. `commands` groups what was read into simple commands.

Substitutions of commands, parameters in braces and parameters that are no variables are not
read: the reader is stuck at them. Redirections, here-documents and compound commands are no
simple commands.

* `run_append` / `run_after`: a script is read from where the reading of its beginning left off,
  and what was read before does not matter for what is read next.
* `run_single` / `run_double`: what stands between quotes is one word, if nothing in it ends the
  quotes or has a meaning there.
* `letters_finish_le`: no more characters are read than were written. Each that is taken for
  a quote is one less (`weight_step_le`, `letters_finish_quote_le`).
-/

set_option autoImplicit false

namespace InstallMatrix.Shell

/-! ### Words and commands -/

/-- A part of a word: a character, or a variable whose value is put in later. Both say whether
they stood in quotes. -/
inductive Piece
  /-- A character that stands for itself. -/
  | char (c : Char) (quoted : Bool)
  /-- The value of a variable. -/
  | value (name : String) (quoted : Bool)
  deriving DecidableEq

/-- What is read as one argument of a command, before any expansion. An empty word is one as well,
if it was written as a pair of quotes. -/
abbrev Word := List Piece

/-- A unit of a script: a word, or an operator between words. Blanks and comments are not among
them. -/
inductive Token
  | word (w : Word)
  | operator (text : String)
  deriving DecidableEq

/-- A simple command: its name and its arguments. The name is the first of its words. -/
abbrev Command := List Word

/-- The word of a text written without quotes. It is used for texts in which nothing has a
meaning. -/
def bareWord (s : String) : Word := s.toList.map (.char · false)

/-- The word of a text between quotes. Its characters stand for themselves, whatever they are, and
none of them ends the word. -/
def quotedWord (s : String) : Word := s.toList.map (.char · true)

/-- The character a part of a word is, unless it waits for an expansion. -/
def Piece.char? : Piece → Option Char
  | .char c _ => some c
  | .value _ _ => none

/-- What a word spells, if no part of it waits for an expansion. -/
def Word.spelled? (w : Word) : Option String := (w.mapM Piece.char?).map String.ofList

/-- What a token spells, if it is a word and no part of it waits for an expansion. -/
def Token.spelled? : Token → Option String
  | .word w => w.spelled?
  | .operator _ => none

/-- What a part of a word stands for in an environment. A value that is not quoted may be cut
into several words. -/
def Piece.text? (env : Table String) : Piece → Option String
  | .char c _ => some (String.singleton c)
  | .value name true => some ((env.get? name).getD "")
  | .value _ false => none

/-- What a word stands for in an environment. An unquoted variable is left out, since its value
might be cut into several words. -/
def Word.text? (env : Table String) (w : Word) : Option String :=
  (w.mapM (Piece.text? env)).map String.join

/-! ### Reading -/

/-- What the reader is in the middle of. The characters that are held back are kept in the mode,
until it is clear what they are. -/
inductive Mode
  | bare
  /-- Behind a backslash. -/
  | escaped
  | single
  | double
  /-- Behind a backslash between double quotes. -/
  | doubleEscaped
  /-- Behind a dollar sign. -/
  | dollar (quoted : Bool)
  /-- In the name of a variable. -/
  | name (start : List Char) (quoted : Bool)
  | operator (start : List Char)
  | comment
  /-- At something that is not read. -/
  | stuck
  deriving DecidableEq

/-- What has been read of a script: the tokens that are complete, the word that was begun, and
what the reader is in the middle of. -/
structure Reader where
  tokens : List Token
  /-- The word that has been begun. -/
  word : Option Word
  mode : Mode
  deriving DecidableEq

/-- The operators of the shell. The reader takes the longest that the characters begin with, so
that two ampersands are not read as one twice. -/
def operators : List (List Char) :=
  ["&", "&&", "|", "||", ";", ";;", "<", "<<", "<<-", "<&", "<>", ">", ">>", ">&", ">|", "(",
    ")", "\n"].map String.toList

/-- May a variable's name begin with the character. -/
def beginsName (c : Char) : Bool := c.isAlpha || c == '_'

/-- May the character stand in a variable's name. -/
def continuesName (c : Char) : Bool := c.isAlphanum || c == '_'

/-- What begins a parameter that is no variable behind a dollar sign. -/
def beginsOther (c : Char) : Bool :=
  c.isDigit || ['(', '\x7b', '@', '*', '#', '?', '-', '$', '!'].contains c

/-- What a backslash takes the meaning from between double quotes. -/
def meansBetweenQuotes (c : Char) : Bool := ['$', '`', '"', '\\'].contains c

namespace Reader

/-- Before the first character. -/
def start : Reader := ⟨[], none, .bare⟩

/-- With a word that has been begun. -/
def opened (r : Reader) : Reader := { r with word := some (r.word.getD []) }

/-- With one more part of the word. -/
def add (r : Reader) (p : Piece) : Reader := { r with word := some (r.word.getD [] ++ [p]) }

/-- With one more token. -/
def push (r : Reader) (t : Token) : Reader := { r with tokens := r.tokens ++ [t] }

/-- With the word at its end. If no word was begun there is none to end. -/
def closed (r : Reader) : Reader :=
  match r.word with
  | none => r
  | some w => { r.push (.word w) with word := none }

/-- With the mode changed. -/
def into (r : Reader) (m : Mode) : Reader := { r with mode := m }

/-- Reads a character outside of quotes. Blanks and operators end a word, and quotes begin one. -/
def bare (r : Reader) (c : Char) : Reader :=
  if c = '\'' then r.opened.into .single
  else if c = '"' then r.opened.into .double
  else if c = '\\' then r.into .escaped
  else if c = '$' then r.into (.dollar false)
  else if c = '`' then r.into .stuck
  else if [c] ∈ operators then r.closed.into (.operator [c])
  else if c = ' ' ∨ c = '\t' then r.closed.into .bare
  else if c = '#' ∧ r.word = none then r.into .comment
  else (r.add (.char c false)).into .bare

/-- Reads a character between double quotes. A backslash, a dollar sign and the closing quote have
a meaning there. -/
def double (r : Reader) (c : Char) : Reader :=
  if c = '"' then r.into .bare
  else if c = '\\' then r.into .doubleEscaped
  else if c = '$' then r.into (.dollar true)
  else if c = '`' then r.into .stuck
  else (r.add (.char c true)).into .double

/-- Reads a character where an expansion has ended. It is read as the quotes around the expansion
say. -/
def within (r : Reader) (quoted : Bool) (c : Char) : Reader :=
  if quoted then r.double c else r.bare c

/-- Reads a character, in whatever mode the reader is. Everything about the reading of a script is
proved from this one step. -/
def step (r : Reader) (c : Char) : Reader :=
  match r.mode with
  | .bare => r.bare c
  | .escaped =>
    -- A line feed behind a backslash only continues the line.
    if c = '\n' then r.into .bare else (r.add (.char c true)).into .bare
  | .single => if c = '\'' then r.into .bare else (r.add (.char c true)).into .single
  | .double => r.double c
  | .doubleEscaped =>
    if c = '\n' then r.into .double
    else if meansBetweenQuotes c then (r.add (.char c true)).into .double
    else ((r.add (.char '\\' true)).add (.char c true)).into .double
  | .dollar quoted =>
    if beginsName c then r.into (.name [c] quoted)
    else if beginsOther c then r.into .stuck
    else (r.add (.char '$' quoted)).within quoted c
  | .name start quoted =>
    if continuesName c then r.into (.name (start ++ [c]) quoted)
    else (r.add (.value (String.ofList start) quoted)).within quoted c
  | .operator start =>
    if start ++ [c] ∈ operators then r.into (.operator (start ++ [c]))
    else (r.push (.operator (String.ofList start))).bare c
  | .comment => if c = '\n' then r.bare c else r.into .comment
  | .stuck => r.into .stuck

/-- Reads characters one after the other. -/
def run (r : Reader) (s : List Char) : Reader := s.foldl step r

/-- What was read of a script that ends here. Nothing may be left open: an open quote means that
the script is refused. -/
def finish (r : Reader) : Option (List Token) :=
  match r.mode with
  | .bare | .comment => some r.closed.tokens
  | .operator start => some (r.tokens ++ [.operator (String.ofList start)])
  | .dollar false => some (r.add (.char '$' false)).closed.tokens
  | .name start false => some (r.add (.value (String.ofList start) false)).closed.tokens
  | _ => none

end Reader

/-- The operators behind which another command is expected. -/
def joins : List String := ["&&", "||", "|"]

/-- The operators that may end a list of commands. -/
def ends : List String := [";", "&", "\n"]

/-- The commands of a list, `words` being what was read of the current one. Anything but simple
commands and the operators between them is not understood. -/
def commandsFrom (words : Command) (expected : Bool) : List Token → Option (List Command)
  | [] =>
    if words = [] then (if expected then none else some []) else some [words]
  | .word w :: rest => commandsFrom (words ++ [w]) false rest
  | .operator op :: rest =>
    if words = [] then (if op = "\n" then commandsFrom [] expected rest else none)
    else if op ∈ joins then (commandsFrom [] true rest).map (words :: ·)
    else if op ∈ ends then (commandsFrom [] false rest).map (words :: ·)
    else none

/-- The tokens of a script, or `none` if the reader does not follow it to its end. -/
def tokens (script : String) : Option (List Token) := (Reader.start.run script.toList).finish

/-- The commands of a script that is a list of simple ones. For all other scripts there is no
answer here. -/
def commands (script : String) : Option (List Command) :=
  (tokens script).bind (commandsFrom [] false)

/-- The script begins with these commands, each run only if the one before it succeeded, and
goes on behind the last one in the same way. -/
def Opens (script : String) (first : List Command) : Prop :=
  ∃ rest, (Reader.start.run script.toList).tokens
    = first.flatMap (fun c => c.map Token.word ++ [.operator "&&"]) ++ rest

namespace Reader

/-! ### Reading in parts -/

/-- A script is read from where the reading of its beginning left off. -/
theorem run_append (r : Reader) (s t : List Char) : r.run (s ++ t) = (r.run s).run t :=
  List.foldl_append

/-- With other tokens before those that have been read. This is how the reading of a beginning is
put before that of the rest. -/
def after (ts : List Token) (r : Reader) : Reader := { r with tokens := ts ++ r.tokens }

variable (ts : List Token) (r : Reader) (c : Char)

/-- Ending a word adds it behind the tokens, whatever came before. -/
theorem closed_after : (r.after ts).closed = r.closed.after ts := by
  unfold closed after push
  cases r with
  | mk tokens word mode => cases word <;> simp

/-- Reading a character outside of quotes does not depend on the tokens before. -/
theorem bare_after : (r.after ts).bare c = (r.bare c).after ts := by
  unfold bare
  simp only [closed_after, show (r.after ts).word = r.word from rfl]
  split_ifs <;> rfl

/-- Nor does reading one between double quotes. -/
theorem double_after : (r.after ts).double c = (r.double c).after ts := by
  unfold double
  split_ifs <;> rfl

/-- Nor does reading one where an expansion has ended. -/
theorem within_after (quoted : Bool) :
    (r.after ts).within quoted c = (r.within quoted c).after ts := by
  cases quoted
  · exact bare_after ts r c
  · exact double_after ts r c

/-- A token is added behind all the others. -/
theorem push_after (t : Token) : (r.after ts).push t = (r.push t).after ts := by
  simp [after, push]

/-- Reading any character does not depend on the tokens before. The cases are the modes of the
reader. -/
theorem step_after : (r.after ts).step c = (r.step c).after ts := by
  unfold step
  rw [show (r.after ts).mode = r.mode from rfl]
  -- What was read before does not decide how a character is read. Only the mode does.
  cases r.mode with
  | bare => exact bare_after ts r c
  | double => exact double_after ts r c
  | escaped | single | doubleEscaped => dsimp only; split_ifs <;> rfl
  | stuck => rfl
  | dollar quoted =>
    dsimp only
    split_ifs
    · rfl
    · rfl
    · exact within_after ts (r.add _) c quoted
  | name start quoted =>
    dsimp only
    split_ifs
    · rfl
    · exact within_after ts (r.add _) c quoted
  | operator start =>
    dsimp only
    split_ifs
    · rfl
    · rw [push_after, bare_after]
  | comment =>
    dsimp only
    split_ifs
    · exact bare_after ts r c
    · rfl

/-- What was read before does not matter for what is read next. The induction is on the
characters. -/
theorem run_after (s : List Char) : (r.after ts).run s = (r.run s).after ts := by
  induction s generalizing r with
  | nil => rfl
  | cons c s ih =>
    show ((r.after ts).step c).run s = ((r.step c).run s).after ts
    rw [step_after, ih]

/-- At the end, the tokens before stand before those that were read. -/
theorem finish_after : (r.after ts).finish = r.finish.map (ts ++ ·) := by
  have closes (p : Piece) : ((r.after ts).add p).closed = (r.add p).closed.after ts :=
    closed_after ts (r.add p)
  unfold finish
  rw [show (r.after ts).mode = r.mode from rfl, closed_after]
  simp only [closes]
  split <;> simp [after]

/-! ### Quotes -/

/-- Between single quotes only the quote has a meaning, so a text without one is read as it
stands. -/
theorem run_single (w : Word) {s : List Char} (free : '\'' ∉ s) :
    (⟨ts, some w, .single⟩ : Reader).run s = ⟨ts, some (w ++ s.map (.char · true)), .single⟩ := by
  induction s generalizing w with
  | nil => simp [run]
  | cons c s ih =>
    obtain ⟨ne, free⟩ := List.ne_and_not_mem_of_not_mem_cons free
    have reads : (⟨ts, some w, .single⟩ : Reader).step c
        = ⟨ts, some (w ++ [.char c true]), .single⟩ := if_neg (Ne.symm ne)
    show ((⟨ts, some w, .single⟩ : Reader).step c).run s = _
    rw [reads, ih _ free]
    simp

/-- Between double quotes a text without quotes, backslashes and dollar signs has no meaning. -/
theorem run_double (w : Word) {s : List Char} (free : ∀ c ∈ s, meansBetweenQuotes c = false) :
    (⟨ts, some w, .double⟩ : Reader).run s = ⟨ts, some (w ++ s.map (.char · true)), .double⟩ := by
  induction s generalizing w with
  | nil => simp [run]
  | cons c s ih =>
    obtain ⟨here, later⟩ := List.forall_mem_cons.mp free
    have reads : (⟨ts, some w, .double⟩ : Reader).step c
        = ⟨ts, some (w ++ [.char c true]), .double⟩ := by
      simp only [meansBetweenQuotes, List.contains_eq_mem, List.mem_cons, List.not_mem_nil,
        or_false, decide_eq_false_iff_not, not_or] at here
      simp [step, double, here, add, into]
    show ((⟨ts, some w, .double⟩ : Reader).step c).run s = _
    rw [reads, ih _ later]
    simp

/-! ### How much is read -/

end Reader

/-- How many characters a word spells, expansions aside. -/
def Word.letters (w : Word) : Nat := w.countP (·.char?.isSome)

/-- How many characters the words among the tokens spell. -/
def letters : List Token → Nat
  | [] => 0
  | .word w :: ts => w.letters + letters ts
  | .operator _ :: ts => letters ts

/-- The characters of two lists of tokens add up. -/
theorem letters_append (ts more : List Token) :
    letters (ts ++ more) = letters ts + letters more := by
  induction ts with
  | nil => simp [letters]
  | cons t ts ih => cases t <;> simp [letters, ih, Nat.add_assoc]

/-- How many characters a mode may still add without reading as many. It is what the mode holds
back. -/
def Mode.slack : Mode → Nat
  | .escaped | .double => 1
  | .doubleEscaped => 2
  | .dollar quoted => quoted.toNat + 1
  | .name _ quoted => quoted.toNat
  | .bare | .single | .operator _ | .comment | .stuck => 0

namespace Reader

/-- How many characters have been read into words, the word that was begun included. Expansions do
not count. -/
def letters (r : Reader) : Nat := Shell.letters r.tokens + (r.word.getD []).letters

/-- How many characters may have been read into words when the mode is left. This is the measure
that a step raises by at most one. -/
def weight (r : Reader) : Nat := r.letters + r.mode.slack

section Letters

variable (r : Reader)

/-- Changing the mode spells nothing. -/
@[simp]
theorem letters_into (m : Mode) : (r.into m).letters = r.letters := rfl

/-- Beginning a word spells nothing. -/
@[simp]
theorem letters_opened : r.opened.letters = r.letters := rfl

/-- A character of a word counts once, in quotes or not. -/
@[simp]
theorem letters_add_char (c : Char) (quoted : Bool) :
    (r.add (.char c quoted)).letters = r.letters + 1 := by
  simp [letters, add, Word.letters, Piece.char?, Nat.add_assoc]

/-- A variable counts nothing, for what it stands for is not in the script. -/
@[simp]
theorem letters_add_value (name : String) (quoted : Bool) :
    (r.add (.value name quoted)).letters = r.letters := by
  simp [letters, add, Word.letters, Piece.char?]

/-- An operator counts nothing. -/
@[simp]
theorem letters_push_operator (text : String) :
    (r.push (.operator text)).letters = r.letters := by
  simp [letters, push, letters_append, Shell.letters]

/-- Ending a word spells nothing more; the word only moves to the tokens. -/
@[simp]
theorem letters_closed : r.closed.letters = r.letters := by
  unfold closed
  split
  · rfl
  · next w begun =>
    simp [letters, push, letters_append, Shell.letters, Word.letters, begun]

/-- The weight in a new mode is what was spelled and the slack of the mode. -/
@[simp]
theorem weight_into (m : Mode) : (r.into m).weight = r.letters + m.slack := rfl

/-- Outside of quotes a character adds at most one. -/
theorem weight_bare_le (c : Char) : (r.bare c).weight ≤ r.letters + 1 := by
  unfold bare
  split_ifs <;> simp [Mode.slack]

/-- Between double quotes a dollar sign may still come to count besides the character behind it.
-/
theorem weight_double_le (c : Char) : (r.double c).weight ≤ r.letters + 2 := by
  unfold double
  split_ifs <;> simp [Mode.slack]

/-- Where an expansion has ended, the character is read as the quotes demand. -/
theorem weight_within_le (quoted : Bool) (c : Char) :
    (r.within quoted c).weight ≤ r.letters + quoted.toNat + 1 := by
  cases quoted
  · exact r.weight_bare_le c
  · exact r.weight_double_le c

/-- A character that is read adds at most one to what is spelled. The cases are the modes; those
that hold a character back have the slack for it. -/
theorem weight_step_le (c : Char) : (r.step c).weight ≤ r.weight + 1 := by
  unfold step
  rw [weight.eq_def r]
  -- A mode that holds characters back counts them already, so that giving them out costs nothing.
  cases r.mode with
  | bare => exact r.weight_bare_le c
  | double => exact r.weight_double_le c
  | escaped | doubleEscaped | single =>
    dsimp only
    split_ifs <;> simp only [weight_into, letters_add_char, Mode.slack] <;> omega
  | stuck => exact Nat.le_succ _
  | dollar quoted =>
    have onward := (r.add (.char '$' quoted)).weight_within_le quoted c
    rw [letters_add_char] at onward
    dsimp only
    split_ifs <;> simp only [weight_into, Mode.slack] <;> omega
  | name start quoted =>
    have onward := (r.add (.value (String.ofList start) quoted)).weight_within_le quoted c
    rw [letters_add_value] at onward
    dsimp only
    split_ifs
    · exact Nat.le_succ _
    · exact onward
  | operator start =>
    have onward := (r.push (.operator (String.ofList start))).weight_bare_le c
    rw [letters_push_operator] at onward
    dsimp only
    split_ifs
    · exact Nat.le_succ _
    · exact onward
  | comment =>
    dsimp only
    split_ifs
    · exact r.weight_bare_le c
    · exact Nat.le_succ _

/-- So a script spells at most as many characters as it has, by induction on them. A word with
more characters cannot come out of it. -/
theorem weight_run_le (s : List Char) : (r.run s).weight ≤ r.weight + s.length := by
  induction s generalizing r with
  | nil => exact Nat.le_refl _
  | cons c s ih =>
    have first := r.weight_step_le c
    have rest := ih (r.step c)
    rw [List.length_cons]
    show ((r.step c).run s).weight ≤ _
    omega

/-- The tokens of a script that ends here spell no more than has been read. -/
theorem letters_finish_le {ts : List Token} (done : r.finish = some ts) :
    Shell.letters ts ≤ r.weight := by
  have closes (r : Reader) : Shell.letters r.closed.tokens ≤ r.letters := by
    rw [← letters_closed]
    exact Nat.le_add_right _ _
  unfold finish at done
  rw [weight]
  -- At the end what a mode holds back is given out, or the text is refused.
  split at done
  · cases done
    exact Nat.le_trans (closes r) (Nat.le_add_right _ _)
  · cases done
    exact Nat.le_trans (closes r) (Nat.le_add_right _ _)
  · next start mode =>
    cases done
    have pushed := r.letters_push_operator (String.ofList start)
    rw [← pushed, letters]
    exact Nat.le_trans (Nat.le_add_right _ _) (Nat.le_add_right _ _)
  · next mode =>
    cases done
    have added := closes (r.add (.char '$' false))
    rw [letters_add_char] at added
    rw [mode]
    exact added
  · next start mode =>
    cases done
    have added := closes (r.add (.value (String.ofList start) false))
    rw [letters_add_value] at added
    exact Nat.le_trans added (Nat.le_add_right _ _)
  · cases done

/-- A single quote outside of quotes leaves something open, and so does one between double
quotes. -/
theorem finish_within_quote (quoted : Bool) : (r.within quoted '\'').finish = none := by
  cases quoted <;> rfl

/-- No operator ends in a single quote. -/
theorem not_operator_quote (start : List Char) : start ++ ['\''] ∉ operators := by
  have none : ∀ text ∈ operators, '\'' ∉ text := by decide
  exact fun mem => none _ mem (by simp)

/-- A single quote at the end is spelled only in place of another character. It begins or ends
quotes otherwise, and then it is not part of any word. -/
theorem letters_finish_quote_le {ts : List Token} (done : (r.step '\'').finish = some ts) :
    Shell.letters ts ≤ r.weight := by
  refine Nat.le_trans (letters_finish_le _ done) ?_
  obtain ⟨tokens, word, mode⟩ := r
  -- A text may end with a quote that closes one, that was escaped, or in a comment.
  cases mode with
  | escaped =>
    show (((Reader.mk tokens word .escaped).add (.char '\'' true)).into .bare).weight ≤ _
    rw [weight_into, letters_add_char]
    exact Nat.le_refl _
  | single | comment => exact Nat.le_refl _
  | bare | double | doubleEscaped | stuck => cases done
  | dollar quoted | name start quoted => cases (finish_within_quote _ quoted).symm.trans done
  | operator start =>
    have reads : (Reader.mk tokens word (.operator start)).step '\''
        = ((Reader.mk tokens word (.operator start)).push
            (.operator (String.ofList start))).within false '\'' :=
      if_neg (not_operator_quote start)
    rw [reads, finish_within_quote] at done
    cases done

end Letters

end Reader

/-! ### What is read of a text -/

/-- Every character of a text between quotes counts. -/
theorem letters_map_char (cs : List Char) : Word.letters (cs.map (.char · true)) = cs.length := by
  simp [Word.letters, List.countP_map, Function.comp_def, Piece.char?]

/-- A quoted text stands for itself in every environment. No part of it waits for an expansion. -/
theorem text?_quotedWord (env : Table String) (s : String) :
    (quotedWord s).text? env = some s := by
  have chars (cs : List Char) : (cs.map (Piece.char · true)).mapM (Piece.text? env)
      = some (cs.map String.singleton) := by
    induction cs with
    | nil => rfl
    | cons c cs ih => simp [ih, Piece.text?]
  have joins : String.join (s.toList.map String.singleton) = s := by
    rw [← String.toList_inj, String.toList_join, List.flatMap_map]
    simp
  rw [Word.text?, quotedWord, chars, Option.map_some, joins]

/-- A variable between double quotes stands for its value. -/
theorem text?_value_cons (env : Table String) (name : String) (w : Word) :
    Word.text? env (.value name true :: w) = (w.text? env).map ((env.get? name).getD "" ++ ·) := by
  have joins (texts : List String) : String.join ((env.get? name).getD "" :: texts)
      = (env.get? name).getD "" ++ String.join texts := by
    rw [← String.toList_inj]
    simp [String.toList_join]
  rw [Word.text?, Word.text?, List.mapM_cons]
  cases w.mapM (Piece.text? env) with
  | none => rfl
  | some texts => exact congrArg some (joins texts)

/-- A word that spells a text has as many characters. A bound on characters is therefore a bound
on what can be spelled. -/
theorem letters_of_spelled? {w : Word} {s : String} (spells : w.spelled? = some s) :
    w.letters = s.toList.length := by
  obtain ⟨cs, all, rfl⟩ := Option.map_eq_some_iff.mp spells
  clear spells
  rw [String.toList_ofList]
  induction w generalizing cs with
  | nil =>
    cases all
    rfl
  | cons p w ih =>
    simp only [List.mapM_cons, Option.bind_eq_bind, Option.bind_eq_some_iff] at all
    obtain ⟨c, first, rest, later, same⟩ := all
    cases same
    have counts := ih rest later
    unfold Word.letters at counts ⊢
    rw [List.countP_cons_of_pos (by simp [first]), counts, List.length_cons]

/-- A word among the tokens has at most the characters of them all. -/
theorem letters_le_of_mem {w : Word} {ts : List Token} (mem : .word w ∈ ts) :
    w.letters ≤ letters ts := by
  obtain ⟨before, behind, rfl⟩ := List.append_of_mem mem
  rw [letters_append, letters]
  omega

/-- The words of the commands are words that were read. Grouping tokens into commands makes no new
words. -/
theorem mem_of_commandsFrom {ts : List Token} {words : Command} {expected : Bool}
    {cs : List Command} (grouped : commandsFrom words expected ts = some cs) {c : Command}
    {w : Word} (command : c ∈ cs) (mem : w ∈ c) : w ∈ words ∨ .word w ∈ ts := by
  induction ts generalizing words expected cs with
  | nil =>
    unfold commandsFrom at grouped
    split_ifs at grouped <;> cases grouped
    · cases command
    · exact .inl (List.mem_singleton.mp command ▸ mem)
  | cons t ts ih =>
    cases t with
    | word v =>
      refine (ih grouped command).elim (fun here => ?_) fun later => .inr (.tail _ later)
      rcases List.mem_append.mp here with before | this
      · exact .inl before
      · exact .inr (List.mem_singleton.mp this ▸ .head _)
    | operator op =>
      -- Behind an operator a new command begins, with no words yet.
      have onward {expected : Bool} {rest : List Command}
          (grouped : commandsFrom [] expected ts = some rest) (command : c ∈ rest) :
          w ∈ words ∨ .word w ∈ Token.operator op :: ts :=
        (ih grouped command).elim nofun fun later => .inr (.tail _ later)
      unfold commandsFrom at grouped
      split_ifs at grouped
      · exact onward grouped command
      all_goals
        obtain ⟨rest, later, rfl⟩ := Option.map_eq_some_iff.mp grouped
        rcases List.mem_cons.mp command with rfl | command
        · exact .inl mem
        · exact onward later command

end InstallMatrix.Shell
