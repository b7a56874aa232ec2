import InstallMatrix.CommandLine.Basic

/-!
# `InstallMatrix.CommandLine.Words`: options among words

Words are read from left to right. An option takes its value from the same word,
after an equals sign, or from the next word, which must not look like an option
itself. The first word that asks for help or cannot be understood decides; what
stands after it is not looked at.

Definitions: `OptionKind`, `OptionSpec`, `Occurrences`, `Level`, `readWords`.
-/

set_option autoImplicit false

namespace InstallMatrix.CommandLine

/-- What an option takes. -/
inductive OptionKind
  /-- Nothing. It may be given once. -/
  | flag
  /-- One value. It may be given once. -/
  | single
  /-- Values with commas between them. It may be given again. -/
  | several
  deriving DecidableEq

/-- An option that is known. -/
structure OptionSpec where
  name : String
  kind : OptionKind
  /-- Is this a value of the option. -/
  accepts : String → Bool

/-- The options that were given, each with one value, in order. A flag has an empty
value. -/
abbrev Occurrences := List (String × String)

namespace Occurrences

/-- Was the option given. -/
def has (o : Occurrences) (name : String) : Bool := o.any fun x => x.1 == name

/-- The value of an option. -/
def value? (o : Occurrences) (name : String) : Option String :=
  (o.find? fun x => x.1 == name).map Prod.snd

/-- All values of an option. -/
def values (o : Occurrences) (name : String) : List String :=
  (o.filter fun x => x.1 == name).map Prod.snd

end Occurrences

/-- What may be said at one place of the command line. -/
structure Level where
  /-- The command whose options these are; none before a command was named. -/
  command : Option CommandName
  options : List OptionSpec

/-- Is this a word that is read as an option. -/
def looksLikeOption (word : String) : Bool :=
  Text.startsWith word "-" && word != "-"

/-- The name of a long option and the value after its equals sign. -/
def longOption? (word : String) : Option (String × Option String) :=
  (Text.after? ['-', '-'] word.toList).map fun s =>
    let name := String.ofList (s.takeWhile (· != '='))
    match s.dropWhile (· != '=') with
    | _ :: value => (name, some (String.ofList value))
    | [] => (name, none)

/-- The values an option is given by a word. -/
def valuesOf (spec : OptionSpec) (word : String) : List String :=
  match spec.kind with
  | .several => Text.split ',' word
  | _ => [word]

/-- The occurrences with one more of an option. -/
def taken (spec : OptionSpec) (word : String) (seen : Occurrences) :
    Except Halt Occurrences :=
  if spec.kind != .several && seen.has spec.name then
    .error (.misuse ("the argument '--" ++ spec.name ++ "' cannot be used multiple times"))
  else if spec.kind == .flag then .ok (seen ++ [(spec.name, "")])
  else
    let values := valuesOf spec word
    match values.find? fun v => !spec.accepts v with
    | some v => .error (.misuse ("invalid value '" ++ v ++ "' for '--" ++ spec.name ++ "'"))
    | none => .ok (seen ++ values.map fun v => (spec.name, v))

/-- What comes of a word with one hyphen. -/
def shortHalt (level : Level) (word : String) : Halt :=
  match word.toList with
  | _ :: 'h' :: _ => .help level.command
  | _ :: 'V' :: _ =>
    if level.command.isNone then .version
    else .misuse ("unexpected argument '" ++ word ++ "' found")
  | _ => .misuse ("unexpected argument '" ++ word ++ "' found")

/-- The refusal of a word nothing is known of. -/
def unexpected (word : String) : Halt := .misuse ("unexpected argument '" ++ word ++ "' found")

/-- The refusal of an option without a value. -/
def valueMissing (name : String) : Halt :=
  .misuse ("a value is required for '--" ++ name ++ "' but none was supplied")

/-- Is the option one that asks for help or for the version at this place. -/
def haltOf? (level : Level) (name : String) : Option Halt :=
  if name = "help" then some (.help level.command)
  else if name = "version" ∧ level.command.isNone then some .version
  else none

/-- Reads options up to the first word that is none: nothing may follow them but,
before a command was named, the name of one. The word and those after it are given
back. -/
def readWords (level : Level) : List String → Occurrences →
    Except Halt (Occurrences × Option (String × List String))
  | [], seen => .ok (seen, none)
  | "--" :: rest, seen =>
    match rest with
    | [] => .ok (seen, none)
    | word :: _ => .error (unexpected word)
  | word :: rest, seen =>
    match longOption? word with
    | some (name, attached) =>
      match level.options.find? fun s => s.name == name with
      | none =>
        match haltOf? level name, attached with
        | some halt, none => .error halt
        | some _, some value =>
          .error (.misuse ("unexpected value '" ++ value ++ "' for '--" ++ name ++ "' found"))
        | none, _ => .error (unexpected word)
      | some spec =>
        match spec.kind, attached with
        | .flag, some value =>
          .error (.misuse ("unexpected value '" ++ value ++ "' for '--" ++ name ++ "' found"))
        | .flag, none => do readWords level rest (← taken spec "" seen)
        | _, some value => do readWords level rest (← taken spec value seen)
        | _, none =>
          match rest with
          | [] => .error (valueMissing name)
          | value :: rest =>
            -- A value may look like an option only if it is attached with an equals sign.
            if looksLikeOption value then .error (valueMissing name)
            else do readWords level rest (← taken spec value seen)
    | none =>
      if looksLikeOption word then .error (shortHalt level word)
      else if level.command.isNone then .ok (seen, some (word, rest))
      else .error (unexpected word)

end InstallMatrix.CommandLine
