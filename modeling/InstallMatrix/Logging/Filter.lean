import InstallMatrix.Logging.Pattern.Reader
import InstallMatrix.Text.Utf8

/-!
# `InstallMatrix.Logging.Filter`: which log filters are understood

A log filter is a list of directives with commas between them. A directive names
a level, a target, or a target with a level; a span with fields may stand in
brackets after the target: `target[span\{field=value\}]=level`. The value of a field
is a number or a pattern. The library writes no log of its own; all it needs to
know is whether a filter is well formed.

Blanks around a directive are passed over while its parts are told apart, but the
parts are cut out of the directive with its blanks, at the same octets. With
blanks before it a directive may therefore be refused, or read differently.

Definitions: `isLevel`, `isField`, `isDirective`, `isFilter`, `LogSettings`.
-/

set_option autoImplicit false

namespace InstallMatrix.Logging

/-- The names of the levels. -/
def levelNames : List String := ["error", "warn", "info", "debug", "trace", "off"]

/-- A natural number in digits, an optional plus sign before them. -/
def natural? (s : List Char) : Option Nat :=
  let ds := match s with
    | '+' :: r => r
    | _ => s
  if ds.isEmpty || !ds.all Char.isDigit then none
  else some (ds.foldl (fun n c => n * 10 + (c.toNat - 48)) 0)

/-- Is this a level: a name in any case, a number up to five, or nothing. -/
def isLevel (s : List Char) : Bool :=
  s.isEmpty || levelNames.contains (Text.lower (String.ofList s))
    || match natural? s with
      | some n => n ≤ 5
      | none => false

/-! ### Fields -/

/-- Is this a sequence of digits, which may be empty. -/
def areDigits (s : List Char) : Bool := s.all Char.isDigit

/-- The power of ten after a number, or nothing. -/
def isExponent : List Char → Bool
  | [] => true
  | e :: s =>
    let ds := match s with
      | '+' :: r => r
      | '-' :: r => r
      | _ => s
    (e == 'e' || e == 'E') && !ds.isEmpty && areDigits ds

/-- Is this a number in decimal digits without a sign. -/
def isUnsigned (s : List Char) : Bool :=
  let whole := s.takeWhile Char.isDigit
  match s.dropWhile Char.isDigit with
  | '.' :: s =>
    let fraction := s.takeWhile Char.isDigit
    (!whole.isEmpty || !fraction.isEmpty) && isExponent (s.dropWhile Char.isDigit)
  | s => !whole.isEmpty && isExponent s

/-- Is this a number: decimal digits, infinity, or no number at all by its name. -/
def isNumber (s : List Char) : Bool :=
  let s := match s with
    | '+' :: r => r
    | '-' :: r => r
    | _ => s
  isUnsigned s || ["inf", "infinity", "nan"].contains (Text.lower (String.ofList s))

/-- Is this a field, with or without a value. A second equals sign ends the value. -/
def isField (s : List Char) : Bool :=
  !s.isEmpty &&
    match s.dropWhile (· != '=') with
    | _ :: value =>
      let value := value.takeWhile (· != '=')
      isNumber value || isPattern value
    | [] => true

/-! ### Directives -/

/-- Where the reader of a directive stands; indices count octets. -/
inductive Place
  | start
  /-- In a word that began at the start and may be a level or a target. -/
  | word
  | span
  /-- In a field of a span that began at this index. -/
  | field (first : Nat)
  /-- After the fields of a span. -/
  | fieldsEnd
  /-- After the brackets of a span. -/
  | spanEnd
  /-- In a level that began at this index. -/
  | level (first : Nat)

/-- May a directive begin with this character. -/
def mayBegin (c : Char) : Bool :=
  c == '-' || c == ':' || c == '_' || Text.isAlphanumeric c

/-- The characters of a text between two octets; nothing if one of them is inside a
character. -/
def cut? (s : String) (first last : Nat) : Option (List Char) :=
  match Text.Utf8.decode (((Text.Utf8.encode s).take last).drop first) with
  | .ok part => some part.toList
  | .error _ => none

/-- The place after one more character, `index` being its index. Fields are cut out
of `whole`. -/
def advance (whole : String) (place : Place) (index : Nat) (c : Char) : Option Place :=
  match place with
  | .start => if c = '[' then some .span else if mayBegin c then some .word else none
  | .word =>
    if c = '=' then some (.level (index + 1)) else if c = '[' then some .span else some .word
  | .span =>
    if c = ']' then some .spanEnd
    else if c = '\x7b' then some (.field (index + 1)) else some .span
  | .field first =>
    if c = '\x7d' then (if (cut? whole first index).any isField then some .fieldsEnd else none)
    else some (.field first)
  | .fieldsEnd => if c = ']' then some .spanEnd else none
  | .spanEnd => if c = '=' then some (.level (index + 1)) else none
  | .level first => some (.level first)

/-- The place after the characters from `index` on. -/
def walk (whole : String) (place : Place) (index : Nat) : List Char → Option Place
  | [] => some place
  | c :: s =>
    match advance whole place index c with
    | some next => walk whole next (index + c.utf8Size) s
    | none => none

/-- Is this a directive. -/
def isDirective (s : String) : Bool :=
  match walk s .start 0 (Text.trim s).toList with
  | some .word => true
  | some .spanEnd => true
  | some (.level first) => (cut? s first (Text.Utf8.encode s).length).any isLevel
  | _ => false

/-- Is this a list of directives. Empty ones are passed over. -/
def isFilter (s : String) : Bool :=
  (Text.split ',' s).all fun d => d = "" || isDirective d

/-- The form of log lines. -/
inductive LogFormat
  | pretty
  | json
  deriving DecidableEq

namespace LogFormat

/-- Every form. -/
def all : List LogFormat := [.pretty, .json]

/-- The name of a form. -/
def name : LogFormat → String
  | .pretty => "pretty"
  | .json => "json"

end LogFormat

end InstallMatrix.Logging

namespace InstallMatrix

/-- What is logged and how. -/
structure LogSettings where
  /-- The filter used unless the environment brings one. -/
  level : String
  format : Logging.LogFormat
  /-- Show the target of each line. -/
  withTarget : Bool
  deriving DecidableEq

namespace LogSettings

/-- The settings used when nothing is asked for. -/
def default : LogSettings := ⟨"info", .pretty, false⟩

/-- Settings from a filter and the wish for JSON lines. -/
def of (level : String) (json : Bool) : LogSettings :=
  ⟨level, if json then .json else .pretty, false⟩

/-- Is there a filter to log by: the one of the environment if it is well formed,
else the one of the settings. -/
def isUsable (s : LogSettings) (environment : Option String) : Bool :=
  (match environment with
    | some filter => Logging.isFilter filter
    | none => false) || Logging.isFilter s.level

end LogSettings

end InstallMatrix
