import InstallMatrix.Data.Basic
import InstallMatrix.Timestamp

/-!
# `InstallMatrix.Data.Toml.Number`: numbers, dates and times of TOML

Whole numbers fit into 64 bits and may be written in base sixteen, eight and two.
Single underscores may stand between digits. Dates and times become records with
one field of a reserved name, so that they cannot be taken for texts.

Definitions: `whole?`, `decimal?`, `dateTime?`, `number?`.
-/

set_option autoImplicit false

namespace InstallMatrix.Toml

open Text (digitValue? ofDigitValues)

/-! ### Digits -/

/-- More digits of a base, single underscores before any of them. -/
def moreDigits (base : Nat) : List Char → List Nat × List Char
  | '_' :: c :: s =>
    -- An underscore stands between two digits.
    match digitValue? base c with
    | some d =>
      let (ds, rest) := moreDigits base s
      (d :: ds, rest)
    | none => ([], '_' :: c :: s)
  | c :: s =>
    match digitValue? base c with
    | some d =>
      let (ds, rest) := moreDigits base s
      (d :: ds, rest)
    | none => ([], c :: s)
  | [] => ([], [])

/-- At least one digit of a base. -/
def digits? (base : Nat) : List Char → Option (List Nat × List Char)
  | c :: s => do
    let d ← digitValue? base c
    let (ds, rest) := moreDigits base s
    return (d :: ds, rest)
  | [] => none

/-- A sign, if there is one: is it a minus. -/
def sign : List Char → Bool × List Char
  | '+' :: s => (false, s)
  | '-' :: s => (true, s)
  | s => (false, s)

/-! ### Whole numbers -/

/-- Decimal digits without superfluous zeros. -/
def wholeDigits? : List Char → Option (List Nat × List Char)
  | '0' :: s => some ([0], s)
  | s => digits? 10 s

/-- A whole number with an optional sign in base ten. -/
def signedWhole? (s : List Char) : Option (Int × List Char) := do
  let (negative, s) := sign s
  let (ds, rest) ← wholeDigits? s
  let n : Int := ofDigitValues 10 ds
  return (if negative then -n else n, rest)

/-- A whole number. Those in another base than ten have no sign. -/
def whole? (s : List Char) : Option (Data × List Char) := do
  let inBase (base : Nat) (s : List Char) : Option (Int × List Char) :=
    (digits? base s).map fun (ds, rest) => ((ofDigitValues base ds : Int), rest)
  let (n, rest) ← match s with
    | '0' :: 'x' :: s => inBase 16 s
    | '0' :: 'o' :: s => inBase 8 s
    | '0' :: 'b' :: s => inBase 2 s
    | s => signedWhole? s
  if Data.fits64 n then some (.int n, rest) else none

/-! ### Other numbers -/

/-- What follows the digits after a point, if there is a point. -/
def afterFraction? : List Char → Option (List Char)
  | '.' :: s => (digits? 10 s).map Prod.snd
  | _ => none

/-- What follows an exponent, if there is one. -/
def afterExponent? : List Char → Option (List Char)
  | c :: s =>
    if c = 'e' ∨ c = 'E' then (digits? 10 (sign s).2).map Prod.snd else none
  | [] => none

/-- What follows a number with a point or an exponent or both, or one of the
words for what is no finite number. -/
def afterDecimal? (s : List Char) : Option (List Char) :=
  match (sign s).2 with
  | 'i' :: 'n' :: 'f' :: rest => some rest
  | 'n' :: 'a' :: 'n' :: rest => some rest
  | s => do
    let (_, s) ← wholeDigits? s
    match afterFraction? s with
    | some s => some ((afterExponent? s).getD s)
    | none => afterExponent? s

/-- The least number that rounds to no finite binary number of 64 bits: halfway
between the greatest of these and the next power of two. -/
def roundsToInfinity : Nat := Nat.pow 2 1024 - Nat.pow 2 970

/-- Is `mantissa` times ten to the power of `exponent` at least `roundsToInfinity`.
Powers are only compared where the number of digits leaves it open. -/
def isTooGreat (mantissa : Nat) (exponent : Int) : Bool :=
  let magnitude : Int := (Nat.toDigits 10 mantissa).length + exponent
  if mantissa = 0 || magnitude < 300 then false
  else if 320 < magnitude then true
  else
    roundsToInfinity * Nat.pow 10 (-exponent).toNat ≤ mantissa * Nat.pow 10 exponent.toNat

/-- The digits before and after the point and the exponent of an unsigned numeral. -/
def numeralParts (s : List Char) : List Char × List Char × Int :=
  let value (ds : List Char) : Nat := ofDigitValues 10 (ds.filterMap (digitValue? 10))
  let whole := s.takeWhile Char.isDigit
  let s := s.dropWhile Char.isDigit
  let fraction := if s.head? == some '.' then s.tail.takeWhile Char.isDigit else []
  let (negative, ds) := sign (s.dropWhile fun c => c == '.' || c.isDigit).tail
  (whole, fraction, if negative then -(value ds : Int) else value ds)

/-- Does a numeral stand for a positive number that is too great to be kept. -/
def overflows (numeral : List Char) : Bool :=
  let (negative, s) := sign (numeral.filter (· != '_'))
  let (whole, fraction, exponent) := numeralParts s
  !negative && isTooGreat (ofDigitValues 10 ((whole ++ fraction).filterMap (digitValue? 10)))
    (exponent - fraction.length)

/-- A number that is not written as a whole one. -/
def decimal? (s : List Char) : Option (Data × List Char) := do
  let rest ← afterDecimal? s
  let numeral := s.take (s.length - rest.length)
  if overflows numeral then none
  return (.decimal (String.ofList numeral), rest)

/-! ### Dates and times -/

/-- The name of the only field of a date or time. -/
def dateTimeField : String := "$__toml_private_datetime"

/-- The number that exactly `count` digits write. -/
def fixed? (count : Nat) (s : List Char) : Option (Nat × List Char) := do
  if s.length < count then none
  let ds ← (s.take count).mapM (digitValue? 10)
  return (ofDigitValues 10 ds, s.drop count)

/-- Two digits that write a number within bounds. -/
def two? (least greatest : Nat) (s : List Char) : Option (Nat × List Char) := do
  let (n, s) ← fixed? 2 s
  if least ≤ n ∧ n ≤ greatest then some (n, s) else none

/-- What follows a character that must stand here. -/
def after? (c : Char) : List Char → Option (List Char)
  | d :: s => if c = d then some s else none
  | [] => none

/-- A date of the calendar, as it is written. -/
def date? (s : List Char) : Option (String × List Char) := do
  let (year, s) ← fixed? 4 s
  let (month, s) ← two? 1 12 (← after? '-' s)
  let (day, s) ← two? 1 31 (← after? '-' s)
  if day ≤ Timestamp.daysInMonth year month then
    some (Timestamp.digits 4 year ++ "-" ++ Text.twoDigits month ++ "-" ++ Text.twoDigits day, s)
  else none

/-- A fraction of a second in at most nine digits and without zeros at its end. -/
def fractionText (ds : List Nat) : String :=
  let kept := ((ds.take 9).reverse.dropWhile (· == 0)).reverse
  if kept.isEmpty then "" else "." ++ Text.joined "" (kept.map toString)

/-- A fraction of a second, if there is one. -/
def secondFraction (s : List Char) : String × List Char :=
  match s with
  | '.' :: s' =>
    let ds := s'.takeWhile Char.isDigit
    if ds.isEmpty then ("", s)
    else (fractionText (ds.filterMap (digitValue? 10)), s'.dropWhile Char.isDigit)
  | _ => ("", s)

/-- A time of the day, as it is written. -/
def time? (s : List Char) : Option (String × List Char) := do
  let (hour, s) ← two? 0 23 s
  let (minute, s) ← two? 0 59 (← after? ':' s)
  let (second, s) ← two? 0 60 (← after? ':' s)
  let (fraction, s) := secondFraction s
  return (Text.twoDigits hour ++ ":" ++ Text.twoDigits minute ++ ":" ++ Text.twoDigits second
    ++ fraction, s)

/-- The distance to UTC, if there is one. -/
def offset (s : List Char) : String × List Char :=
  let numbered (mark : String) (s' : List Char) : Option (String × List Char) := do
    let (hour, s') ← two? 0 23 s'
    let (minute, s') ← two? 0 59 (← after? ':' s')
    return (mark ++ Text.twoDigits hour ++ ":" ++ Text.twoDigits minute, s')
  match s with
  | 'Z' :: s' => ("Z", s')
  | 'z' :: s' => ("Z", s')
  | '+' :: s' => (numbered "+" s').getD ("", s)
  | '-' :: s' => (numbered "-" s').getD ("", s)
  | _ => ("", s)

/-- The time that follows a date, with its distance to UTC. -/
def timeAfterDate? : List Char → Option (String × List Char)
  | c :: s => do
    if c = 'T' ∨ c = 't' ∨ c = ' ' then
      let (time, s) ← time? s
      let (shift, s) := offset s
      some ("T" ++ time ++ shift, s)
    else none
  | [] => none

/-- A date, a time, or both. -/
def dateTime? (s : List Char) : Option (Data × List Char) := do
  let (written, rest) ← match date? s with
    | some (date, s) =>
      match timeAfterDate? s with
      | some (time, s) => some (date ++ time, s)
      | none => some (date, s)
    | none => time? s
  return (.record [(dateTimeField, .text written)], rest)

/-- A date, a time or a number. -/
def number? (s : List Char) : Option (Data × List Char) :=
  (dateTime? s).or ((decimal? s).or (whole? s))

end InstallMatrix.Toml
