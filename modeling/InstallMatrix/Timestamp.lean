import InstallMatrix.Text.Basic

/-!
# `InstallMatrix.Timestamp`: points in time and how they are written

A `Timestamp` counts seconds from the beginning of 1970 in UTC. It is written in
the form of RFC 3339 with the letter `Z` and as many groups of three fraction
digits as it needs. Reading is more generous: blanks may stand between the parts,
numbers need no leading zeros, and any offset is accepted and turned into UTC.

Definitions: `Timestamp`, `Timestamp.written`, `Timestamp.read`,
`daysFromCivil`, `civilFromDays`.
-/

set_option autoImplicit false

namespace InstallMatrix

/-- A point in time in UTC. -/
structure Timestamp where
  /-- Whole seconds since 1970-01-01T00:00:00Z. -/
  seconds : Int
  /-- Nanoseconds on top; one thousand million and more within a leap second. -/
  nanos : Nat
  deriving DecidableEq

namespace Timestamp

/-- The time that many nanoseconds after the beginning of 1970. -/
def ofNanoseconds (n : Nat) : Timestamp := ⟨n / 1000000000, n % 1000000000⟩

/-! ### Calendar -/

/-- Days from 1970-01-01 to a date of the Gregorian calendar. Years are counted
from March so that the leap day comes last. -/
def daysFromCivil (year : Int) (month day : Nat) : Int :=
  let y := if month ≤ 2 then year - 1 else year
  let era := y.fdiv 400
  let yearOfEra := y - era * 400
  let monthFromMarch := (month + 9) % 12
  let dayOfYear : Int := (153 * monthFromMarch + 2) / 5 + day - 1
  let dayOfEra := yearOfEra * 365 + yearOfEra.fdiv 4 - yearOfEra.fdiv 100 + dayOfYear
  era * 146097 + dayOfEra - 719468

/-- Year, month and day of a day counted from 1970-01-01. -/
def civilFromDays (days : Int) : Int × Nat × Nat :=
  let z := days + 719468
  let era := z.fdiv 146097
  let dayOfEra := (z - era * 146097).toNat
  let yearOfEra := (dayOfEra - dayOfEra / 1460 + dayOfEra / 36524 - dayOfEra / 146096) / 365
  let dayOfYear := dayOfEra - (365 * yearOfEra + yearOfEra / 4 - yearOfEra / 100)
  let monthFromMarch := (5 * dayOfYear + 2) / 153
  let day := dayOfYear - (153 * monthFromMarch + 2) / 5 + 1
  let month := if monthFromMarch < 10 then monthFromMarch + 3 else monthFromMarch - 9
  let year : Int := yearOfEra + era * 400
  (if month ≤ 2 then year + 1 else year, month, day)

/-- Is this a leap year of the Gregorian calendar. -/
def isLeapYear (year : Int) : Bool :=
  year.fmod 4 == 0 && (year.fmod 100 != 0 || year.fmod 400 == 0)

/-- The number of days of a month. -/
def daysInMonth (year : Int) (month : Nat) : Nat :=
  if month = 2 then (if isLeapYear year then 29 else 28)
  else if month = 4 ∨ month = 6 ∨ month = 9 ∨ month = 11 then 30 else 31

/-! ### Writing -/

/-- A number in exactly `width` digits, the leading ones cut off. -/
def digits (width n : Nat) : String :=
  String.ofList ((List.range width).map fun i =>
    Char.ofNat (48 + n / Nat.pow 10 (width - 1 - i) % 10))

/-- A year: four digits, or a sign and at least four digits outside 0 to 9999. -/
def writtenYear (year : Int) : String :=
  if 0 ≤ year ∧ year ≤ 9999 then digits 4 year.toNat
  else
    let n := year.natAbs
    let sign := if year < 0 then "-" else "+"
    sign ++ (if n < 10000 then digits 4 n else toString n)

/-- A fraction of a second in as many groups of three digits as it needs. -/
def writtenFraction (nanos : Nat) : String :=
  if nanos = 0 then ""
  else if nanos % 1000000 = 0 then "." ++ digits 3 (nanos / 1000000)
  else if nanos % 1000 = 0 then "." ++ digits 6 (nanos / 1000)
  else "." ++ digits 9 nanos

/-- The time in the form of RFC 3339, in UTC. A leap second is second 60. -/
def written (t : Timestamp) : String :=
  let days := t.seconds.fdiv 86400
  let second := (t.seconds - days * 86400).toNat
  let (year, month, day) := civilFromDays days
  let (leap, nanos) := if 1000000000 ≤ t.nanos then (1, t.nanos - 1000000000) else (0, t.nanos)
  writtenYear year ++ "-" ++ digits 2 month ++ "-" ++ digits 2 day ++ "T"
    ++ digits 2 (second / 3600) ++ ":" ++ digits 2 (second / 60 % 60) ++ ":"
    ++ digits 2 (second % 60 + leap) ++ writtenFraction nanos ++ "Z"

/-! ### Reading -/

/-- The number of up to `width` digits at the beginning of a text. -/
def number? (width : Nat) (s : List Char) : Option (Nat × List Char) :=
  let ds := (s.take width).takeWhile Char.isDigit
  if ds.isEmpty then none
  else some (ds.foldl (fun n c => n * 10 + (c.toNat - 48)) 0, s.drop ds.length)

/-- The text without the blanks at its beginning. -/
def skip (s : List Char) : List Char := s.dropWhile Text.isBlank

/-- A number after optional blanks. -/
def field? (width : Nat) (s : List Char) : Option (Nat × List Char) :=
  number? width (skip s)

/-- A year after optional blanks. Only a signed year may have more than four
digits. -/
def year? (s : List Char) : Option (Int × List Char) :=
  match skip s with
  | '-' :: s => (number? s.length s).map fun (n, rest) => (-(n : Int), rest)
  | '+' :: s => (number? s.length s).map fun (n, rest) => ((n : Int), rest)
  | s => (number? 4 s).map fun (n, rest) => ((n : Int), rest)

/-- A fixed character after optional blanks. -/
def mark? (c : Char) (s : List Char) : Option (List Char) :=
  match skip s with
  | d :: rest => if d = c then some rest else none
  | [] => none

/-- A fraction of a second in nanoseconds, if there is one. Digits after the
ninth are passed over. -/
def fraction? (s : List Char) : Option (Nat × List Char) :=
  match s with
  | '.' :: s =>
    (number? 9 s).map fun (n, rest) =>
      (n * Nat.pow 10 (9 - (s.length - rest.length)), rest.dropWhile Char.isDigit)
  | _ => some (0, s)

/-- Hours and minutes of an offset in minutes, with colons or blanks between. -/
def offsetMinutes? (s : List Char) : Option (Nat × List Char) := do
  let (hours, s₁) ← number? 2 s
  if s.length - s₁.length ≠ 2 then none
  let s₂ := s₁.dropWhile fun c => c == ':' || Text.isBlank c
  let (minutes, s₃) ← number? 2 s₂
  if s₂.length - s₃.length ≠ 2 || 60 ≤ minutes then none
  return (hours * 60 + minutes, s₃)

/-- An offset from UTC in minutes: `Z`, `UTC`, or a sign with hours and minutes. -/
def offset? (s : List Char) : Option (Int × List Char) :=
  match s with
  | 'Z' :: rest => some (0, rest)
  | 'z' :: rest => some (0, rest)
  | '+' :: rest => (offsetMinutes? rest).map fun (m, rest) => ((m : Int), rest)
  | '-' :: rest => (offsetMinutes? rest).map fun (m, rest) => (-(m : Int), rest)
  | '\u2212' :: rest => (offsetMinutes? rest).map fun (m, rest) => (-(m : Int), rest)
  | u :: t :: c :: rest =>
    if [u, t, c].map Char.toUpper = ['U', 'T', 'C'] then some (0, rest) else none
  | _ => none

/-- The years a date may have. -/
def isYear (year : Int) : Bool := -262143 ≤ year && year ≤ 262142

/-- A date and a time of day, as read. -/
def ofFields? (year : Int) (month day hour minute second nanos : Nat) (offset : Int) :
    Option Timestamp :=
  if month = 0 || 12 < month || day = 0 || daysInMonth year month < day || 23 < hour
      || 59 < minute || 60 < second || !isYear year || 1440 ≤ offset.natAbs then none
  else
    let (second, nanos) := if second = 60 then (59, nanos + 1000000000) else (second, nanos)
    let seconds := daysFromCivil year month day * 86400
      + (hour * 3600 + minute * 60 + second : Nat) - offset * 60
    if isYear (civilFromDays (seconds.fdiv 86400)).1 then some ⟨seconds, nanos⟩ else none

/-- The time a text writes. -/
def read (text : String) : Option Timestamp := do
  let (year, s) ← year? text.toList
  let s ← mark? '-' s
  let (month, s) ← field? 2 s
  let s ← mark? '-' s
  let (day, s) ← field? 2 s
  -- Between date and time stands a letter of either case or a blank.
  let s ← match s with
    | 'T' :: s => some s
    | 't' :: s => some s
    | ' ' :: s => some s
    | _ => none
  let (hour, s) ← field? 2 s
  let s ← mark? ':' s
  let (minute, s) ← field? 2 s
  let s ← mark? ':' s
  let (second, s) ← field? 2 s
  let (nanos, s) ← fraction? s
  -- Blanks may stand before the offset and behind it.
  let (offset, s) ← offset? (skip s)
  if (skip s).isEmpty then ofFields? year month day hour minute second nanos offset else none

end Timestamp

end InstallMatrix
