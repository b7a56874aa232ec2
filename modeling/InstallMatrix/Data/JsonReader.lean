import InstallMatrix.Data.Basic
import InstallMatrix.Text.Basic

/-!
# `InstallMatrix.Data.JsonReader`: JSON text as data

A recursive reader over characters. Each function takes what is left of the text
and gives back what it read together with the rest. `value` spends one unit of
fuel per nested value or separator; `read` supplies as much as the text has
characters, which is always enough.
-/

set_option autoImplicit false

namespace InstallMatrix.Json

/-- The text without the blanks JSON allows between tokens. -/
def skipBlanks : List Char → List Char
  | [] => []
  | c :: s => if c = ' ' ∨ c = '\n' ∨ c = '\r' ∨ c = '\t' then skipBlanks s else c :: s

/-- The number written by four hexadecimal digits. -/
def hexUnit? (a b c d : Char) : Option Nat := do
  return Text.ofDigitValues 16
    [← Text.hexValue? a, ← Text.hexValue? b, ← Text.hexValue? c, ← Text.hexValue? d]

/-- The character of a one-letter escape. -/
def shortEscape? (c : Char) : Option Char :=
  if c = '"' ∨ c = '\\' ∨ c = '/' then some c
  else if c = 'n' then some '\n'
  else if c = 'r' then some '\r'
  else if c = 't' then some '\t'
  else if c = 'b' then some '\x08'
  else if c = 'f' then some '\x0c'
  else none

/-- The rest of a quoted text after its opening quote. A unit of a surrogate pair
is read only together with its partner. -/
def quotedRest : List Char → Option (List Char × List Char)
  | [] => none
  | '"' :: s => some ([], s)
  | '\\' :: 'u' :: a :: b :: c :: d :: s =>
    match hexUnit? a b c d with
    | none => none
    | some unit =>
      -- The first half of a surrogate pair. The second has to follow at once.
      if 0xD800 ≤ unit ∧ unit < 0xDC00 then
        match s with
        | '\\' :: 'u' :: e :: f :: g :: h :: s' =>
          match hexUnit? e f g h with
          | some low =>
            if 0xDC00 ≤ low ∧ low < 0xE000 then
              (quotedRest s').map fun (cs, rest) =>
                (Char.ofNat (0x10000 + (unit - 0xD800) * 1024 + (low - 0xDC00)) :: cs, rest)
            else none
          | none => none
        | _ => none
      -- A second half by itself is no character.
      else if 0xDC00 ≤ unit ∧ unit < 0xE000 then none
      else (quotedRest s).map fun (cs, rest) => (Char.ofNat unit :: cs, rest)
  | '\\' :: e :: s =>
    match shortEscape? e with
    | some c => (quotedRest s).map fun (cs, rest) => (c :: cs, rest)
    | none => none
  | c :: s =>
    if c.toNat < 0x20 then none
    else (quotedRest s).map fun (cs, rest) => (c :: cs, rest)

/-- The digits at the beginning of a text, and the rest. -/
def digits (s : List Char) : List Char × List Char :=
  (s.takeWhile Char.isDigit, s.dropWhile Char.isDigit)

/-- The number digits write. -/
def natOfDigits (ds : List Char) : Nat :=
  ds.foldl (fun n c => n * 10 + (c.toNat - 48)) 0

/-- A fraction, if there is one: the point and its digits. -/
def fraction? (s : List Char) : Option (List Char × List Char) :=
  match s with
  | '.' :: s' =>
    let (ds, rest) := digits s'
    if ds.isEmpty then none else some ('.' :: ds, rest)
  | _ => some ([], s)

/-- An exponent, if there is one: its mark, sign and digits. -/
def exponent? (s : List Char) : Option (List Char × List Char) :=
  match s with
  | c :: s' =>
    if c = 'e' ∨ c = 'E' then
      let (sign, s'') :=
        match s' with
        | '+' :: r => (['+'], r)
        | '-' :: r => (['-'], r)
        | _ => ([], s')
      let (ds, rest) := digits s''
      if ds.isEmpty then none else some (c :: sign ++ ds, rest)
    else some ([], s)
  | [] => some ([], s)

/-- The least and the greatest whole number kept as such. -/
def isWhole (n : Int) : Bool :=
  -9223372036854775808 ≤ n && n ≤ 18446744073709551615

/-- A number without its sign. A whole number that needs more than 64 bits, and a
negative zero, are kept as written. -/
def number? (negative : Bool) (s : List Char) : Option (Data × List Char) := do
  let (ds, s₁) := digits s
  -- No number begins with a zero but zero itself.
  if ds.isEmpty || (ds.head? == some '0' && ds.length != 1) then none
  let (fraction, s₂) ← fraction? s₁
  let (exponent, s₃) ← exponent? s₂
  let n : Int := natOfDigits ds
  let signed := if negative then -n else n
  -- An integer zero has no sign, so a negative zero is kept as a decimal.
  if fraction.isEmpty && exponent.isEmpty && isWhole signed && !(negative && n == 0) then
    return (.int signed, s₃)
  else
    let sign := if negative then ['-'] else []
    return (.decimal (String.ofList (sign ++ ds ++ fraction ++ exponent)), s₃)

mutual

/-- One value at the beginning of a text. -/
def value : Nat → List Char → Option (Data × List Char)
  | 0, _ => none
  | fuel + 1, s =>
    match skipBlanks s with
    | 'n' :: 'u' :: 'l' :: 'l' :: s => some (.null, s)
    | 't' :: 'r' :: 'u' :: 'e' :: s => some (.bool true, s)
    | 'f' :: 'a' :: 'l' :: 's' :: 'e' :: s => some (.bool false, s)
    | '"' :: s => (quotedRest s).map fun (cs, rest) => (.text (String.ofList cs), rest)
    | '[' :: s =>
      match skipBlanks s with
      | ']' :: s => some (.list [], s)
      | s => (items fuel s).map fun (vs, rest) => (.list vs, rest)
    | '\x7b' :: s =>
      match skipBlanks s with
      | '\x7d' :: s => some (.record [], s)
      | s => (fields fuel s).map fun (fs, rest) => (.record fs, rest)
    | '-' :: s => number? true s
    | s => number? false s

/-- The items of a list up to and with its closing bracket. -/
def items : Nat → List Char → Option (List Data × List Char)
  | 0, _ => none
  | fuel + 1, s => do
    let (v, s) ← value fuel s
    match skipBlanks s with
    | ',' :: s => (items fuel s).map fun (vs, rest) => (v :: vs, rest)
    | ']' :: s => some ([v], s)
    | _ => none

/-- The fields of a record up to and with its closing brace. -/
def fields : Nat → List Char → Option (List (String × Data) × List Char)
  | 0, _ => none
  | fuel + 1, s =>
    match skipBlanks s with
    | '"' :: s => do
      let (name, s) ← quotedRest s
      match skipBlanks s with
      | ':' :: s =>
        let (v, s) ← value fuel s
        match skipBlanks s with
        | ',' :: s => (fields fuel s).map fun (fs, rest) => ((String.ofList name, v) :: fs, rest)
        | '\x7d' :: s => some ([(String.ofList name, v)], s)
        | _ => none
      | _ => none
    | _ => none

end

/-- The data a JSON text writes. -/
def read (s : String) : Option Data :=
  let cs := s.toList
  match value (cs.length + 1) cs with
  | some (d, rest) => if (skipBlanks rest).isEmpty then some d else none
  | none => none

end InstallMatrix.Json
