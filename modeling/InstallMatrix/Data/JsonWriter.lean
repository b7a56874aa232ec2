import InstallMatrix.Data.Basic
import InstallMatrix.Text.Basic

/-!
# `InstallMatrix.Data.JsonWriter`: data as JSON text

Two layouts: `compact` on one line without blanks, `pretty` with every item and
field on a line of its own, indented by two blanks per level. Texts are quoted
with the short escapes JSON has; other control characters become `\u00XX`, all
further characters stand for themselves.
-/

set_option autoImplicit false

namespace InstallMatrix.Json

/-- The characters written for one character of a text. -/
def escape (c : Char) : List Char :=
  if c = '"' then ['\\', '"']
  else if c = '\\' then ['\\', '\\']
  else if c = '\n' then ['\\', 'n']
  else if c = '\r' then ['\\', 'r']
  else if c = '\t' then ['\\', 't']
  else if c = '\x08' then ['\\', 'b']
  else if c = '\x0c' then ['\\', 'f']
  else if c.toNat < 0x20 then
    ['\\', 'u', '0', '0', Text.hexDigit (c.toNat / 16), Text.hexDigit (c.toNat % 16)]
  else [c]

/-- A text between double quotes. -/
def quoted (s : String) : String :=
  "\"" ++ String.ofList (s.toList.flatMap escape) ++ "\""

/-- A whole number in decimal digits. -/
def numeral : Int → String
  | .ofNat n => toString n
  | .negSucc n => "-" ++ toString (n + 1)

mutual

/-- JSON without blanks. -/
def compact : Data → String
  | .null => "null"
  | .bool true => "true"
  | .bool false => "false"
  | .int n => numeral n
  | .decimal d => d
  | .text s => quoted s
  | .list items => "[" ++ Text.joined "," (compactItems items) ++ "]"
  | .record fields => "\x7b" ++ Text.joined "," (compactFields fields) ++ "\x7d"

/-- The items of a list, each without blanks. -/
def compactItems : List Data → List String
  | [] => []
  | item :: rest => compact item :: compactItems rest

/-- The fields of a record, each without blanks. -/
def compactFields : List (String × Data) → List String
  | [] => []
  | (name, value) :: rest => (quoted name ++ ":" ++ compact value) :: compactFields rest

end

/-- The line break before an item at this depth. -/
def newline (depth : Nat) : String :=
  "\n" ++ String.ofList (List.replicate (2 * depth) ' ')

/-- Entries between brackets, each on a line of its own at `depth`. -/
def block (left right : String) (depth : Nat) (entries : List String) : String :=
  if entries.isEmpty then left ++ right
  else
    left ++ newline (depth + 1) ++ Text.joined ("," ++ newline (depth + 1)) entries
      ++ newline depth ++ right

mutual

/-- JSON laid out over lines, `depth` being the level of the enclosing brackets. -/
def prettyAt (depth : Nat) : Data → String
  | .null => "null"
  | .bool true => "true"
  | .bool false => "false"
  | .int n => numeral n
  | .decimal d => d
  | .text s => quoted s
  | .list items => block "[" "]" depth (prettyItems (depth + 1) items)
  | .record fields => block "\x7b" "\x7d" depth (prettyFields (depth + 1) fields)

/-- The items of a list at this depth. -/
def prettyItems (depth : Nat) : List Data → List String
  | [] => []
  | item :: rest => prettyAt depth item :: prettyItems depth rest

/-- The fields of a record at this depth. -/
def prettyFields (depth : Nat) : List (String × Data) → List String
  | [] => []
  | (name, value) :: rest =>
    (quoted name ++ ": " ++ prettyAt depth value) :: prettyFields depth rest

end

/-- JSON laid out over lines. -/
def pretty (d : Data) : String := prettyAt 0 d

end InstallMatrix.Json
