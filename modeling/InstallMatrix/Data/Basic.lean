/-!
# `InstallMatrix.Data.Basic`: what a document says

A `Data` value is the content of a JSON or TOML document once its notation is
gone: the two readers produce it, the JSON writer and the record decoder consume
it. Whole numbers are kept apart from all other numbers, because a count written
as `2.0` is refused.
-/

set_option autoImplicit false

namespace InstallMatrix

/-- The content of a document. -/
inductive Data
  | null
  | bool (b : Bool)
  /-- A number written without fraction and exponent. -/
  | int (n : Int)
  /-- Any other number, as it was written. -/
  | decimal (numeral : String)
  | text (s : String)
  | list (items : List Data)
  /-- Named fields in the order of the document. -/
  | record (fields : List (String × Data))

namespace Data

/-- Where no value is given there is null. -/
instance : Inhabited Data := ⟨.null⟩

/-- Does a whole number fit into 64 bits, one of them for the sign. -/
def fits64 (n : Int) : Bool := -9223372036854775808 ≤ n && n ≤ 9223372036854775807

/-- A natural number as data. -/
def nat (n : Nat) : Data := .int n

/-- A list of texts as data. -/
def texts (items : List String) : Data := .list (items.map .text)

/-- The value or `null`. -/
def optional (value : Option Data) : Data := value.getD .null

/-- The named field of a record: the last one of that name. -/
def field? (name : String) : Data → Option Data
  | .record fields => (fields.reverse.find? fun f => f.1 == name).map Prod.snd
  | _ => none

/-- The text a value is. -/
def text? : Data → Option String
  | .text s => some s
  | _ => none

/-- The whole number a value is. -/
def int? : Data → Option Int
  | .int n => some n
  | _ => none

/-- The natural number a value is. -/
def nat? : Data → Option Nat
  | .int (.ofNat n) => some n
  | _ => none

/-- The truth value a value is. -/
def bool? : Data → Option Bool
  | .bool b => some b
  | _ => none

/-- The items of a list. -/
def items? : Data → Option (List Data)
  | .list items => some items
  | _ => none

/-- The fields of a record. -/
def fields? : Data → Option (List (String × Data))
  | .record fields => some fields
  | _ => none

end Data

end InstallMatrix
