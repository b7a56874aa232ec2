import InstallMatrix.Data.Basic
import InstallMatrix.Table

/-!
# `InstallMatrix.Data.Schema`: reading typed values out of data

Small readers from `Data` to typed values, to be put together into readers of
whole structures. A structure may be given as a record, whose unknown fields are
passed over, or as a list of its field values in order. `none` means that the
data does not have the shape. A lenient reading, used for configuration files,
takes two more shapes than a strict one: a list for a structure may go on after
the last field, and a name may be a record holding an empty list or record.

Definitions: `Strictness`, `Reader`, the readers of single values, `Fields`,
`fieldsOf`, and the three ways to read a field: `Fields.required`,
`Fields.optional`, `Fields.defaulted`.
-/

set_option autoImplicit false

namespace InstallMatrix.Schema

/-- How closely data must have the shape that is asked for. -/
inductive Strictness
  | strict
  | lenient
  deriving DecidableEq

/-- A partial reading of data as an `α`. -/
abbrev Reader (α : Type) := Strictness → Data → Option α

variable {α : Type}

/-- A text. -/
def text : Reader String := fun _ d => d.text?

/-- A truth value. -/
def bool : Reader Bool := fun _ d => d.bool?

/-- A natural number below a bound. -/
def natBelow (bound : Nat) : Reader Nat := fun _ d => do
  let n ← d.nat?
  if n < bound then some n else none

/-- A natural number of 64 bits. -/
def nat64 : Reader Nat := natBelow (Nat.pow 2 64)

/-- A natural number of 32 bits. -/
def nat32 : Reader Nat := natBelow (Nat.pow 2 32)

/-- A signed number of 64 bits. -/
def int64 : Reader Int := fun _ d => do
  let n ← d.int?
  if Data.fits64 n then some n else none

/-- A list of values of one kind. -/
def list (item : Reader α) : Reader (List α) := fun how d => do
  let items ← d.items?
  items.mapM (item how)

/-- A record used as a table with values of one kind. -/
def table (value : Reader α) : Reader (Table α) := fun how d => do
  let fields ← d.fields?
  let rows ← fields.mapM fun f => (value how f.2).map (Prod.mk f.1)
  return Table.ofList rows

/-- One of finitely many names. A record with the name as its only field and
nothing in it means the same as the name alone: nothing is `null` in a strict
reading, an empty list or record in a lenient one. -/
def word (read : String → Option α) : Reader α
  | _, .text s => read s
  | .strict, .record [(s, .null)] => read s
  | .lenient, .record [(s, .list [])] => read s
  | .lenient, .record [(s, .record [])] => read s
  | _, _ => none

/-- The first value of an enumeration with the name. -/
def named (all : List α) (name : α → String) (s : String) : Option α :=
  all.find? fun a => name a == s

/-- A value that may be absent or `null`. -/
def nullable (value : Reader α) : Reader (Option α)
  | _, .null => some none
  | how, d => (value how d).map some

/-- The field values of a structure by name, and how they are to be read. -/
structure Fields where
  strictness : Strictness
  values : List (String × Data)

/-- The fields of a structure whose field names are given in order. -/
def fieldsOf (names : List String) : Reader Fields
  | how, .record fields => some ⟨how, fields.reverse⟩
  | how, .list items =>
    if how = .lenient || items.length ≤ names.length then some ⟨how, names.zip items⟩ else none
  | _, _ => none

namespace Fields

/-- The value of a field. -/
def get? (fs : Fields) (name : String) : Option Data :=
  (fs.values.find? fun f => f.1 == name).map Prod.snd

/-- A field that must be there. -/
def required (fs : Fields) (name : String) (value : Reader α) : Option α :=
  (fs.get? name).bind (value fs.strictness)

/-- A field that may be absent or `null`. -/
def optional (fs : Fields) (name : String) (value : Reader α) : Option (Option α) :=
  match fs.get? name with
  | none => some none
  | some d => nullable value fs.strictness d

/-- A field with a value used when it is absent. -/
def defaulted (fs : Fields) (name : String) (value : Reader α) (otherwise : α) : Option α :=
  match fs.get? name with
  | none => some otherwise
  | some d => value fs.strictness d

end Fields

/-- The field of a written structure that is left out when there is no value. -/
def unlessNone (name : String) (write : α → Data) : Option α → List (String × Data)
  | none => []
  | some a => [(name, write a)]

/-- A table as a record. -/
def ofTable (write : α → Data) (t : Table α) : Data :=
  .record (t.toList.map fun r => (r.1, write r.2))

/-- The value or `null`. -/
def ofOption (write : α → Data) : Option α → Data
  | none => .null
  | some a => write a

end InstallMatrix.Schema
