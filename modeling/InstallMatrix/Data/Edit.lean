import InstallMatrix.Data.Basic

/-!
# `InstallMatrix.Data.Edit`: data with parts changed

Small changes to data that was written by the library: fields left out, fields,
items and texts changed. Data of another shape stays as it is.

Definitions: `Data.without`, `Data.mapField`, `Data.mapItems`, `Data.mapTexts`.
-/

set_option autoImplicit false

namespace InstallMatrix.Data

/-- A record without some of its fields. -/
def without (names : List String) : Data → Data
  | .record fields => .record (fields.filter fun f => !names.contains f.1)
  | d => d

/-- A record with one of its fields changed. -/
def mapField (name : String) (change : Data → Data) : Data → Data
  | .record fields =>
    .record (fields.map fun f => if f.1 == name then (f.1, change f.2) else f)
  | d => d

/-- A list with every item changed. -/
def mapItems (change : Data → Data) : Data → Data
  | .list items => .list (items.map change)
  | d => d

mutual

/-- The data with every text changed. -/
def mapTexts (change : String → String) : Data → Data
  | .text s => .text (change s)
  | .list items => .list (mapTextsOfItems change items)
  | .record fields => .record (mapTextsOfFields change fields)
  | d => d

/-- The items with every text in them changed. -/
def mapTextsOfItems (change : String → String) : List Data → List Data
  | [] => []
  | d :: rest => mapTexts change d :: mapTextsOfItems change rest

/-- The fields with every text in them changed. -/
def mapTextsOfFields (change : String → String) :
    List (String × Data) → List (String × Data)
  | [] => []
  | (name, d) :: rest => (name, mapTexts change d) :: mapTextsOfFields change rest

end

end InstallMatrix.Data
