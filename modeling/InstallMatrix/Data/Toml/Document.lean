import InstallMatrix.Data.Basic

/-!
# `InstallMatrix.Data.Toml.Document`: how the lines of a document make tables

A TOML document is a row of sections. Each names the table its entries belong to,
and the entries themselves may reach into tables below by dotted keys. A table
may be described only once: by a header, by dotted keys or as a value in braces.
What may still be added to it is kept in its `TableKind`.

Definitions: `Node`, `Entry`, `Section`, `addEntry`, `Section.addTo`, `assemble`.
-/

set_option autoImplicit false

namespace InstallMatrix.Toml

/-- How a table came to be. -/
inductive TableKind
  /-- By a header of its own: it is complete but for tables of its own below it. -/
  | described
  /-- By the header of a table below it: it may still be described. -/
  | passed
  /-- By dotted keys: only dotted keys add to it. -/
  | dotted
  deriving DecidableEq

/-- What a name in a table stands for. -/
inductive Node
  | value (d : Data)
  | table (kind : TableKind) (fields : List (String × Node))
  /-- A list of tables, each with a header of its own. -/
  | tables (rows : List (List (String × Node)))

/-- The names of a table in the order in which they were given. -/
abbrev TableFields := List (String × Node)

/-- A value with the key it was given by. -/
structure Entry where
  /-- The tables on the way to the entry. -/
  path : List String
  key : String
  value : Data

/-- The table a section describes. -/
inductive Header
  /-- The document itself, before any header. -/
  | root
  | table (path : List String) (key : String)
  /-- One more table of a list. -/
  | row (path : List String) (key : String)

/-- A header with the entries below it. -/
structure Section where
  header : Header
  entries : List Entry

namespace TableFields

/-- What a name stands for. -/
def get? (t : TableFields) (key : String) : Option Node :=
  (t.find? fun f => f.1 == key).map Prod.snd

/-- The table with another meaning of a name, at its place or at the end. -/
def set (t : TableFields) (key : String) (n : Node) : TableFields :=
  if t.any fun f => f.1 == key then t.map fun f => if f.1 == key then (key, n) else f
  else t ++ [(key, n)]

end TableFields

/-- The list with its last item changed; nothing if there is none. -/
def changeLast? {α : Type} (f : α → Option α) : List α → Option (List α)
  | [] => none
  | [a] => (f a).map fun b => [b]
  | a :: rest => (changeLast? f rest).map (a :: ·)

/-- A table with one more entry. The last table on the way must be one that dotted
keys have made, and none of them may have a header of its own. -/
def addEntry (key : String) (value : Data) : List String → TableFields → Option TableFields
  | [], t => if (t.get? key).isSome then none else some (t ++ [(key, .value value)])
  | name :: path, t =>
    match t.get? name with
    | none => (addEntry key value path []).map fun fs => t.set name (.table .dotted fs)
    | some (.value _) => none
    | some (.table kind fs) =>
      -- A table with a header of its own takes no dotted keys. The last table on the path must
      -- have been made by dotted keys.
      if kind = .described ∨ (path.isEmpty ∧ kind ≠ .dotted) then none
      else (addEntry key value path fs).map fun fs => t.set name (.table kind fs)
    | some (.tables rows) =>
      if path.isEmpty then none
      else (changeLast? (addEntry key value path) rows).map fun rows => t.set name (.tables rows)

/-- A table with more entries. -/
def addEntries (t : TableFields) (entries : List Entry) : Option TableFields :=
  entries.foldlM (fun t e => addEntry e.key e.value e.path t) t

/-- A table with the table at the end of a path changed. Tables on the way that
are not there yet come to be; of a list of tables the last one counts. -/
def within (change : TableFields → Option TableFields) :
    List String → TableFields → Option TableFields
  | [], t => change t
  | name :: path, t =>
    match t.get? name with
    | none => (within change path []).map fun fs => t.set name (.table .passed fs)
    | some (.value _) => none
    | some (.table kind fs) =>
      (within change path fs).map fun fs => t.set name (.table kind fs)
    | some (.tables rows) =>
      (changeLast? (within change path) rows).map fun rows => t.set name (.tables rows)

/-- The document with one more section. -/
def Section.addTo (s : Section) (root : TableFields) : Option TableFields :=
  match s.header with
  | .root => addEntries root s.entries
  | .table path key =>
    within (fun t =>
      match t.get? key with
      | none => (addEntries [] s.entries).map fun fs => t.set key (.table .described fs)
      -- A table that was only passed through may still be described, once.
      | some (.table .passed fs) =>
        (addEntries fs s.entries).map fun fs => t.set key (.table .described fs)
      | some _ => none) path root
  | .row path key =>
    within (fun t =>
      match t.get? key with
      | none => (addEntries [] s.entries).map fun fs => t.set key (.tables [fs])
      | some (.tables rows) =>
        (addEntries [] s.entries).map fun fs => t.set key (.tables (rows ++ [fs]))
      | some _ => none) path root

mutual

/-- A node as data. -/
def Node.toData : Node → Data
  | .value d => d
  | .table _ fields => .record (fieldsData fields)
  | .tables rows => .list (rowsData rows)

/-- The fields of a table as data. -/
def fieldsData : List (String × Node) → List (String × Data)
  | [] => []
  | (name, n) :: rest => (name, n.toData) :: fieldsData rest

/-- The tables of a list as data. -/
def rowsData : List (List (String × Node)) → List Data
  | [] => []
  | fields :: rest => .record (fieldsData fields) :: rowsData rest

end

/-- The data that sections make up together. -/
def assemble (sections : List Section) : Option Data :=
  (sections.foldlM (fun root (s : Section) => s.addTo root) []).map fun fields =>
    .record (fieldsData fields)

end InstallMatrix.Toml
