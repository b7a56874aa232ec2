import InstallMatrix.Data.Toml.Document
import InstallMatrix.Data.Toml.Number
import InstallMatrix.Data.Toml.Text

/-!
# `InstallMatrix.Data.Toml.Reader`: TOML documents as data

Reads keys, values and headers and hands the sections to `assemble`. Values may be
nested as deep as `depthLimit`. The readers of nested values spend one unit of
fuel per item; `read` supplies more than the document has characters.

Definitions: `path?`, `value?`, `sections?`, `read`.
-/

set_option autoImplicit false

namespace InstallMatrix.Toml

/-! ### Keys -/

/-- May this character stand in a key without quotes. -/
def isBare (c : Char) : Bool := c.isAlphanum || c == '_' || c == '-'

/-- One part of a key. -/
def keyPart? (s : List Char) : Option (String × List Char) :=
  match s with
  | '"' :: s => (doubleQuoted (s.length + 1) s).map fun (cs, rest) => (String.ofList cs, rest)
  | '\'' :: s => (singleQuoted s).map fun (cs, rest) => (String.ofList cs, rest)
  | s =>
    let bare := s.takeWhile isBare
    if bare.isEmpty then none else some (String.ofList bare, s.dropWhile isBare)

/-- The parts of a key with dots between them: all but the last, and the last.
Blanks around it belong to the key. -/
def path? : Nat → List Char → Option (List String × String × List Char)
  | 0, _ => none
  | fuel + 1, s => do
    let (part, s) ← keyPart? (skipBlanks s)
    match skipBlanks s with
    | '.' :: s =>
      let (path, key, s) ← path? fuel s
      return (part :: path, key, s)
    | s => return ([], part, s)

/-- More nested values and more parts of a key than this are refused. -/
def depthLimit : Nat := 79

/-- A key of at most as many parts as values may be nested. -/
def key? (s : List Char) : Option (List String × String × List Char) := path? depthLimit s

/-! ### Values -/

mutual

/-- A value that may hold values nested `depth` deep. -/
def value? (depth : Nat) : Nat → List Char → Option (Data × List Char)
  | 0, _ => none
  | fuel + 1, s =>
    match s with
    | '"' :: _ => (text? s).map fun (t, rest) => (.text t, rest)
    | '\'' :: _ => (text? s).map fun (t, rest) => (.text t, rest)
    | 't' :: 'r' :: 'u' :: 'e' :: s => some (.bool true, s)
    | 'f' :: 'a' :: 'l' :: 's' :: 'e' :: s => some (.bool false, s)
    | '[' :: s =>
      if depth = 0 then none
      else (items? (depth - 1) fuel s).map fun (ds, rest) => (.list ds, rest)
    | '\x7b' :: s =>
      if depth = 0 then none
      else
        match skipBlanks s with
        | '\x7d' :: s => some (.record [], s)
        | s => do
          let (entries, rest) ← entries? (depth - 1) fuel s
          let fields ← addEntries [] entries
          return (.record (fieldsData fields), rest)
    | s => number? s

/-- The items of a list up to and with its closing bracket. -/
def items? (depth : Nat) : Nat → List Char → Option (List Data × List Char)
  | 0, _ => none
  | fuel + 1, s =>
    match skipLines s.length s with
    | ']' :: s => some ([], s)
    | s => do
      let (d, s) ← value? depth fuel s
      match skipLines s.length s with
      | ',' :: s => (items? depth fuel s).map fun (ds, rest) => (d :: ds, rest)
      | ']' :: s => return ([d], s)
      | _ => none

/-- The entries of a table in braces up to and with the closing brace. -/
def entries? (depth : Nat) : Nat → List Char → Option (List Entry × List Char)
  | 0, _ => none
  | fuel + 1, s => do
    let (path, key, s) ← key? s
    match s with
    | '=' :: s =>
      let (d, s) ← value? depth fuel (skipBlanks s)
      match skipBlanks s with
      | ',' :: s => (entries? depth fuel s).map fun (es, rest) => (⟨path, key, d⟩ :: es, rest)
      | '\x7d' :: s => return ([⟨path, key, d⟩], s)
      | _ => none
    | _ => none

end

/-! ### Lines -/

/-- One line of a document that is not blank. -/
inductive Line
  | header (h : Header)
  | entry (e : Entry)

/-- The line at the beginning of the document. -/
def line? (s : List Char) : Option (Line × List Char) :=
  match s with
  | '[' :: '[' :: s => do
    let (path, key, s) ← key? s
    match s with
    | ']' :: ']' :: s => return (.header (.row path key), s)
    | _ => none
  | '[' :: s => do
    let (path, key, s) ← key? s
    match s with
    | ']' :: s => return (.header (.table path key), s)
    | _ => none
  | s => do
    let (path, key, s) ← key? s
    match s with
    | '=' :: s =>
      let (d, s) ← value? depthLimit (s.length + 1) (skipBlanks s)
      return (.entry ⟨path, key, d⟩, s)
    | _ => none

/-- The lines of a document. -/
def lines? : Nat → List Char → Option (List Line)
  | 0, _ => none
  | fuel + 1, s =>
    match skipLines s.length s with
    | [] => some []
    | s => do
      let (l, s) ← line? s
      let s ← lineEnd? s
      (lines? fuel s).map (l :: ·)

/-- Lines grouped into sections, `header` and `entries` being those of the current
one, the entries in reverse. -/
def sectionsFrom (header : Header) (entries : List Entry) : List Line → List Section
  | [] => [⟨header, entries.reverse⟩]
  | .header h :: rest => ⟨header, entries.reverse⟩ :: sectionsFrom h [] rest
  | .entry e :: rest => sectionsFrom header (e :: entries) rest

/-- The data a TOML document writes. A byte order mark at its beginning is passed
over. -/
def read (s : String) : Option Data := do
  let s := match s.toList with
    | '\uFEFF' :: s => s
    | s => s
  assemble (sectionsFrom .root [] (← lines? (s.length + 1) s))

end InstallMatrix.Toml
