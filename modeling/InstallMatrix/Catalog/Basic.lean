import InstallMatrix.Catalog.Release
import InstallMatrix.Matrix.Cell

/-!
# `InstallMatrix.Catalog.Basic`: the releases under test

A `Catalog` is a list of releases in which no release occurs twice and every one
supports something. `Catalog.ofList` checks a list, `Catalog.find?` looks a
release up, and `Catalog.plan` spreads the catalog over a filter into planned
cells.

Definitions: `Catalog`, `CatalogError`, `CellFilter`, `PlannedCell`,
`Catalog.ofList`, `Catalog.find?`, `Catalog.plan`.
-/

set_option autoImplicit false

namespace InstallMatrix

/-- A narrowing of the matrix. An empty field lets everything through, and the fields narrow it
together. -/
structure CellFilter where
  distributions : List String
  versions : List String
  architectures : List Architecture
  libcs : List Libc
  identities : IdentityChoice
  deriving DecidableEq

namespace CellFilter

/-- The filter that lets everything through. Planning with it gives what every release supports.
-/
def everything : CellFilter := ⟨[], [], [], [], .both⟩

/-- Does the filter name architectures or C libraries. If so, an unsupported pair is shown as
skipped; otherwise it is left out. -/
def namesPairs (f : CellFilter) : Bool := !f.architectures.isEmpty || !f.libcs.isEmpty

end CellFilter

/-- A cell the catalog came up with, to be run or to be skipped. A skipped cell was asked for by
name and is not supported. -/
inductive PlannedCell
  | run (cell : Cell)
  | skip (cell : Cell) (reason : String)
  deriving DecidableEq

namespace PlannedCell

/-- The cell, whether it is run or not. Both kinds end up with a result. -/
def cell : PlannedCell → Cell
  | .run c => c
  | .skip c _ => c

/-- Is the cell to be run. Only such a cell is given a task. -/
def isRun : PlannedCell → Bool
  | .run _ => true
  | .skip _ _ => false

end PlannedCell

/-- Why a catalog or a filter is refused. A catalog is refused for the first entry that breaks a
rule, a filter if it lets no release through. -/
inductive CatalogError
  | noMatch (filter : CellFilter) (available : List String)
  | duplicate (name version : String)
  | unsupported (slug : String)
  deriving DecidableEq

namespace CatalogError

/-- The part of a filter that chooses releases, as the refusal words it. Architectures and
libraries play no part in it. -/
def describe (f : CellFilter) : String :=
  let distribution :=
    if f.distributions.isEmpty then []
    else ["distribution=" ++ Text.joined "," f.distributions]
  let version := if f.versions.isEmpty then [] else ["version=" ++ Text.joined "," f.versions]
  match distribution ++ version with
  | [] => "(empty catalog)"
  | parts => Text.joined " " parts

/-- The wording of a refusal. If nothing matched, it lists every release there is. -/
def message : CatalogError → String
  | .noMatch filter available =>
    "no distribution matches " ++ describe filter ++ "; available: "
      ++ Text.joined ", " available
  | .duplicate name version => "duplicate catalog entry " ++ name ++ " " ++ version
  | .unsupported slug =>
    "invalid catalog entry: " ++ slug ++ " supports no architecture/libc combination"

end CatalogError

/-- The releases under test, in the order they are reported. The builtin ones come first. -/
structure Catalog where
  releases : List Release

namespace Catalog

/-- Checks releases one by one against those before them. A repetition is
noticed before an empty support set. -/
def check (before : List Release) : List Release → Except CatalogError Unit
  | [] => .ok ()
  | r :: rest =>
    if before.any fun b => b.isCalled r.name r.version then
      .error (.duplicate r.name r.version)
    else if r.architectures.isEmpty || r.libcs.isEmpty then .error (.unsupported r.slug)
    else check (before ++ [r]) rest

/-- The catalog of the given releases, if none is refused. The order is kept. -/
def ofList (releases : List Release) : Except CatalogError Catalog :=
  match check [] releases with
  | .ok () => .ok ⟨releases⟩
  | .error e => .error e

/-- The release with this name, up to the case of ASCII letters, and version. At most one is
called so in an accepted catalog. -/
def find? (c : Catalog) (name version : String) : Option Release :=
  c.releases.find? fun r => r.isCalled name version

/-- Does the filter let a release through. Names are compared without regard to the case of ASCII
letters, versions exactly. -/
def selects (f : CellFilter) (r : Release) : Bool :=
  (f.distributions.isEmpty || f.distributions.any fun d => Text.sameLetters d r.name) &&
    (f.versions.isEmpty || f.versions.contains r.version)

/-- Why a pair is skipped that the release does not support. It names the release and the pair. -/
def skipReason (r : Release) (a : Architecture) (l : Libc) : String :=
  r.slug ++ " does not support " ++ a.name ++ "/" ++ l.name

/-- The cells of one release and pair, one per identity. A pair that is not supported
is left out unless the filter names pairs. -/
def cellsOf (f : CellFilter) (r : Release) (a : Architecture) (l : Libc) : List PlannedCell :=
  if !r.supports a l && !f.namesPairs then []
  else
    f.identities.identities.map fun i =>
      let cell : Cell := ⟨r.name, r.version, a, l, i⟩
      if r.supports a l then .run cell else .skip cell (skipReason r a l)

/-- The architectures a filter asks of a release, in matrix order. If it names none, these are the
ones the release supports. -/
def architecturesOf (f : CellFilter) (r : Release) : List Architecture :=
  Architecture.all.filter fun a =>
    a ∈ (if f.architectures.isEmpty then r.architectures else f.architectures)

/-- The C libraries a filter asks of a release, in matrix order. If it names none, these are the
ones the release supports. -/
def libcsOf (f : CellFilter) (r : Release) : List Libc :=
  Libc.all.filter fun l => l ∈ (if f.libcs.isEmpty then r.libcs else f.libcs)

/-- The cells of one release: by architecture, then by C library, then by identity. -/
def planRelease (f : CellFilter) (r : Release) : List PlannedCell :=
  (architecturesOf f r).flatMap fun a => (libcsOf f r).flatMap fun l => cellsOf f r a l

/-- The cells a filter selects. A pair the release does not support is planned as
skipped when the filter names it. -/
def plan (c : Catalog) (f : CellFilter) : Except CatalogError (List PlannedCell) :=
  match c.releases.filter (selects f) with
  | [] => .error (.noMatch f (c.releases.map Release.slug))
  | selected => .ok (selected.flatMap (planRelease f))

end Catalog

end InstallMatrix
