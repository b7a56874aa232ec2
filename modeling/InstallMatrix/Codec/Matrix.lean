import InstallMatrix.Catalog.Basic
import InstallMatrix.Data.Schema

/-!
# `InstallMatrix.Codec.Matrix`: axes, cells and releases as data

Each type has a writer `toData` and a reader `ofData?` that takes back what the
writer makes. Sets of axis values are read in any order and with repetitions, and
come out in matrix order.
-/

set_option autoImplicit false

namespace InstallMatrix

open Schema

/-! ### Axes -/

/-- An architecture as its name. -/
def Architecture.toData (a : Architecture) : Data := .text a.name

/-- Reads the names engines use as well. -/
def Architecture.ofData? : Reader Architecture :=
  word fun s =>
    if s = "amd64" then some .x86_64
    else if s = "arm64" then some .aarch64
    else named Architecture.all Architecture.name s

/-- A C library as its name. -/
def Libc.toData (l : Libc) : Data := .text l.name

/-- Reads a C library's name. -/
def Libc.ofData? : Reader Libc := word (named Libc.all Libc.name)

/-- An identity as its name. -/
def Identity.toData (i : Identity) : Data := .text i.name

/-- Reads an identity's name. -/
def Identity.ofData? : Reader Identity := word (named Identity.all Identity.name)

/-- A choice of identities as its name. -/
def IdentityChoice.toData (i : IdentityChoice) : Data := .text i.name

/-- Reads the name of a choice of identities. -/
def IdentityChoice.ofData? : Reader IdentityChoice :=
  word (named IdentityChoice.all IdentityChoice.name)

/-- A package family as its name. -/
def PackageFamily.toData (f : PackageFamily) : Data := .text f.name

/-- Reads `dnf` as well, which yum distributions have by now. -/
def PackageFamily.ofData? : Reader PackageFamily :=
  word fun s => if s = "dnf" then some .yum else named PackageFamily.all PackageFamily.name s

/-- The values of a set in the order of the axis, each once. -/
def inAxisOrder {α : Type} [DecidableEq α] (all given : List α) : List α :=
  all.filter fun a => a ∈ given

/-! ### Cells -/

namespace Cell

/-- A cell as its five coordinates. -/
def toData (c : Cell) : Data :=
  .record
    [ ("distribution", .text c.distribution),
      ("version", .text c.version),
      ("architecture", c.architecture.toData),
      ("libc", c.libc.toData),
      ("identity", c.identity.toData) ]

/-- Reads a cell. -/
def ofData? : Reader Cell := fun how d => do
  let fs ← fieldsOf ["distribution", "version", "architecture", "libc", "identity"] how d
  return ⟨← fs.required "distribution" text, ← fs.required "version" text,
    ← fs.required "architecture" Architecture.ofData?, ← fs.required "libc" Libc.ofData?,
    ← fs.required "identity" Identity.ofData?⟩

end Cell

/-! ### Releases and filters -/

namespace Release

/-- A release as its fields. -/
def toData (r : Release) : Data :=
  .record
    [ ("name", .text r.name),
      ("version", .text r.version),
      ("architectures", .list (r.architectures.map Architecture.toData)),
      ("libc_variants", .list (r.libcs.map Libc.toData)),
      ("base_image", .text r.baseImage),
      ("package_family", r.packageFamily.toData),
      ("bootstrap_packages", .texts r.bootstrapPackages) ]

/-- Reads a release; the bootstrap packages may be left out. -/
def ofData? : Reader Release := fun how d => do
  let fs ← fieldsOf
    ["name", "version", "architectures", "libc_variants", "base_image", "package_family",
      "bootstrap_packages"] how d
  let architectures ← fs.required "architectures" (list Architecture.ofData?)
  let libcs ← fs.required "libc_variants" (list Libc.ofData?)
  return ⟨← fs.required "name" text, ← fs.required "version" text,
    inAxisOrder Architecture.all architectures, inAxisOrder Libc.all libcs,
    ← fs.required "base_image" text, ← fs.required "package_family" PackageFamily.ofData?,
    ← fs.defaulted "bootstrap_packages" (list text) []⟩

end Release

namespace CellFilter

/-- A filter as its fields. -/
def toData (f : CellFilter) : Data :=
  .record
    [ ("distributions", .texts f.distributions),
      ("versions", .texts f.versions),
      ("architectures", .list (f.architectures.map Architecture.toData)),
      ("libc_variants", .list (f.libcs.map Libc.toData)),
      ("identities", f.identities.toData) ]

/-- Reads a filter; every field may be left out. -/
def ofData? : Reader CellFilter := fun how d => do
  let fs ← fieldsOf
    ["distributions", "versions", "architectures", "libc_variants", "identities"] how d
  return ⟨← fs.defaulted "distributions" (list text) [],
    ← fs.defaulted "versions" (list text) [],
    ← fs.defaulted "architectures" (list Architecture.ofData?) [],
    ← fs.defaulted "libc_variants" (list Libc.ofData?) [],
    ← fs.defaulted "identities" IdentityChoice.ofData? .both⟩

end CellFilter

end InstallMatrix
