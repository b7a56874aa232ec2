import InstallMatrix.Matrix.Axis

/-!
# `InstallMatrix.Archive.Name`: how archives are named

An archive is called `<name>-<architecture>-linux.zip` when it holds a binary for
glibc and `<name>-<architecture>-linux-musl.zip` when it holds one for musl.

Definitions: `ArchiveName`, `ArchiveName.read`, `ArchiveName.written`.
-/

set_option autoImplicit false

namespace InstallMatrix

/-- What an archive's file name says about it. The name itself may have hyphens. -/
structure ArchiveName where
  name : String
  architecture : Architecture
  libc : Libc
  deriving DecidableEq

namespace ArchiveName

/-- The C library named at the end of a stem, and the stem without it. The musl
ending is tried first, as the glibc ending is not one of its endings. -/
def libcOf? (stem : List Char) : Option (Libc × List Char) :=
  match Text.before? Libc.musl.archiveSuffix.toList stem with
  | some rest => some (.musl, rest)
  | none => (Text.before? Libc.glibc.archiveSuffix.toList stem).map (Libc.glibc, ·)

/-- The parts of a file name that follows the naming rule. It is read from its end: the suffix,
the C library, the architecture, and what is left is the name. -/
def read (fileName : String) : Option ArchiveName := do
  let stem ← Text.before? ".zip".toList fileName.toList
  let (libc, rest) ← libcOf? stem
  let (name, word) ← Text.cutLast? '-' rest
  if name.isEmpty then none
  match Architecture.read (String.ofList word) with
  | .ok architecture => some ⟨String.ofList name, architecture, libc⟩
  | .error _ => none

/-- The file name made from the parts, the architecture under its own name. Other spellings of it
are read but not written. -/
def written (a : ArchiveName) : String :=
  a.name ++ "-" ++ a.architecture.name ++ a.libc.archiveSuffix ++ ".zip"

end ArchiveName

end InstallMatrix
