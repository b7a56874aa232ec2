import InstallMatrix.Archive.Name
import InstallMatrix.Text.Path

/-!
# `InstallMatrix.Archive.Directory`: finding the archive of a cell

`Directory.resolve` looks through the entries of the artifact directory for the
one archive that fits an architecture and a C library. None and several are
failures of their own, and so is a directory that cannot be read.

Definitions: `Directory`, `Artifact`, `ArtifactError`, `Directory.candidates`,
`Directory.resolve`.
-/

set_option autoImplicit false

namespace InstallMatrix

/-- An entry of a directory, its name already read as text. Octets that are no text have been
replaced in it. -/
structure DirectoryEntry where
  name : String
  isDirectory : Bool
  deriving DecidableEq

/-- The artifact directory as a run sees it. It is listed once, before the first cell. -/
structure Directory where
  path : String
  /-- The entries in no particular order, or why they cannot be read. -/
  listing : Except String (List DirectoryEntry)

/-- An archive chosen for a cell. The file name is also what its result shows. -/
structure Artifact where
  path : String
  fileName : String
  deriving DecidableEq

/-- Why no archive could be chosen. All constructors name the directory that was searched. -/
inductive ArtifactError
  | missing (dir : String) (architecture : Architecture) (libc : Libc)
  | ambiguous (dir : String) (architecture : Architecture) (libc : Libc) (names : List String)
  | unreadable (dir reason : String)
  deriving DecidableEq

/-- The wording of a failed choice. Names of several candidates are listed in order. -/
def ArtifactError.message : ArtifactError → String
  | .missing dir a l => "no archive for " ++ a.name ++ "/" ++ l.name ++ " in " ++ dir
  | .ambiguous dir a l names =>
    toString names.length ++ " archives match " ++ a.name ++ "/" ++ l.name ++ " in " ++ dir
      ++ ": " ++ Text.joined ", " names
  | .unreadable dir reason => "cannot read artifact directory " ++ dir ++ ": " ++ reason

namespace Directory

/-- Is this entry an archive for the pair, and of the given name if one is set.
Only directories are passed over; a link counts as a file. -/
def fits (name? : Option String) (a : Architecture) (l : Libc) (e : DirectoryEntry) : Bool :=
  !e.isDirectory &&
    match ArchiveName.read e.name with
    | some parts =>
      parts.architecture == a && parts.libc == l &&
        (match name? with | some name => parts.name == name | none => true)
    | none => false

/-- The names of the fitting entries, in order. Sorting makes the answer independent of the order
of the listing. -/
def candidates (entries : List DirectoryEntry) (name? : Option String) (a : Architecture)
    (l : Libc) : List String :=
  ((entries.filter (fits name? a l)).map DirectoryEntry.name).mergeSort fun x y => !(y < x)

/-- The one archive for an architecture and a C library. With none, or with several, nothing is
chosen. -/
def resolve (d : Directory) (name? : Option String) (a : Architecture) (l : Libc) :
    Except ArtifactError Artifact :=
  match d.listing with
  | .error reason => .error (.unreadable d.path reason)
  | .ok entries =>
    match candidates entries name? a l with
    | [] => .error (.missing d.path a l)
    | [name] => .ok ⟨Path.join d.path name, name⟩
    | names => .error (.ambiguous d.path a l names)

end Directory

end InstallMatrix
