import InstallMatrix.Archive.Directory
import InstallMatrix.Text.Utf8

/-!
# `InstallMatrix.Command.FileTree`: files and directories kept in memory

A tree is the list of what stands at its places; a place is the list of the names
that lead to it from the root. A path is walked name by name: every name but the
last must be a directory, also where a step back follows. The reasons for
failures are those of the operating system.

Definitions: `FileTree`, `FileTree.walk`, `FileTree.find`, `FileTree.read`,
`FileTree.write`, `FileTree.list`, `FileTree.whyUnstartable`.
-/

set_option autoImplicit false

namespace InstallMatrix

open Text (Octets)

/-- What stands at a place of a tree. -/
inductive FileTree.Entry
  | file (contents : Octets)
  | directory
  /-- A link to an empty directory elsewhere. -/
  | directoryLink
  /-- A link that leads nowhere. -/
  | brokenLink
  /-- A device that is always empty and forgets what is written to it. -/
  | sink
  /-- A socket, and whether an engine answers at it. -/
  | socket (answers : Bool)
  deriving DecidableEq

/-- The names on the way to a place. -/
abbrev FileTree.Place := List Octets

/-- Files and directories. The directories on the way to a place are there without
being listed. -/
structure FileTree where
  entries : List (FileTree.Place × FileTree.Entry)
  deriving DecidableEq

namespace FileTree

/-! ### Reasons -/

/-- Why there is nothing where nothing is. -/
def noEntry : String := "No such file or directory (os error 2)"

/-- Why a socket is not opened as a file. -/
def noDevice : String := "No such device or address (os error 6)"

/-- Why what is no program is not started. -/
def forbidden : String := "Permission denied (os error 13)"

/-- Why a step through a file leads nowhere. -/
def noDirectory : String := "Not a directory (os error 20)"

/-- Why a directory is not read or written. -/
def isDirectory : String := "Is a directory (os error 21)"

/-- Why there is nothing under a name or a path that is too long. -/
def nameTooLong : String := "File name too long (os error 36)"

/-- Why a path cannot hold the character that ends every path. -/
def holdsNul : String := "file name contained an unexpected NUL byte"

/-! ### Places -/

/-- The names of a path, `acc` holding the octets of the current one in reverse. -/
def namesFrom (acc : Octets) : Octets → List Octets
  | [] => if acc.isEmpty then [] else [acc.reverse]
  | b :: rest =>
    if b = 47 then
      if acc.isEmpty then namesFrom [] rest else acc.reverse :: namesFrom [] rest
    else namesFrom (b :: acc) rest

/-- The names of a path. -/
def names (path : Octets) : List Octets := namesFrom [] path

/-- The names of a path that is given as text. -/
def namesOf (path : String) : List Octets := names (Text.Utf8.encode path)

/-- The name that stays where it is. -/
def stay : Octets := [46]

/-- The name that steps back. -/
def back : Octets := [46, 46]

/-- The most octets a name may have. -/
def nameLimit : Nat := 255

/-- The most octets a path may have. -/
def pathLimit : Nat := 4095

/-- The tree with something put at a place, whatever was there. -/
def put (t : FileTree) (place : Place) (e : Entry) : FileTree :=
  ⟨t.entries.filter (fun x => x.1 != place) ++ [(place, e)]⟩

/-- What stands at a place. -/
def lookup (t : FileTree) (place : Place) : Option Entry :=
  match t.entries.find? fun x => x.1 == place with
  | some x => some x.2
  | none =>
    if place.isEmpty || t.entries.any fun x => place.isPrefixOf x.1 then some .directory
    else none

/-- What a link stands for. -/
def followed : Entry → Except String Entry
  | .directoryLink => .ok .directory
  | .brokenLink => .error noEntry
  | e => .ok e

/-- Walks along names from a place where `e` stands. -/
def walk (t : FileTree) (place : Place) (e : Entry) :
    List Octets → Except String (Place × Entry)
  | [] => .ok (place, e)
  | name :: rest =>
    if e ≠ .directory then .error noDirectory
    else if name = stay then t.walk place e rest
    -- At the top the way up stays at the top.
    else if name = back then t.walk place.dropLast .directory rest
    else if nameLimit < name.length then .error nameTooLong
    else
      match t.lookup (place ++ [name]) with
      | none => .error noEntry
      | some e =>
        match followed e with
        | .error reason => .error reason
        | .ok e => t.walk (place ++ [name]) e rest

/-- The place where a path begins, and its names, `here` being the place where
paths begin that are not absolute. -/
def readPath (here : Place) (path : String) : Except String (Place × List Octets) :=
  let octets := Text.Utf8.encode path
  if octets.contains 0 then .error holdsNul
  else if octets.isEmpty then .error noEntry
  else if pathLimit < octets.length then .error nameTooLong
  else .ok (if Path.isAbsolute path then [] else here, names octets)

/-- What a path leads to. A separator at its end asks for a directory. -/
def find (t : FileTree) (here : Place) (path : String) : Except String (Place × Entry) :=
  match readPath here path with
  | .error reason => .error reason
  | .ok (start, names) =>
    match t.walk start .directory names with
    | .error reason => .error reason
    | .ok found =>
      if Text.endsWith path "/" && found.2 ≠ .directory then .error noDirectory
      else .ok found

/-! ### Files -/

/-- The contents of a file. -/
def read (t : FileTree) (here : Place) (path : String) : Except String Octets :=
  match t.find here path with
  | .error reason => .error reason
  | .ok (_, .file contents) => .ok contents
  | .ok (_, .sink) => .ok []
  | .ok (_, .socket _) => .error noDevice
  | .ok _ => .error isDirectory

/-- Why a file cannot be written where something stands. -/
def unwritable? : Entry → Option String
  | .file _ | .sink => none
  | .directory | .directoryLink => some isDirectory
  | .brokenLink => some noEntry
  | .socket _ => some noDevice

/-- The tree with a file written. Its directory must be there. -/
def write (t : FileTree) (here : Place) (path contents : String) :
    Except String Unit × FileTree :=
  match readPath here path with
  | .error reason => (.error reason, t)
  | .ok (start, names) =>
    match t.walk start .directory names.dropLast, names.getLast? with
    | .error reason, _ => (.error reason, t)
    | .ok _, none => (.error isDirectory, t)
    | .ok (dir, e), some name =>
      if e ≠ .directory then (.error noDirectory, t)
      else if name = stay || name = back || Text.endsWith path "/" then (.error isDirectory, t)
      else if nameLimit < name.length then (.error nameTooLong, t)
      else
        let place := dir ++ [name]
        match (t.lookup place).bind unwritable? with
        | some reason => (.error reason, t)
        | none =>
          -- A sink takes what is written and keeps nothing.
          if t.lookup place = some .sink then (.ok (), t)
          else (.ok (), t.put place (.file (Text.Utf8.encode contents)))

/-! ### Directories -/

/-- The name right below a place on the way to another one. -/
def below? (place other : Place) : Option Octets :=
  if place.isPrefixOf other then other[place.length]? else none

/-- The entries below a place. A link counts as what it is, whatever it leads to. -/
def children (t : FileTree) (place : Place) : List DirectoryEntry :=
  ((t.entries.filterMap fun x => below? place x.1).eraseDups).map fun name =>
    ⟨Text.Utf8.decodeLossy name, t.lookup (place ++ [name]) == some .directory⟩

/-- The entries of a directory. -/
def list (t : FileTree) (here : Place) (path : String) : Except String (List DirectoryEntry) :=
  match t.find here path with
  | .error reason => .error reason
  | .ok (place, .directory) => .ok (t.children place)
  | .ok _ => .error noDirectory

/-! ### Programs -/

/-- Why the program with this path cannot be started: nothing in the tree is a
program. A name without a separator is looked for elsewhere and not found. -/
def whyUnstartable (t : FileTree) (here : Place) (program : String) : String :=
  if program.toList.contains '/' then
    match t.find here program with
    | .error reason => reason
    | .ok _ => forbidden
  else if nameLimit < (Text.Utf8.encode program).length then nameTooLong
  else noEntry

/-! ### Every machine -/

/-- What is found on every machine: the usual directories, a list of users, and an
empty device. -/
def usual : FileTree :=
  ⟨(["/bin", "/dev", "/etc", "/home", "/lib", "/opt", "/proc", "/root", "/run", "/sbin", "/srv",
      "/sys", "/tmp", "/usr/bin", "/usr/lib", "/usr/local/bin", "/usr/share",
      "/var/log"].map fun path => (namesOf path, .directory))
    ++ [ (namesOf "/dev/null", .sink),
         (namesOf "/etc/passwd", .file (Text.Utf8.encode "root:x:0:0:root:/root:/bin/sh\n")) ]⟩

end FileTree

end InstallMatrix
