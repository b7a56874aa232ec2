import InstallMatrix.Text.Basic

/-!
# `InstallMatrix.Text.Path`: file paths as text

Joining a directory with a name, and the directory that holds a file. Paths are
kept as they were written: nothing is resolved or made absolute. A path is a text
here; paths that are not valid UTF-8 are left out.
-/

set_option autoImplicit false

namespace InstallMatrix.Path

/-- Does a path begin at the root. -/
def isAbsolute (path : String) : Bool := Text.startsWith path "/"

/-- `name` inside the directory `dir`. An absolute name stands for itself, and
the separator is written only where `dir` does not bring it. -/
def join (dir name : String) : String :=
  if isAbsolute name then name
  else if dir = "" || Text.endsWith dir "/" then dir ++ name
  else dir ++ "/" ++ name

/-- A reversed directory path without separators and `.` components at its end.
A lone `.` stays. -/
def trimmedRev : List Char → List Char
  | '/' :: s => trimmedRev s
  | '.' :: '/' :: s => trimmedRev s
  | s => s

/-- The directory that holds the last component of a path. -/
def parent (path : String) : String :=
  match Text.cutLast? '/' path.toList with
  | none => ""
  | some (dir, _) =>
    match trimmedRev dir.reverse with
    | [] => if isAbsolute path then "/" else ""
    | rev => String.ofList rev.reverse

end InstallMatrix.Path
