import InstallMatrix.Data.JsonWriter
import InstallMatrix.Terminal.Style
import InstallMatrix.Terminal.Table

/-!
# `InstallMatrix.Terminal.Printout`: what a command prints

Results go to standard output, remarks about them to standard error. A
`Printout` lists what is printed in order, and the helpers here give headings,
tables and remarks their looks.

Definitions: `OutputFormat`, `Stream`, `Printed`, `Printout`, and the lines
`section`, `table`, `success`, `info`, `warning`, `complaint`.
-/

set_option autoImplicit false

namespace InstallMatrix

/-- The form in which results are printed. -/
inductive OutputFormat
  | table
  | json
  deriving DecidableEq

/-- Where a text is printed. -/
inductive Stream
  | results
  | remarks
  deriving DecidableEq

/-- A text printed to a stream. -/
structure Printed where
  stream : Stream
  text : String
  deriving DecidableEq

/-- What is printed, in order. -/
abbrev Printout := List Printed

/-- The text printed to one stream. -/
def Printout.on (stream : Stream) (p : Printout) : String :=
  Text.joined "" ((p.filter fun x => x.stream = stream).map Printed.text)

namespace Terminal

/-- A line of results. -/
def line (s : String) : Printed := ⟨.results, s ++ "\n"⟩

/-- A line of remarks. -/
def remark (s : String) : Printed := ⟨.remarks, s ++ "\n"⟩

/-- A heading after an empty line. -/
def heading (colour : Bool) (title : String) : Printout :=
  [line "", line (painted colour [.bold, .underlined] title)]

/-- A table, or a note that there is nothing to show. -/
def table (colour : Bool) (header : List String) (rows : List (List String)) : Printed :=
  if rows.isEmpty then line ("  " ++ painted colour [.dimmed] "(none)")
  else line (tableText header rows)

/-- Data as indented JSON. -/
def json (d : Data) : Printed := line (Json.pretty d)

/-- The remark that something went well. -/
def success (colour : Bool) (message : String) : Printed :=
  remark (painted colour [.bold, .green] "✓" ++ " " ++ message)

/-- A remark for information. -/
def info (colour : Bool) (message : String) : Printed :=
  remark (painted colour [.blue] "→" ++ " " ++ message)

/-- A warning. -/
def warning (colour : Bool) (message : String) : Printed :=
  remark (painted colour [.bold, .yellow] "!" ++ " " ++ painted colour [.yellow] message)

/-- The remark that something went wrong. -/
def complaint (colour : Bool) (message : String) : Printed :=
  remark (painted colour [.bold, .red] "✗" ++ " " ++ painted colour [.red] message)

end Terminal

end InstallMatrix
