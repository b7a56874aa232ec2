import InstallMatrix.Codec.Environment
import InstallMatrix.Command.Basic
import InstallMatrix.CommandLine.Basic

/-!
# `InstallMatrix.Command.Inspect`: commands that only look

`list` shows the cells a filter selects, `definition` the environment that is
built for a release. Neither needs an engine, so both are plain functions of the
options and the configuration.

Definitions: `listing`, `definitionShown`.
-/

set_option autoImplicit false

namespace InstallMatrix.Command

open Terminal

/-! ### Cells -/

/-- What is planned for a cell: its label, the plan and a note. -/
def planRow : PlannedCell → String × String × String
  | .run cell => (cell.label, "run", "")
  | .skip cell reason => (cell.label, "skip", reason)

/-- A planned cell as a row of the table. -/
def planCells (p : PlannedCell) : List String :=
  let (label, plan, note) := planRow p
  [label, plan, note]

/-- A planned cell as data. -/
def planData (p : PlannedCell) : Data :=
  let (label, plan, note) := planRow p
  .record [("label", .text label), ("plan", .text plan), ("note", .text note)]

/-- The planned cells in a format. -/
def planned (colour : Bool) (format : OutputFormat) (plan : List PlannedCell) : Printout :=
  match format with
  | .table => heading colour "Cells" ++ [table colour ["Cell", "Plan", "Note"] (plan.map planCells)]
  | .json => [json (.list (plan.map planData))]

/-- How many cells are planned and how many of them would run. -/
def planCount (plan : List PlannedCell) : String :=
  toString plan.length ++ " cell(s) selected, " ++ toString (plan.countP PlannedCell.isRun)
    ++ " would run"

/-- The cells a filter selects. -/
def listing (colour : Bool) (c : Configuration) (o : ListOptions) :
    Except CommandError Printout := do
  let catalog ← c.catalog
  let plan ← (catalog.plan o.filter).mapError .catalog
  return planned colour o.format plan ++ [info colour (planCount plan)]

/-! ### Definitions -/

/-- The definition for a release on an architecture. -/
def definitionFor (c : Configuration) (o : DefinitionOptions) :
    Except CommandError Definition := do
  let catalog ← c.catalog
  match catalog.find? o.distribution o.version with
  | none => .error (.unknownRelease o.distribution o.version)
  | some release =>
    if o.architecture ∈ release.architectures then
      return Environment.recipe c.run.testUser release o.architecture
    else .error (.unsupported release.slug o.architecture)

/-- The contents of a file below a heading. -/
def fileShown (colour : Bool) (f : InjectedFile) : Printout :=
  heading colour (f.path ++ " (mode " ++ Text.octal f.mode ++ ")") ++ [⟨.results, f.contents⟩]

/-- A definition in a format. -/
def definitionShown (colour : Bool) (format : OutputFormat) (d : Definition) : Printout :=
  match format with
  | .table =>
    heading colour (d.imageTag.text ++ " (" ++ d.platform ++ ")")
      ++ [⟨.results, d.render⟩] ++ d.injections.flatMap (fileShown colour)
  | .json =>
    [json (.record [("tag", .text d.imageTag.text), ("containerfile", .text d.render),
      ("definition", d.toData)])]

/-- The environment built for a release. -/
def definition (colour : Bool) (c : Configuration) (o : DefinitionOptions) :
    Except CommandError Printout := do
  return definitionShown colour o.format (← definitionFor c o)

end InstallMatrix.Command
