import InstallMatrix.Codec.Results
import InstallMatrix.Report.Duration
import InstallMatrix.Terminal.Printout

/-!
# `InstallMatrix.Report.Basic`: the report on a finished run

A report shows every result in cell order, the failed ones with all that is known
about them, and the counts by distribution. As JSON it is one document with the
summary and the results; the same document is written to results files.

Definitions: `document`, `failureLines`, `printout`, `contents`.
-/

set_option autoImplicit false

namespace InstallMatrix.Report

open Terminal

/-- The report as data. -/
def document (s : ResultSet) : Data :=
  .record
    [ ("summary", s.summarize.toData),
      ("results", .list (s.sorted.map CellResult.toData)) ]

/-- The contents of a results file. -/
def contents (s : ResultSet) : String := Json.pretty (document s)

/-! ### Tables -/

/-- A verdict as the table of results shows it. -/
def statusText : CellStatus → String
  | .pass => "pass"
  | .fail => "FAIL"
  | .skipped => "skipped"

/-- The header of the table of results. -/
def resultHeader : List String :=
  ["Distribution", "Version", "Arch", "Libc", "Identity", "Status", "Duration", "Reason"]

/-- A result as a row of that table. -/
def resultRow (r : CellResult) : List String :=
  [ r.cell.distribution, r.cell.version, r.cell.architecture.name, r.cell.libc.name,
    r.cell.identity.name, statusText r.status, durationText r.durationMs,
    r.reason?.getD "-" ]

/-- The header of the table of counts. -/
def countHeader : List String := ["Distribution", "Total", "Passed", "Failed", "Skipped"]

/-- The counts of one distribution as a row of that table. -/
def countRow (row : String × StatusCounts) : List String :=
  [ row.1, toString row.2.total, toString row.2.passed, toString row.2.failed,
    toString row.2.skipped ]

/-! ### Failures -/

/-- An output below its name; nothing if the output is blank. -/
def outputLines (colour : Bool) (name output : String) : Printout :=
  let output := Text.trimEnd output
  if output = "" then []
  else
    line ("    " ++ painted colour [.dimmed] (name ++ ":"))
      :: (Text.lines output).map fun l => line ("      " ++ l)

/-- A step that did not succeed. -/
def stepLines (colour : Bool) (phase : PhaseRecord) (step : StepRecord) : Printout :=
  let exit := match step.exitCode with
    | some code => toString code
    | none => "not dispatched"
  [ line ("  " ++ painted colour [.blue] "→" ++ " " ++ phase.identity.name ++ " "
      ++ painted colour [.cyan] step.name ++ " (exit " ++ exit ++ ")"),
    line ("    " ++ painted colour [.dimmed] "$" ++ " " ++ painted colour [.dimmed] step.command) ]
    ++ outputLines colour "stdout" step.stdout
    ++ outputLines colour "stderr" step.stderr

/-- A failed result with its failed steps and diagnostics. -/
def failureLines (colour : Bool) (r : CellResult) : Printout :=
  [ line "",
    line (painted colour [.bold, .red] "✗" ++ " " ++ painted colour [.bold] r.cell.label ++ " "
      ++ painted colour [.red] (r.reason?.getD "")) ]
    ++ (r.container.toList.map fun name =>
      line ("  " ++ painted colour [.dimmed] "container:" ++ " " ++ name))
    ++ (r.failedSteps.flatMap fun (phase, step) => stepLines colour phase step)
    ++ ((r.failure.bind Failure.diagnostics).toList.flatMap (outputLines colour "diagnostics"))

/-! ### The whole report -/

/-- The counts in one line. -/
def countLine (c : StatusCounts) : String :=
  toString c.total ++ " cell(s): " ++ toString c.passed ++ " passed, " ++ toString c.failed
    ++ " failed, " ++ toString c.skipped ++ " skipped"

/-- The report with its tables. -/
def tables (colour : Bool) (s : ResultSet) : Printout :=
  let summary := s.summarize
  let failed := s.sorted.filter fun r => r.status = .fail
  heading colour "Results"
    ++ [table colour resultHeader (s.sorted.map resultRow)]
    ++ (if failed.isEmpty then []
      else heading colour "Failures" ++ failed.flatMap (failureLines colour))
    ++ heading colour "Summary"
    ++ [ table colour countHeader (summary.perDistribution.toList.map countRow),
         (if summary.counts.failed = 0 then success else Terminal.complaint) colour
           (countLine summary.counts) ]

/-- The report in a format. -/
def printout (colour : Bool) (format : OutputFormat) (s : ResultSet) : Printout :=
  match format with
  | .json => [json (document s)]
  | .table => tables colour s

end InstallMatrix.Report
