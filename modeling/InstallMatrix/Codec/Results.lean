import InstallMatrix.Codec.Matrix
import InstallMatrix.Results.Summary

/-!
# `InstallMatrix.Codec.Results`: results as data

Writers `toData` and readers `ofData?` of cell results, result sets and summaries.
A field without a value is left out of a cell result, except for the exit code of
a step, which is then `null`.
-/

set_option autoImplicit false

namespace InstallMatrix

open Schema

/-! ### Names -/

/-- A verdict as its name. -/
def CellStatus.toData (s : CellStatus) : Data := .text s.name

/-- Reads a verdict's name. -/
def CellStatus.ofData? : Reader CellStatus := word (named CellStatus.all CellStatus.name)

/-- A stage as its name. -/
def Stage.toData (s : Stage) : Data := .text s.name

/-- Reads a stage's name. -/
def Stage.ofData? : Reader Stage := word (named Stage.all Stage.name)

/-- A kind of failure as its name. -/
def FailureKind.toData (k : FailureKind) : Data := .text k.name

/-- Reads the name of a kind of failure. -/
def FailureKind.ofData? : Reader FailureKind := word (named FailureKind.all FailureKind.name)

/-- A time in the form of RFC 3339. -/
def Timestamp.toData (t : Timestamp) : Data := .text t.written

/-- Reads a time. -/
def Timestamp.ofData? : Reader Timestamp := fun how d => (text how d).bind Timestamp.read

/-! ### Results -/

namespace Failure

/-- A failure as its fields. -/
def toData (f : Failure) : Data :=
  .record
    ([ ("kind", f.kind.toData), ("stage", f.stage.toData), ("message", .text f.message) ]
      ++ unlessNone "diagnostics" .text f.diagnostics)

/-- Reads a failure. -/
def ofData? : Reader Failure := fun how d => do
  let fs ← fieldsOf ["kind", "stage", "message", "diagnostics"] how d
  return ⟨← fs.required "kind" FailureKind.ofData?, ← fs.required "stage" Stage.ofData?,
    ← fs.required "message" text, ← fs.optional "diagnostics" text⟩

end Failure

namespace StepRecord

/-- A step as its fields. -/
def toData (s : StepRecord) : Data :=
  .record
    [ ("name", .text s.name),
      ("command", .text s.command),
      ("user", .text s.user),
      ("exit_code", ofOption .int s.exitCode),
      ("stdout", .text s.stdout),
      ("stderr", .text s.stderr),
      ("duration_ms", .nat s.durationMs) ]

/-- Reads a step. -/
def ofData? : Reader StepRecord := fun how d => do
  let fs ← fieldsOf
    ["name", "command", "user", "exit_code", "stdout", "stderr", "duration_ms"] how d
  return {
    name := ← fs.required "name" text
    command := ← fs.required "command" text
    user := ← fs.required "user" text
    exitCode := ← fs.optional "exit_code" int64
    stdout := ← fs.required "stdout" text
    stderr := ← fs.required "stderr" text
    durationMs := ← fs.required "duration_ms" nat64 }

end StepRecord

namespace PhaseRecord

/-- A phase as its fields. -/
def toData (p : PhaseRecord) : Data :=
  .record [("identity", p.identity.toData), ("steps", .list (p.steps.map StepRecord.toData))]

/-- Reads a phase. -/
def ofData? : Reader PhaseRecord := fun how d => do
  let fs ← fieldsOf ["identity", "steps"] how d
  return ⟨← fs.required "identity" Identity.ofData?,
    ← fs.required "steps" (list StepRecord.ofData?)⟩

end PhaseRecord

namespace CellResult

/-- A result as its fields. -/
def toData (r : CellResult) : Data :=
  .record
    ([ ("cell", r.cell.toData),
       ("status", r.status.toData),
       ("started_at", r.startedAt.toData),
       ("duration_ms", .nat r.durationMs) ]
      ++ unlessNone "artifact" .text r.artifact
      ++ unlessNone "image" .text r.image
      ++ unlessNone "container" .text r.container
      ++ [ ("trace", .list (r.trace.map Stage.toData)),
           ("phases", .list (r.phases.map PhaseRecord.toData)) ]
      ++ unlessNone "failure" Failure.toData r.failure
      ++ unlessNone "skip_reason" .text r.skipReason)

/-- Reads a result. -/
def ofData? : Reader CellResult := fun how d => do
  let fs ← fieldsOf
    ["cell", "status", "started_at", "duration_ms", "artifact", "image", "container", "trace",
      "phases", "failure", "skip_reason"] how d
  return {
    cell := ← fs.required "cell" Cell.ofData?
    status := ← fs.required "status" CellStatus.ofData?
    startedAt := ← fs.required "started_at" Timestamp.ofData?
    durationMs := ← fs.required "duration_ms" nat64
    artifact := ← fs.optional "artifact" text
    image := ← fs.optional "image" text
    container := ← fs.optional "container" text
    trace := ← fs.required "trace" (list Stage.ofData?)
    phases := ← fs.required "phases" (list PhaseRecord.ofData?)
    failure := ← fs.optional "failure" Failure.ofData?
    skipReason := ← fs.optional "skip_reason" text }

end CellResult

namespace ResultSet

/-- A result set as its results in recording order. -/
def toData (s : ResultSet) : Data :=
  .record [("results", .list (s.results.map CellResult.toData))]

/-- Reads a result set. -/
def ofData? : Reader ResultSet := fun how d => do
  let fs ← fieldsOf ["results"] how d
  return ⟨← fs.required "results" (list CellResult.ofData?)⟩

end ResultSet

/-! ### Summaries -/

namespace StatusCounts

/-- The fields of counts. -/
def fields (c : StatusCounts) : List (String × Data) :=
  [ ("total", .nat c.total), ("passed", .nat c.passed), ("failed", .nat c.failed),
    ("skipped", .nat c.skipped) ]

/-- Counts as their fields. -/
def toData (c : StatusCounts) : Data := .record c.fields

/-- Reads the four counts of a structure. -/
def ofFields? (fs : Fields) : Option StatusCounts := do
  return ⟨← fs.required "total" nat64, ← fs.required "passed" nat64,
    ← fs.required "failed" nat64, ← fs.required "skipped" nat64⟩

/-- Reads counts. -/
def ofData? : Reader StatusCounts := fun how d => do
  ofFields? (← fieldsOf ["total", "passed", "failed", "skipped"] how d)

end StatusCounts

namespace Summary

/-- A summary as its fields. -/
def toData (s : Summary) : Data :=
  .record
    (s.counts.fields ++ [("per_distribution", ofTable StatusCounts.toData s.perDistribution)])

/-- Reads a summary. -/
def ofData? : Reader Summary := fun how d => do
  let fs ← fieldsOf ["total", "passed", "failed", "skipped", "per_distribution"] how d
  return ⟨← StatusCounts.ofFields? fs,
    ← fs.required "per_distribution" (table StatusCounts.ofData?)⟩

end Summary

end InstallMatrix
