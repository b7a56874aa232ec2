import InstallMatrix.Results.Basic

/-!
# `InstallMatrix.Results.Summary`: counting results

A `ResultSet` collects results in the order in which cells finish. `sorted` puts
them into cell order for reports, `summarize` counts them, and `exitCode` turns
the counts into a verdict on the whole run.
-/

set_option autoImplicit false

namespace InstallMatrix

/-- Results in the order in which they were recorded, which is not the order of the plan. One cell
may have several. -/
structure ResultSet where
  results : List CellResult
  deriving DecidableEq

/-- How many results have which verdict. The total is counted by itself. -/
structure StatusCounts where
  total : Nat
  passed : Nat
  failed : Nat
  skipped : Nat
  deriving DecidableEq

namespace StatusCounts

/-- Nothing counted. This is what a distribution starts from. -/
def zero : StatusCounts := ⟨0, 0, 0, 0⟩

/-- One more result counted. It adds to the total and to one of the verdicts. -/
def add (c : StatusCounts) (s : CellStatus) : StatusCounts where
  total := c.total + 1
  passed := if s = .pass then c.passed + 1 else c.passed
  failed := if s = .fail then c.failed + 1 else c.failed
  skipped := if s = .skipped then c.skipped + 1 else c.skipped

end StatusCounts

/-- The counts of a result set, over all and by distribution. Only distributions with a result
have a row. -/
structure Summary where
  counts : StatusCounts
  perDistribution : Table StatusCounts
  deriving DecidableEq

namespace Summary

/-- The summary of no results. It has no rows, and its exit code is zero. -/
def zero : Summary := ⟨.zero, .empty⟩

/-- One more result counted, in the total and in the row of its distribution. A row that is not
there is begun. -/
def add (s : Summary) (r : CellResult) : Summary where
  counts := s.counts.add r.status
  perDistribution := s.perDistribution.modify r.cell.distribution .zero fun c => c.add r.status

/-- Zero unless something failed. Skipped cells do not count against a run, and neither does a run
without results. -/
def exitCode (s : Summary) : Nat :=
  if s.counts.failed = 0 then 0 else 1

end Summary

namespace ResultSet

/-- No results. A run starts from it. -/
def empty : ResultSet := ⟨[]⟩

/-- Adds a result at the end, also if the cell has one already. -/
def record (s : ResultSet) (r : CellResult) : ResultSet := ⟨s.results ++ [r]⟩

/-- The results in cell order; those of one cell stay as they were recorded. Reports list them so.
-/
def sorted (s : ResultSet) : List CellResult :=
  s.results.mergeSort fun a b => a.cell.le b.cell

/-- The counts of all results, taken one by one. The order of the results does not matter. -/
def summarize (s : ResultSet) : Summary :=
  s.results.foldl Summary.add .zero

/-- The exit code of the whole set, which is that of its summary. -/
def exitCode (s : ResultSet) : Nat := s.summarize.exitCode

end ResultSet

end InstallMatrix
