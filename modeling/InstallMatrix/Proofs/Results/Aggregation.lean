import InstallMatrix.Proofs.Results.Summary
import Mathlib.Algebra.GroupWithZero.Nat
import Mathlib.Data.List.Induction
import Mathlib.Data.String.Basic

/-!
# `InstallMatrix.Proofs.Results.Aggregation`: what a report says of its results

A summary counts as results are recorded: one count over all, and one for each distribution.
`Summary.Tallies` says what these numbers are in terms of the results alone. One more result
keeps it (`Tallies.add`), so every result set has the summary it should have
(`tallies_summarize`).

`Arranges` says the same of the sorted results. `Cell.le_iff` spells out the order they are in:
a cell comes first by its distribution, then by its version, and so on.

* `exitCode_eq_zero_iff`: the exit code is zero just if no result is a failure.
* `aggregation_exact` puts these together, and adds that the order of recording is no matter.
-/

set_option autoImplicit false

namespace InstallMatrix

/-! ### Tables -/

namespace Table

variable {α : Type}

/-- A key is listed just if something is found under it. -/
theorem mem_keys_iff (t : Table α) (key : String) :
    key ∈ t.keys ↔ ∃ value, t.get? key = some value := by
  simp only [keys, List.mem_map, Prod.exists, exists_and_right, exists_eq_right, get?,
    find_eq_some_iff t.ordered]

/-- No row has a key below all others. -/
theorem find_eq_none_of_lt {rows : List (String × α)} {key : String}
    (below : ∀ row ∈ rows, key < row.1) : find key rows = none := by
  induction rows with
  | nil => rfl
  | cons row rows ih =>
    obtain ⟨k, v⟩ := row
    obtain ⟨first, rest⟩ := List.forall_mem_cons.mp below
    rw [find, if_neg (String.ne_of_lt first), ih rest]

/-- A row that is put in adds its weight, less that of the row it overwrites. Weights are sums of
counts, so this carries a statement about one row over to the whole table. -/
theorem sum_place (weight : α → Nat) {rows : List (String × α)}
    (ordered : rows.Pairwise fun p q => p.1 < q.1) (key : String) (value : α) :
    ((place key value rows).map fun row => weight row.2).sum
        + ((find key rows).map weight).getD 0
      = (rows.map fun row => weight row.2).sum + weight value := by
  induction rows with
  | nil => simp [place, find]
  | cons row rows ih =>
    obtain ⟨k, v⟩ := row
    obtain ⟨first, rest⟩ := List.pairwise_cons.mp ordered
    by_cases same : key = k
    · subst same
      simp only [place, find, if_true, Option.map_some, Option.getD_some, List.map_cons,
        List.sum_cons]
      omega
    · by_cases before : key < k
      · -- The row is new: every later key is greater still.
        have new : find key rows = none :=
          find_eq_none_of_lt fun row mem => String.lt_trans before (first row mem)
        simp only [place, find, same, before, new, if_true, if_false, Option.map_none,
          Option.getD_none, List.map_cons, List.sum_cons]
        omega
      · have onward := ih rest
        simp only [place, find, same, before, if_false, List.map_cons, List.sum_cons]
        omega

/-- A change that makes each value heavier by `n` makes the table heavier by `n`. -/
theorem sum_modify {weight : α → Nat} {init : α} {f : α → α} {n : Nat}
    (none : weight init = 0) (heavier : ∀ a, weight (f a) = weight a + n) (t : Table α)
    (key : String) :
    ((t.modify key init f).rows.map fun row => weight row.2).sum
      = (t.rows.map fun row => weight row.2).sum + n := by
  have old : weight ((t.get? key).getD init) = ((find key t.rows).map weight).getD 0 := by
    rw [get?]
    cases find key t.rows with
    | none => exact none
    | some value => rfl
  have put := sum_place weight t.ordered key (f ((t.get? key).getD init))
  rw [heavier, old] at put
  show ((place key (f ((t.get? key).getD init)) t.rows).map fun row => weight row.2).sum = _
  omega

end Table

/-! ### Counts -/

namespace StatusCounts

/-- The counts of some results, each verdict counted on its own. They are counted anew here, not
one result after the other. -/
def of (results : List CellResult) : StatusCounts where
  total := results.length
  passed := results.countP fun r => r.status = .pass
  failed := results.countP fun r => r.status = .fail
  skipped := results.countP fun r => r.status = .skipped

/-- The counts of some results and one more are those of the others with that one added. -/
theorem of_concat (results : List CellResult) (r : CellResult) :
    of (results ++ [r]) = (of results).add r.status := by
  cases verdict : r.status <;> simp [of, add, verdict, List.countP_append]

/-- Every result has one of the three verdicts, and so the total is the sum of the other counts.
-/
theorem total_of (results : List CellResult) :
    (of results).total = (of results).passed + (of results).failed + (of results).skipped := by
  induction results using List.reverseRecOn with
  | nil => rfl
  | append_singleton results r ih =>
    rw [of_concat]
    cases r.status <;> simp [add, ih] <;> omega

/-- The four counts. A statement about all of them is made once, over this list. -/
def parts : List (StatusCounts → Nat) := [total, passed, failed, skipped]

section

variable {part : StatusCounts → Nat} (mem : part ∈ parts)

include mem

/-- Without results every count is zero. -/
theorem part_zero : part zero = 0 := by
  simp only [parts, List.mem_cons, List.not_mem_nil, or_false] at mem
  rcases mem with rfl | rfl | rfl | rfl <;> rfl

/-- A result adds to each count what it adds to none. -/
theorem part_add (c : StatusCounts) (s : CellStatus) :
    part (c.add s) = part c + part (zero.add s) := by
  simp only [parts, List.mem_cons, List.not_mem_nil, or_false] at mem
  rcases mem with rfl | rfl | rfl | rfl <;> cases s <;> rfl

end

end StatusCounts

/-! ### Summaries -/

/-- The summary says of these results what is to be said: how many there are of each verdict,
over all and for each distribution, and the distributions are just those that occur. -/
structure Summary.Tallies (s : Summary) (results : List CellResult) : Prop where
  counts : s.counts = .of results
  keys : ∀ d, d ∈ s.perDistribution.keys ↔ ∃ r ∈ results, r.cell.distribution = d
  rows : ∀ d, (s.perDistribution.get? d).getD .zero
    = .of (results.filter fun r => r.cell.distribution = d)
  sums : ∀ part ∈ StatusCounts.parts,
    (s.perDistribution.rows.map fun row => part row.2).sum = part s.counts

namespace Summary

variable {s : Summary} {results : List CellResult}

/-- An empty result set is summarized by empty tables. -/
theorem tallies_zero : zero.Tallies [] where
  counts := rfl
  keys := by simp [zero, Table.empty, Table.keys]
  rows := fun _ => rfl
  sums := fun _ mem => (StatusCounts.part_zero mem).symm

/-- One more result is counted over all and in the row of its distribution. -/
theorem Tallies.add (h : s.Tallies results) (r : CellResult) :
    (s.add r).Tallies (results ++ [r]) where
  counts := by rw [StatusCounts.of_concat, ← h.counts]; rfl
  keys := by
    intro d
    have known := h.keys d
    rw [Table.mem_keys_iff] at known ⊢
    simp only [Summary.add, Table.get?_modify, List.mem_append, List.mem_singleton, or_and_right,
      exists_or, exists_eq_left]
    -- Only the row of the new result's distribution changes.
    by_cases own : d = r.cell.distribution
    · simp [own]
    · rw [if_neg own, known, or_iff_left (Ne.symm own)]
  rows := by
    intro d
    rw [List.filter_append, Summary.add, Table.get?_modify]
    by_cases own : d = r.cell.distribution
    · subst own
      rw [if_pos rfl, Option.getD_some, h.rows, List.filter_cons_of_pos (by simp),
        List.filter_nil, StatusCounts.of_concat]
    · rw [if_neg own, h.rows, List.filter_cons_of_neg (by simpa using Ne.symm own),
        List.filter_nil, List.append_nil]
  sums := by
    intro part mem
    have row := Table.sum_modify (StatusCounts.part_zero mem)
      (fun c => StatusCounts.part_add mem c r.status) s.perDistribution r.cell.distribution
    rw [Summary.add, row, h.sums part mem, ← StatusCounts.part_add mem]

end Summary

namespace ResultSet

/-- Every result set is summarized as it should be. The induction is on the results from the end,
as the summary counts them one after the other. -/
theorem tallies_summarize (s : ResultSet) : s.summarize.Tallies s.results := by
  obtain ⟨results⟩ := s
  induction results using List.reverseRecOn with
  | nil => exact Summary.tallies_zero
  | append_singleton results r ih =>
    have step : summarize ⟨results ++ [r]⟩ = (summarize ⟨results⟩).add r := by
      rw [summarize, List.foldl_append]
      rfl
    rw [step]
    exact ih.add r

/-- The exit code is one just if some result is a failure, and zero otherwise. -/
theorem exitCode_eq (s : ResultSet) :
    s.exitCode = if ∃ r ∈ s.results, r.status = .fail then 1 else 0 := by
  have none : s.summarize.counts.failed = 0 ↔ ¬ ∃ r ∈ s.results, r.status = .fail := by
    rw [s.tallies_summarize.counts]
    simp [StatusCounts.of]
  rw [exitCode, Summary.exitCode]
  by_cases failed : ∃ r ∈ s.results, r.status = .fail
  · rw [if_neg (fun zero => none.mp zero failed), if_pos failed]
  · rw [if_pos (none.mpr failed), if_neg failed]

/-- The exit code is zero just if no result is a failure. -/
theorem exitCode_eq_zero_iff (s : ResultSet) :
    s.exitCode = 0 ↔ ∀ r ∈ s.results, r.status ≠ .fail := by
  rw [exitCode_eq]
  split
  · next failed => simpa using failed
  · next none => simpa using none

/-- There are two exit codes only. -/
theorem exitCode_eq_one_of_ne_zero {s : ResultSet} (h : s.exitCode ≠ 0) : s.exitCode = 1 := by
  rw [exitCode_eq] at h ⊢
  split at h
  · next failed => rw [if_pos failed]
  · exact absurd rfl h

end ResultSet

/-! ### The order of cells -/

namespace Cell

/-- One cell stands before another: it comes first by the earliest of the five coordinates in
which they differ. -/
def Precedes (a b : Cell) : Prop :=
  a.distribution < b.distribution ∨ a.distribution = b.distribution ∧
    (a.version < b.version ∨ a.version = b.version ∧
      (a.architecture.rank < b.architecture.rank ∨ a.architecture = b.architecture ∧
        (a.libc.rank < b.libc.rank ∨ a.libc = b.libc ∧ a.identity.rank < b.identity.rank)))

/-- The order of cells is the one by release and axes. -/
theorem order_eq_lt_iff {a b : Cell} : order a b = .lt ↔ a.Precedes b := by
  simp only [order, compareLex, compareOn, Ordering.then_eq_lt, compare_lt_iff_lt,
    compare_eq_iff_eq, Architecture.rank_inj, Libc.rank_inj, Precedes]

/-- A cell comes no later than another one just if it is the same or comes before it. -/
theorem le_iff {a b : Cell} : a.le b = true ↔ a = b ∨ a.Precedes b := by
  rw [← order_eq_lt_iff, le]
  cases place : order a b with
  | lt => simp
  | eq => simp [eq_of_order_eq place]
  | gt =>
    have other : a ≠ b := by
      rintro rfl
      have back := order_swap a a
      rw [place] at back
      cases back
    simp [other]

end Cell

/-! ### Sorted results -/

/-- These are the results in cell order, and those of one cell are in the order in which they
were recorded. -/
structure Arranges (sorted results : List CellResult) : Prop where
  perm : sorted.Perm results
  ordered : sorted.Pairwise fun a b => a.cell = b.cell ∨ a.cell.Precedes b.cell
  stable : ∀ cell, sorted.filter (fun r => r.cell = cell) = results.filter fun r => r.cell = cell

/-- Sorting keeps the order of all that stand at one place. This is what makes a report of several
results for one cell come out the same every time. -/
theorem filter_mergeSort {α : Type} {le : α → α → Bool} {p : α → Bool}
    (trans : ∀ a b c, le a b → le b c → le a c) (total : ∀ a b, le a b || le b a)
    (level : ∀ a b, p a → p b → le a b) (l : List α) :
    (l.mergeSort le).filter p = l.filter p := by
  have ordered : (l.filter p).Pairwise fun a b => le a b :=
    List.pairwise_of_forall_mem_list fun a memA b memB =>
      level a b (List.of_mem_filter memA) (List.of_mem_filter memB)
  -- What is in order already is found in the sorted list as it is, and nothing is missing there.
  have kept := (List.sublist_mergeSort trans total ordered List.filter_sublist).filter p
  simp only [List.filter_filter, Bool.and_self] at kept
  have count := ((List.mergeSort_perm l le).filter p).length_eq
  exact (kept.eq_of_length count.symm).symm

namespace ResultSet

/-- Sorted results are arranged as they should be: none is lost, they are in order, and those of
one cell stay in the order in which they were recorded. -/
theorem arranges_sorted (s : ResultSet) : Arranges s.sorted s.results where
  perm := List.mergeSort_perm _ _
  ordered := s.pairwise_sorted.imp fun le => Cell.le_iff.mp le
  stable := by
    intro cell
    have trans (a b c : CellResult) (ab : a.cell.le b.cell) (bc : b.cell.le c.cell) :
        a.cell.le c.cell := Cell.le_trans ab bc
    have total (a b : CellResult) : a.cell.le b.cell || b.cell.le a.cell :=
      Cell.le_total a.cell b.cell
    refine filter_mergeSort trans total ?_ s.results
    intro a b cellA cellB
    have same : a.cell = b.cell := (of_decide_eq_true cellA).trans (of_decide_eq_true cellB).symm
    exact Cell.le_iff.mpr (.inl same)

/-- **A report says what its results say, in whatever order they were recorded.** The counts
are those of the results, over all and for each distribution that occurs, and the latter add up
to the former. The exit code is zero just if nothing failed. The sorted results are the results
in cell order. Recorded in another order, the same results have the same summary and exit code
and, being of distinct cells, are sorted alike. -/
theorem aggregation_exact (s : ResultSet) :
    (s.summarize.Tallies s.results ∧
      s.summarize.counts.total = s.results.length ∧
      s.summarize.counts.total = s.summarize.counts.passed + s.summarize.counts.failed
        + s.summarize.counts.skipped) ∧
    (s.exitCode = 0 ↔ ∀ r ∈ s.results, r.status ≠ .fail) ∧
    Arranges s.sorted s.results ∧
    ∀ others : ResultSet, s.results.Perm others.results →
      s.summarize = others.summarize ∧ s.exitCode = others.exitCode ∧
        ((s.results.map CellResult.cell).Nodup → s.sorted = others.sorted) := by
  have tallies := s.tallies_summarize
  refine ⟨⟨tallies, ?_, ?_⟩, s.exitCode_eq_zero_iff, s.arranges_sorted, ?_⟩
  · rw [tallies.counts]
    rfl
  · rw [tallies.counts]
    exact StatusCounts.total_of s.results
  · intro others perm
    have summary : s.summarize = others.summarize := summarize_eq_of_perm perm
    exact ⟨summary, congrArg Summary.exitCode summary, sorted_eq_of_perm perm⟩

namespace Sample

/-- A result that failed. -/
def failed : CellResult :=
  .failed ⟨"ubuntu", "22.04", .x86_64, .glibc, .user⟩
    ⟨.userInstallError, .userPhase, "install exited with 1", none⟩ ⟨0, 0⟩

/-- A result that was skipped, of a cell that comes before the failed one. -/
def skipped : CellResult :=
  .skipped ⟨"alpine", "3.19", .aarch64, .musl, .root⟩ "no archive" ⟨0, 0⟩

end Sample

/-- A failed and a skipped result, recorded in either order. They are counted and sorted alike,
and the exit code is that of the failure. -/
theorem aggregation_exact_of_two_orders :
    [Sample.failed, Sample.skipped].Perm [Sample.skipped, Sample.failed] ∧
      ([Sample.failed, Sample.skipped].map CellResult.cell).Nodup ∧
      summarize ⟨[Sample.failed, Sample.skipped]⟩
        = summarize ⟨[Sample.skipped, Sample.failed]⟩ ∧
      exitCode ⟨[Sample.skipped, Sample.failed]⟩ = 1 ∧
      sorted ⟨[Sample.failed, Sample.skipped]⟩ = sorted ⟨[Sample.skipped, Sample.failed]⟩ := by
  have perm : [Sample.failed, Sample.skipped].Perm [Sample.skipped, Sample.failed] := .swap _ _ _
  have distinct : ([Sample.failed, Sample.skipped].map CellResult.cell).Nodup := by decide
  obtain ⟨-, -, -, alike⟩ := aggregation_exact ⟨[Sample.failed, Sample.skipped]⟩
  obtain ⟨summary, exit, sorted⟩ := alike ⟨[Sample.skipped, Sample.failed]⟩ perm
  exact ⟨perm, distinct, summary, by decide, sorted distinct⟩

end ResultSet

end InstallMatrix
