import InstallMatrix.Codec.Results
import InstallMatrix.Proofs.Data.Schema
import InstallMatrix.Proofs.Results.Aggregation
import InstallMatrix.Proofs.Timestamp.Written

/-!
# `InstallMatrix.Proofs.Codec.Results`: results are read back from their data

For every type of a result there is a lemma `carries`: its data is plain and is read as the
value it was written for. The lemmas follow the nesting of the types, from names to whole
results and summaries.

What can be written as data is bounded by the machine: `StepRecord.Fits` and `CellResult.Fits`
say that durations are natural numbers and exit codes signed numbers of 64 bits, and that the
time of a result is a `Timestamp.Valid` one. The counts of a summary fit because none is above
the number of results (`ResultSet.within_summarize`).
-/

set_option autoImplicit false

namespace InstallMatrix

open Schema Fields

/-! ### Names -/

/-- An architecture is read back from its name. -/
theorem Architecture.carries (a : Architecture) : Carries toData ofData? a :=
  carries_word name _ (by cases a <;> decide)

/-- A C library is read back from its name. -/
theorem Libc.carries (l : Libc) : Carries toData ofData? l :=
  carries_word name (named all name) (by cases l <;> decide)

/-- An identity is read back from its name. -/
theorem Identity.carries (i : Identity) : Carries toData ofData? i :=
  carries_word name (named all name) (by cases i <;> decide)

/-- The status of a cell is read back from its name. -/
theorem CellStatus.carries (s : CellStatus) : Carries toData ofData? s :=
  carries_word name (named all name) (by cases s <;> decide)

/-- A stage is read back from its name. All of them are told apart, those of a cell that is not
finished included. -/
theorem Stage.carries (s : Stage) : Carries toData ofData? s :=
  carries_word name (named all name) (by cases s <;> decide)

/-- A kind of failure is read back from its name. For the kinds of failed installs the name tells
the identity as well. -/
theorem FailureKind.carries (k : FailureKind) : Carries toData ofData? k :=
  carries_word name (named all name) (by cases k <;> decide)

/-- A time is read back from its text, provided that it is one that can be written. The calendar has
this proved in `read_written`. -/
theorem Timestamp.carries {t : Timestamp} (valid : t.Valid) : Carries toData ofData? t :=
  ⟨.text _, by rw [ofData?, toData, text, Data.text?, Option.bind_some, read_written valid]⟩

/-! ### Results -/

/-- A cell is read back with all five of its coordinates. The three axes are read from their
names. -/
theorem Cell.carries (c : Cell) : Carries toData ofData? c where
  plain := by
    simp [toData, c.architecture.carries.plain, c.libc.carries.plain, c.identity.carries.plain]
  read := by
    simp [toData, ofData?, c.architecture.carries.read, c.libc.carries.read,
      c.identity.carries.read]

/-- A failure is read back with its kind and its message. -/
theorem Failure.carries (f : Failure) : Carries toData ofData? f := by
  have diagnostics : ∀ s ∈ f.diagnostics, Carries .text text s := fun s _ => carries_text s
  constructor
  · simpa [toData, f.kind.carries.plain, f.stage.carries.plain]
      using plain_unlessNone diagnostics "diagnostics"
  · simp [toData, ofData?, f.kind.carries.read, f.stage.carries.read,
      elim_map_nullable f.diagnostics diagnostics (by simp)]

/-- The numbers of a step are of 64 bits: its exit code, if the command came to one, and the time it
took. -/
structure StepRecord.Fits (s : StepRecord) : Prop where
  exitCode : ∀ code ∈ s.exitCode, Data.fits64 code = true
  duration : s.durationMs < Nat.pow 2 64

/-- A step is read back, whether it has an exit code or not. A missing code is written as `null`.
-/
theorem StepRecord.carries {s : StepRecord} (fits : s.Fits) : Carries toData ofData? s := by
  have exitCode : ∀ code ∈ s.exitCode, Carries .int int64 code :=
    fun code mem => carries_int64 (fits.exitCode code mem)
  have duration := carries_nat64 fits.duration
  constructor
  · simp [toData, plain_ofOption exitCode, duration.plain]
  · simp [toData, ofData?, nullable_ofOption s.exitCode exitCode (by simp), duration.read]

/-- A phase is read back with its steps in their order. -/
theorem PhaseRecord.carries {p : PhaseRecord} (fits : ∀ s ∈ p.steps, s.Fits) :
    Carries toData ofData? p := by
  have steps := carries_list fun s mem => StepRecord.carries (fits s mem)
  constructor
  · simp [toData, p.identity.carries.plain, steps.plain]
  · simp [toData, ofData?, p.identity.carries.read, steps.read]

/-- The numbers of a result are of 64 bits, and its time is one that can be written. Nothing is
asked of its texts. -/
structure CellResult.Fits (r : CellResult) : Prop where
  startedAt : r.startedAt.Valid
  duration : r.durationMs < Nat.pow 2 64
  steps : ∀ p ∈ r.phases, ∀ s ∈ p.steps, s.Fits

/-- A result is read back. Of its fields some are left out where there is nothing to say, and these
are read as missing again. -/
theorem CellResult.carries {r : CellResult} (fits : r.Fits) : Carries toData ofData? r := by
  have startedAt := Timestamp.carries fits.startedAt
  have duration := carries_nat64 fits.duration
  have texts (value : Option String) : ∀ s ∈ value, Carries .text text s :=
    fun s _ => carries_text s
  have trace := carries_list fun s (_ : s ∈ r.trace) => s.carries
  have phases := carries_list fun p mem => PhaseRecord.carries (fits.steps p mem)
  have failure : ∀ f ∈ r.failure, Carries Failure.toData Failure.ofData? f := fun f _ => f.carries
  constructor
  · simp only [toData, Json.plain_record_iff, List.forall_mem_append, List.forall_mem_cons,
      and_assoc]
    exact ⟨r.cell.carries.plain, r.status.carries.plain, startedAt.plain, duration.plain,
      List.forall_mem_nil _, plain_unlessNone (texts _) _, plain_unlessNone (texts _) _,
      plain_unlessNone (texts _) _, trace.plain, phases.plain, List.forall_mem_nil _,
      plain_unlessNone failure _, plain_unlessNone (texts _) _⟩
  · -- A field that is left out is read as none.
    have known (value : Option String) := elim_map_nullable value (texts value) (by simp)
    simp [toData, ofData?, r.cell.carries.read, r.status.carries.read, startedAt.read,
      duration.read, trace.read, phases.read, known,
      elim_map_nullable r.failure failure (by simp [Failure.toData])]

/-! ### Summaries -/

/-- No count is above `n`. -/
structure StatusCounts.Within (n : Nat) (c : StatusCounts) : Prop where
  total : c.total ≤ n
  passed : c.passed ≤ n
  failed : c.failed ≤ n
  skipped : c.skipped ≤ n

/-- What is counted in some results is not above their number, because each result is counted once.
-/
theorem StatusCounts.within_of (results : List CellResult) :
    (StatusCounts.of results).Within results.length :=
  ⟨le_rfl, List.countP_le_length, List.countP_le_length, List.countP_le_length⟩

/-- Counts that are not above a number are not above a larger one. -/
theorem StatusCounts.Within.mono {m n : Nat} {c : StatusCounts} (within : c.Within m)
    (le : m ≤ n) : c.Within n :=
  ⟨within.total.trans le, within.passed.trans le, within.failed.trans le, within.skipped.trans le⟩

/-- No count of a summary is above `n`, over all and in each row. -/
structure Summary.Within (n : Nat) (s : Summary) : Prop where
  counts : s.counts.Within n
  rows : ∀ key c, s.perDistribution.get? key = some c → c.Within n

/-- No count is above the number of results. So the counts fit into a report if that number does.
-/
theorem ResultSet.within_summarize (s : ResultSet) : s.summarize.Within s.results.length where
  counts := by
    rw [s.tallies_summarize.counts]
    exact StatusCounts.within_of s.results
  rows := by
    intro key c found
    have row := s.tallies_summarize.rows key
    rw [found, Option.getD_some] at row
    rw [row]
    exact (StatusCounts.within_of _).mono (List.length_filter_le _ _)

namespace StatusCounts

section

variable {n : Nat} {c : StatusCounts} (within : c.Within n) (fits : n < Nat.pow 2 64)

include within fits

/-- Counts are written as plain fields. -/
theorem plain_fields : ∀ f ∈ c.fields, Json.Plain f.2 := by
  have carried {count : Nat} (le : count ≤ n) := (carries_nat64 (Nat.lt_of_le_of_lt le fits)).plain
  simp only [fields, List.forall_mem_cons]
  exact ⟨carried within.total, carried within.passed, carried within.failed,
    carried within.skipped, List.forall_mem_nil _⟩

/-- Counts are read from among other fields. -/
theorem ofFields?_written (others : List (String × Data))
    (apart : ∀ name ∈ c.fields.map Prod.fst, (written others).get? name = none) :
    ofFields? (written (c.fields ++ others)) = some c := by
  have carried {count : Nat} (le : count ≤ n) := (carries_nat64 (Nat.lt_of_le_of_lt le fits)).read
  have total := carried within.total
  have passed := carried within.passed
  have failed := carried within.failed
  have skipped := carried within.skipped
  simp only [fields, List.map_cons, List.forall_mem_cons] at apart
  simp [ofFields?, fields, *]

/-- Counts are read back if none of them is above a number of 64 bits. -/
theorem carries : Carries toData ofData? c where
  plain := .record (plain_fields within fits)
  read := by
    have counts := ofFields?_written within fits [] fun _ _ => rfl
    rw [List.append_nil] at counts
    simp [toData, ofData?, counts]

end

end StatusCounts

/-- A summary is read back with its counts and with the rows for the distributions, each of which
has counts of its own. -/
theorem Summary.carries {n : Nat} {s : Summary} (within : s.Within n) (fits : n < Nat.pow 2 64) :
    Carries toData ofData? s := by
  have rows := carries_table fun row (mem : row ∈ s.perDistribution.rows) =>
    have found := (Table.find_eq_some_iff s.perDistribution.ordered).mpr mem
    StatusCounts.carries (within.rows row.1 row.2 found) fits
  constructor
  · simp only [toData, Json.plain_record_iff, List.forall_mem_append, List.forall_mem_cons]
    exact ⟨StatusCounts.plain_fields within.counts fits, rows.plain, List.forall_mem_nil _⟩
  · have counts := StatusCounts.ofFields?_written within.counts fits
      [("per_distribution", ofTable StatusCounts.toData s.perDistribution)]
      (by simp [StatusCounts.fields])
    simp [toData, ofData?, counts, rows.read]

end InstallMatrix
