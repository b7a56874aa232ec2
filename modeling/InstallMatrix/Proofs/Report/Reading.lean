import InstallMatrix.Report.Basic
import InstallMatrix.Proofs.Codec.Results

/-!
# `InstallMatrix.Proofs.Report.Reading`: the JSON report tells the whole result set

`Report.read` reads a report as whoever gets it would: as JSON, then its two fields as a summary
and as results. Its results come back whole and in cell order. The summary was counted in the
order of recording, which is no matter (`summarize_sorted`), so it is the summary of the results
that are read.
-/

set_option autoImplicit false

namespace InstallMatrix

open Schema Fields

/-- Every result fits into its report, and so does their number. The bounds are those of the
number types and of the years that a timestamp can be written with. -/
structure ResultSet.Fits (s : ResultSet) : Prop where
  results : ∀ r ∈ s.results, r.Fits
  length : s.results.length < Nat.pow 2 64

namespace ResultSet

variable {s : ResultSet}

/-- Sorting loses no result and adds none. A report lists what was recorded. -/
theorem sorted_perm (s : ResultSet) : s.sorted.Perm s.results := List.mergeSort_perm _ _

/-- Sorted results are counted as they were before. The summary of a report is that of its
results. -/
theorem summarize_sorted (s : ResultSet) : summarize ⟨s.sorted⟩ = s.summarize :=
  summarize_eq_of_perm s.sorted_perm

end ResultSet

namespace Report

/-- What a report is taken to be: its summary and its results. A report that lacks one of them is
none. -/
def ofData? (document : Data) : Option (Summary × List CellResult) := do
  let fs ← fieldsOf ["summary", "results"] .strict document
  return (← fs.required "summary" Summary.ofData?,
    ← fs.required "results" (list CellResult.ofData?))

/-- Reads the text of a report: as JSON first, and then as a report. Nothing else may stand behind
it. -/
def read (text : String) : Option (Summary × List CellResult) :=
  (Json.read text).bind ofData?

/-- As JSON, the report is printed as it is written to a file, on a line of its own. -/
theorem printout_json (colour : Bool) (s : ResultSet) :
    (printout colour .json s).on .results = contents s ++ "\n" := by
  simp [printout, Terminal.json, Terminal.line, Printout.on, Text.joined, contents]

section

variable {s : ResultSet} (fits : s.Fits)

include fits

/-- The results of a report are read back as they are written, one after the other. -/
theorem carries_results : Carries (fun rs => .list (rs.map CellResult.toData))
    (list CellResult.ofData?) s.sorted :=
  carries_list fun r mem => CellResult.carries (fits.results r (s.sorted_perm.mem_iff.mp mem))

/-- So is the summary, with its four tables. -/
theorem carries_summary : Carries Summary.toData Summary.ofData? s.summarize :=
  Summary.carries s.within_summarize fits.length

/-- A report is made of texts, whole numbers, lists and objects, which JSON can carry. -/
theorem plain_document : Json.Plain (document s) := by
  simp [document, (carries_results fits).plain, (carries_summary fits).plain]

/-- The data of a report is read back as the summary and the sorted results. The order of
recording is not in a report. -/
theorem ofData?_document : ofData? (document s) = some (s.summarize, s.sorted) := by
  simp [document, ofData?, (carries_results fits).read, (carries_summary fits).read]

/-- The report is read back, whatever blanks stand behind it. So a printed report, which ends its
line, is read like one in a file. -/
theorem read_contents_append {t : String} (blank : Json.skipBlanks t.toList = []) :
    read (contents s ++ t) = some (ResultSet.summarize ⟨s.sorted⟩, s.sorted) := by
  rw [read, contents, Json.read_pretty_append (plain_document fits) blank, Option.bind_some,
    ofData?_document fits, s.summarize_sorted]

/-- **The JSON report is faithful.** What is read from a results file, and from the report as
it is printed, are the results in cell order, each as it was recorded, and a summary that
counts just these results. -/
theorem read_report :
    read (contents s) = some (ResultSet.summarize ⟨s.sorted⟩, s.sorted) ∧
    ∀ colour, read ((printout colour .json s).on .results)
      = some (ResultSet.summarize ⟨s.sorted⟩, s.sorted) := by
  constructor
  · have bare := read_contents_append fits (t := "") rfl
    rwa [String.append_empty] at bare
  · intro colour
    rw [printout_json]
    exact read_contents_append fits (by decide)

end

/-- A failed and a skipped result, recorded against cell order. -/
def mixed : ResultSet where
  results :=
    [ { cell := ⟨"ubuntu", "22.04", .x86_64, .glibc, .user⟩
        status := .fail
        startedAt := ⟨1483228799, 1500000000⟩
        durationMs := 1500
        artifact := some "tool-x86_64-linux.zip"
        image := none
        container := some "im-ubuntu"
        trace := [.pending, .artifactResolved, .failed]
        phases := [⟨.root, [⟨"extract", "unzip \"a\"", "root", none, "", "\t\\\u001bé\n", 7⟩,
          ⟨"install", "./install.sh", "root", some (-1), "", "", 12⟩]⟩]
        failure := some ⟨.rootInstallError, .rootPhase, "exit \"1\"", some "line 1\r\nline 2"⟩
        skipReason := none },
      CellResult.skipped ⟨"alpine", "3.19", .aarch64, .musl, .root⟩ "no archive" ⟨0, 0⟩ ]

/-- Everything in these results fits into a report. -/
theorem fits_mixed : mixed.Fits where
  results := by
    simp only [mixed, List.forall_mem_cons, List.not_mem_nil, false_imp_iff, implies_true, and_true]
    refine ⟨⟨⟨by decide, .inr (by decide)⟩, by decide, ?_⟩,
      ⟨⟨by decide, .inl (by decide)⟩, by decide, nofun⟩⟩
    simp only [List.forall_mem_cons, List.not_mem_nil, false_imp_iff, implies_true, and_true]
    exact ⟨⟨nofun, by decide⟩, ⟨by rintro _ ⟨⟩; decide, by decide⟩⟩
  length := by decide

/-- Quotes, control characters, a step without an exit code and a leap second come back. -/
theorem read_report_of_mixed :
    mixed.Fits ∧ mixed.summarize.counts = ⟨2, 0, 1, 1⟩ ∧
      read (contents mixed) = some (ResultSet.summarize ⟨mixed.sorted⟩, mixed.sorted) ∧
      read ((printout true .json mixed).on .results)
        = some (ResultSet.summarize ⟨mixed.sorted⟩, mixed.sorted) :=
  ⟨fits_mixed, by decide, (read_report fits_mixed).1, (read_report fits_mixed).2 true⟩

end Report

end InstallMatrix
