import InstallMatrix.Archive.Directory
import InstallMatrix.Proofs.Archive.Name
import Mathlib.Data.List.Sort
import Mathlib.Data.String.Basic

/-!
# `InstallMatrix.Proofs.Archive.Directory`: the archive that is chosen

A directory yields its entries in any order, and two of them may be called the same once
their names are read as text. `DirectoryEntry.Fits` says without a reader which entries are
archives for a cell.

* `fits_iff`: the search takes exactly the entries that fit.
* `candidates_eq_of_perm`: what it has found is put in order, so the order in which the
  entries came does not matter.
* `resolve_eq_ok_iff`, `resolve_eq_missing_iff` and `resolve_eq_ambiguous_iff`: one entry that
  fits is the answer, and none and several are told apart.

`resolve_unique` puts these together.
-/

set_option autoImplicit false

namespace InstallMatrix

/-! ### Entries that fit -/

/-- The entry is an archive for the pair, and of the given name if one is set: it is no
directory, and its name is made of such parts. -/
def DirectoryEntry.Fits (name? : Option String) (a : Architecture) (l : Libc)
    (e : DirectoryEntry) : Prop :=
  e.isDirectory = false ∧ ∃ parts : ArchiveName, parts.Spells e.name ∧
    parts.architecture = a ∧ parts.libc = l ∧ ∀ name ∈ name?, parts.name = name

namespace Directory

variable {name? : Option String} {a : Architecture} {l : Libc} {path : String}
  {entries others : List DirectoryEntry} {e : DirectoryEntry}

/-- The search takes the entries that fit. A name that is read is made of one choice of parts, so
it is enough to look at the parts the reader gives. -/
theorem fits_iff : fits name? a l e = true ↔ e.Fits name? a l := by
  unfold fits DirectoryEntry.Fits
  rw [Bool.and_eq_true, Bool.not_eq_true']
  refine and_congr_right fun _ => ?_
  cases parsed : ArchiveName.read e.name with
  | none =>
    -- A name that is not read is made of no parts.
    refine ⟨nofun, ?_⟩
    intro ⟨parts, spells, _⟩
    rw [ArchiveName.read_eq_some_iff.mpr spells] at parsed
    cases parsed
  | some parts =>
    have spells := ArchiveName.read_eq_some_iff.mp parsed
    have only : ∀ other : ArchiveName, other.Spells e.name → other = parts :=
      fun other h => h.eq spells
    cases name? with
    | none =>
      simp only [Bool.and_true, Bool.and_eq_true, beq_iff_eq]
      constructor
      · intro ⟨sameArchitecture, sameLibc⟩
        exact ⟨parts, spells, sameArchitecture, sameLibc, nofun⟩
      · intro ⟨other, h, sameArchitecture, sameLibc, _⟩
        rw [← only other h]
        exact ⟨sameArchitecture, sameLibc⟩
    | some name =>
      simp only [Bool.and_eq_true, beq_iff_eq, Option.mem_some_iff, forall_eq']
      constructor
      · intro ⟨⟨sameArchitecture, sameLibc⟩, sameName⟩
        exact ⟨parts, spells, sameArchitecture, sameLibc, sameName⟩
      · intro ⟨other, h, sameArchitecture, sameLibc, sameName⟩
        rw [← only other h]
        exact ⟨⟨sameArchitecture, sameLibc⟩, sameName⟩

/-- Whether an entry fits can be decided, by the search itself. -/
instance : DecidablePred (DirectoryEntry.Fits name? a l) :=
  fun _ => decidable_of_iff _ fits_iff

/-- The entries that fit, as the directory yields them. -/
def fitting (name? : Option String) (a : Architecture) (l : Libc)
    (entries : List DirectoryEntry) : List DirectoryEntry :=
  entries.filter fun e => e.Fits name? a l

/-- What the search leaves of a listing are the entries that fit, in the order of the listing. -/
theorem filter_fits : entries.filter (fits name? a l) = fitting name? a l entries := by
  unfold fitting
  refine List.filter_congr fun e _ => ?_
  rw [Bool.eq_iff_iff, fits_iff, decide_eq_true_iff]

/-- Listings of the same entries leave the same ones that fit, in whatever order they came. -/
theorem fitting_perm (perm : entries.Perm others) :
    (fitting name? a l entries).Perm (fitting name? a l others) :=
  perm.filter _

/-- Just one entry fits, wherever the directory yields it. What stands before it and behind does
not fit. -/
theorem fitting_eq_singleton_iff : fitting name? a l entries = [e] ↔
    ∃ before after, entries = before ++ e :: after ∧ (∀ x ∈ before, ¬ x.Fits name? a l) ∧
      e.Fits name? a l ∧ ∀ x ∈ after, ¬ x.Fits name? a l := by
  unfold fitting
  rw [List.filter_eq_cons_iff]
  simp only [List.filter_eq_nil_iff, decide_eq_true_iff]

/-! ### Candidates in order -/

/-- The candidates are the names of the entries that fit, put in order. -/
theorem candidates_perm :
    (candidates entries name? a l).Perm ((fitting name? a l entries).map DirectoryEntry.name) := by
  unfold candidates
  rw [filter_fits]
  exact List.mergeSort_perm _ _

/-- The candidates are in order. Names that are equal may stand side by side, because two entries
may be called the same once they are read as text. -/
theorem pairwise_candidates : (candidates entries name? a l).Pairwise (· ≤ ·) := by
  have trans (x y z : String) (xy : (!decide (y < x)) = true) (yz : (!decide (z < y)) = true) :
      (!decide (z < x)) = true := by
    simp only [Bool.not_eq_true', decide_eq_false_iff_not, String.not_lt] at xy yz ⊢
    exact String.le_trans xy yz
  have total (x y : String) : (!decide (y < x) || !decide (x < y)) = true := by
    simp only [Bool.or_eq_true, Bool.not_eq_true', decide_eq_false_iff_not, String.not_lt]
    exact String.le_total x y
  have ordered := List.pairwise_mergeSort trans total
    ((entries.filter (fits name? a l)).map DirectoryEntry.name)
  refine ordered.imp fun {x y} le => ?_
  simpa only [Bool.not_eq_true', decide_eq_false_iff_not, String.not_lt] using le

/-- There is one way to put names in order: a list of the names that fit is the candidates iff it
is sorted. So the statement about a failure may speak of any sorted list. -/
theorem candidates_eq_iff {names : List String} : candidates entries name? a l = names ↔
    names.Pairwise (· ≤ ·) ∧
      names.Perm ((fitting name? a l entries).map DirectoryEntry.name) := by
  constructor
  · intro eq
    subst eq
    exact ⟨pairwise_candidates, candidates_perm⟩
  · intro ⟨ordered, perm⟩
    refine List.Perm.eq_of_pairwise (fun x y _ _ => String.le_antisymm)
      pairwise_candidates ordered ?_
    exact candidates_perm.trans perm.symm

/-- The order in which the entries come does not matter, since the candidates are sorted. -/
theorem candidates_eq_of_perm (perm : entries.Perm others) :
    candidates entries name? a l = candidates others name? a l := by
  refine candidates_eq_iff.mpr ⟨pairwise_candidates, ?_⟩
  exact candidates_perm.trans ((fitting_perm perm.symm).map _)

/-- There are as many candidates as entries that fit, for no name is dropped. -/
theorem length_candidates :
    (candidates entries name? a l).length = (fitting name? a l entries).length := by
  rw [candidates_perm.length_eq, List.length_map]

/-! ### The choice -/

/-- All the archives that fit, by their names and in order, where there are several. This is what
the message of an ambiguous search has to list. -/
structure Competing (name? : Option String) (a : Architecture) (l : Libc)
    (entries : List DirectoryEntry) (names : List String) : Prop where
  several : 2 ≤ (fitting name? a l entries).length
  count : names.length = (fitting name? a l entries).length
  ordered : names.Pairwise (· ≤ ·)
  perm : names.Perm ((fitting name? a l entries).map DirectoryEntry.name)

/-- There is no candidate just if no entry fits. -/
theorem candidates_eq_nil_iff :
    candidates entries name? a l = [] ↔ ∀ e ∈ entries, ¬ e.Fits name? a l := by
  rw [← List.length_eq_zero_iff, length_candidates, List.length_eq_zero_iff, fitting,
    List.filter_eq_nil_iff]
  simp only [decide_eq_true_iff]

/-- There is one candidate just if one entry fits, and it is the name of that entry. -/
theorem candidates_eq_singleton_iff {name : String} : candidates entries name? a l = [name] ↔
    ∃ e, fitting name? a l entries = [e] ∧ e.name = name := by
  rw [candidates_eq_iff, List.singleton_perm, eq_comm, List.map_eq_singleton_iff]
  exact and_iff_right (List.pairwise_singleton _ _)

/-- Names compete just if there are two or more of them and they are the candidates. -/
theorem competing_iff {names : List String} : Competing name? a l entries names ↔
    2 ≤ names.length ∧ candidates entries name? a l = names := by
  rw [candidates_eq_iff]
  constructor
  · intro h
    exact ⟨h.count ▸ h.several, h.ordered, h.perm⟩
  · intro ⟨several, ordered, perm⟩
    have count : names.length = (fitting name? a l entries).length := by
      rw [perm.length_eq, List.length_map]
    exact ⟨count ▸ several, count, ordered, perm⟩

/-- A readable directory is judged by the candidates in it: none, one, or several. The three cases
exclude each other, and each of the equivalences below is read off them. -/
theorem resolve_cases (path : String) (entries : List DirectoryEntry) (name? : Option String)
    (a : Architecture) (l : Libc) :
    (candidates entries name? a l = [] ∧
        resolve ⟨path, .ok entries⟩ name? a l = .error (.missing path a l)) ∨
      (∃ name, candidates entries name? a l = [name] ∧
        resolve ⟨path, .ok entries⟩ name? a l = .ok ⟨Path.join path name, name⟩) ∨
      ∃ names, candidates entries name? a l = names ∧ 2 ≤ names.length ∧
        resolve ⟨path, .ok entries⟩ name? a l = .error (.ambiguous path a l names) := by
  simp only [resolve]
  match candidates entries name? a l with
  | [] => exact .inl ⟨rfl, rfl⟩
  | [name] => exact .inr (.inl ⟨name, rfl, rfl⟩)
  | x :: y :: names => exact .inr (.inr ⟨_, rfl, by simp, rfl⟩)

/-- The archive that is found is the only entry that fits, with the path it lies at. -/
theorem resolve_eq_ok_iff {artifact : Artifact} :
    resolve ⟨path, .ok entries⟩ name? a l = .ok artifact ↔
      ∃ e, fitting name? a l entries = [e] ∧ artifact = ⟨Path.join path e.name, e.name⟩ := by
  have single (e : DirectoryEntry) (only : fitting name? a l entries = [e]) :=
    candidates_eq_singleton_iff.mpr ⟨e, only, rfl⟩
  -- The search ends in one of three ways, and only with one candidate does it name an archive.
  rcases resolve_cases path entries name? a l with
    ⟨found, answer⟩ | ⟨name, found, answer⟩ | ⟨names, found, several, answer⟩
  · rw [answer]
    refine ⟨nofun, ?_⟩
    intro ⟨e, only, _⟩
    rw [single e only] at found
    cases found
  · rw [answer, Except.ok.injEq]
    constructor
    · intro same
      obtain ⟨e, only, rfl⟩ := candidates_eq_singleton_iff.mp found
      exact ⟨e, only, same.symm⟩
    · intro ⟨e, only, same⟩
      rw [single e only, List.singleton_inj] at found
      rw [same, found]
  · rw [answer]
    refine ⟨nofun, ?_⟩
    intro ⟨e, only, _⟩
    rw [← found, single e only, List.length_singleton] at several
    omega

/-- The search says that nothing was found just if no entry fits. -/
theorem resolve_eq_missing_iff :
    resolve ⟨path, .ok entries⟩ name? a l = .error (.missing path a l) ↔
      ∀ e ∈ entries, ¬ e.Fits name? a l := by
  rw [← candidates_eq_nil_iff]
  rcases resolve_cases path entries name? a l with
    ⟨found, answer⟩ | ⟨name, found, answer⟩ | ⟨names, found, several, answer⟩
  · rw [answer, found]
    exact iff_of_true rfl rfl
  · rw [answer, found]
    exact ⟨nofun, nofun⟩
  · rw [answer, found]
    refine ⟨nofun, ?_⟩
    intro none
    rw [none, List.length_nil] at several
    omega

/-- The search says which names compete just if several entries fit, and it says all of them. -/
theorem resolve_eq_ambiguous_iff {names : List String} :
    resolve ⟨path, .ok entries⟩ name? a l = .error (.ambiguous path a l names) ↔
      Competing name? a l entries names := by
  rw [competing_iff]
  -- With no candidate or with one there are fewer than two names to compete.
  rcases resolve_cases path entries name? a l with
    ⟨found, answer⟩ | ⟨name, found, answer⟩ | ⟨others, found, several, answer⟩
  · rw [answer, found]
    refine ⟨nofun, ?_⟩
    intro ⟨two, same⟩
    rw [← same, List.length_nil] at two
    omega
  · rw [answer, found]
    refine ⟨nofun, ?_⟩
    intro ⟨two, same⟩
    rw [← same, List.length_singleton] at two
    omega
  · rw [answer, found]
    simp only [Except.error.injEq, ArtifactError.ambiguous.injEq, true_and]
    constructor
    · intro same
      exact ⟨same ▸ several, same⟩
    · intro ⟨_, same⟩
      exact same

/-- **The one archive is chosen, in whatever order the directory yields its entries.** The
answer is an archive just if it is the only entry that fits. It is missing just if no entry
fits, and where several do, all their names are told in order, with their number. -/
theorem resolve_unique (path : String) (entries : List DirectoryEntry) (name? : Option String)
    (a : Architecture) (l : Libc) :
    (∀ artifact, resolve ⟨path, .ok entries⟩ name? a l = .ok artifact ↔
      ∃ before e after, entries = before ++ e :: after ∧ (∀ x ∈ before, ¬ x.Fits name? a l) ∧
        e.Fits name? a l ∧ (∀ x ∈ after, ¬ x.Fits name? a l) ∧
          artifact = ⟨Path.join path e.name, e.name⟩) ∧
    (resolve ⟨path, .ok entries⟩ name? a l = .error (.missing path a l) ↔
      ∀ e ∈ entries, ¬ e.Fits name? a l) ∧
    ((∃ names, resolve ⟨path, .ok entries⟩ name? a l = .error (.ambiguous path a l names)) ↔
      2 ≤ (fitting name? a l entries).length) ∧
    (∀ names, resolve ⟨path, .ok entries⟩ name? a l = .error (.ambiguous path a l names) ↔
      Competing name? a l entries names) ∧
    ∀ others, others.Perm entries →
      resolve ⟨path, .ok others⟩ name? a l = resolve ⟨path, .ok entries⟩ name? a l := by
  refine ⟨fun artifact => ?_, resolve_eq_missing_iff, ?_, fun _ => resolve_eq_ambiguous_iff,
    fun others perm => ?_⟩
  · rw [resolve_eq_ok_iff]
    constructor
    · intro ⟨e, only, same⟩
      obtain ⟨before, after, split, earlier, fits, later⟩ := fitting_eq_singleton_iff.mp only
      exact ⟨before, e, after, split, earlier, fits, later, same⟩
    · intro ⟨before, e, after, split, earlier, fits, later, same⟩
      exact ⟨e, fitting_eq_singleton_iff.mpr ⟨before, after, split, earlier, fits, later⟩, same⟩
  · simp only [resolve_eq_ambiguous_iff]
    constructor
    · intro ⟨names, competing⟩
      exact competing.several
    · intro several
      exact ⟨_, competing_iff.mpr ⟨length_candidates ▸ several, rfl⟩⟩
  · -- The candidates are sorted by name, so the order of the listing is lost.
    simp only [resolve, candidates_eq_of_perm perm]

/-- Two names spell one cell, the architecture being written in two ways. A directory with a
fitting name does not count. -/
theorem resolve_unique_of_two_spellings :
    resolve ⟨"dist", .ok [⟨"q-x86_64-linux.zip", false⟩, ⟨"a-AMD64-linux.zip", false⟩,
        ⟨"b-x86_64-linux.zip", true⟩]⟩ none .x86_64 .glibc
      = .error (.ambiguous "dist" .x86_64 .glibc ["a-AMD64-linux.zip", "q-x86_64-linux.zip"]) := by
  obtain ⟨-, -, -, ambiguous, -⟩ := resolve_unique "dist" [⟨"q-x86_64-linux.zip", false⟩,
    ⟨"a-AMD64-linux.zip", false⟩, ⟨"b-x86_64-linux.zip", true⟩] none .x86_64 .glibc
  exact (ambiguous _).mpr
    ⟨by decide +kernel, by decide +kernel, by decide +kernel, by decide +kernel⟩

end Directory

end InstallMatrix
