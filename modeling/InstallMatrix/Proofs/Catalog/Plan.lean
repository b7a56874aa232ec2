import InstallMatrix.Catalog.Builtin
import Mathlib.Data.List.Nodup
import Mathlib.Data.Prod.Lex

/-!
# `InstallMatrix.Proofs.Catalog.Plan`: a plan is the matrix that was asked for

`Catalog.plan` goes through the selected releases, their architectures, C libraries and
identities. The theorems:

* `check_eq_ok_iff`: the releases a catalog is made from are accepted just if no two of
  them are called the same and each supports something (`Valid`).
* `mem_plan_iff`: what is planned for a release. The pairs a release does not support
  come up only where the filter names them, so nothing is ever left out.
* `pairwise_place`: the plan is in order, and so no cell is in it twice.
* `plan_eq_of_sameValues`: of the values in a filter neither order nor number matters.
* `plan_exact` puts these together.
-/

set_option autoImplicit false

namespace InstallMatrix

/-! ### Values of the axes -/

namespace Architecture

/-- Every architecture is in the list of all. -/
theorem mem_all (a : Architecture) : a ∈ all := by cases a <;> decide

/-- The list of all architectures is in the order of their ranks. -/
theorem pairwise_all : all.Pairwise fun a b => a.rank < b.rank := by decide

end Architecture

namespace Libc

/-- Every C library is in the list of all. -/
theorem mem_all (l : Libc) : l ∈ all := by cases l <;> decide

/-- The list of all C libraries is in the order of their ranks. -/
theorem pairwise_all : all.Pairwise fun a b => a.rank < b.rank := by decide

end Libc

namespace IdentityChoice

/-- Is an identity chosen. -/
def Chooses : IdentityChoice → Identity → Prop
  | .root, i => i = .root
  | .user, i => i = .user
  | .both, _ => True

/-- A choice lists the identities that it chooses. -/
theorem mem_identities_iff {choice : IdentityChoice} {i : Identity} :
    i ∈ choice.identities ↔ choice.Chooses i := by
  cases choice <;> cases i <;> simp [identities, Chooses]

/-- Root comes before the user wherever both are chosen. -/
theorem pairwise_identities (choice : IdentityChoice) :
    choice.identities.Pairwise fun i j => i.rank < j.rank := by
  cases choice <;> decide

/-- Every choice chooses somebody, so a filter never leaves a release without cells. -/
theorem identities_ne_nil (choice : IdentityChoice) : choice.identities ≠ [] := by
  cases choice <;> decide

end IdentityChoice

namespace Catalog

variable {c : Catalog} {f g : CellFilter} {r : Release} {plan : List PlannedCell}

/-! ### Accepted catalogs -/

/-- The catalog was made in one of the ways there are. A catalog that was put together otherwise
may have releases called the same. -/
inductive Accepted : Catalog → Prop
  | ofList {releases : List Release} {c : Catalog} (made : Catalog.ofList releases = .ok c) :
      Accepted c
  | withExtra {extra : List Release} {c : Catalog} (made : Catalog.withExtra extra = .ok c) :
      Accepted c
  | builtin : Accepted Catalog.builtin

/-- No two releases are called the same, and each supports something. What is called the same is
judged without regard to the case of the letters. -/
structure Valid (releases : List Release) : Prop where
  distinct : releases.Pairwise fun a b => a.isCalled b.name b.version = false
  supported : ∀ r ∈ releases, r.architectures ≠ [] ∧ r.libcs ≠ []

/-- Releases pass the check if they are valid and none is called as one before them. The releases
before are those already taken up, so the statement is ready for the induction. -/
theorem check_eq_ok_iff {before releases : List Release} :
    check before releases = .ok () ↔
      (∀ b ∈ before, ∀ r ∈ releases, b.isCalled r.name r.version = false) ∧
        Valid releases := by
  induction releases generalizing before with
  | nil => simp [check, Valid.mk]
  | cons r rest ih =>
    unfold check
    by_cases known : (before.any fun b => b.isCalled r.name r.version) = true
    · -- A release called as one before it is refused.
      rw [if_pos known]
      obtain ⟨b, mem, called⟩ := List.any_eq_true.mp known
      refine ⟨nofun, fun ⟨apart, _⟩ => ?_⟩
      rw [apart b mem r List.mem_cons_self] at called
      cases called
    rw [if_neg known]
    by_cases empty : (r.architectures.isEmpty || r.libcs.isEmpty) = true
    · -- So is a release that supports nothing.
      rw [if_pos empty]
      refine ⟨nofun, fun ⟨_, valid⟩ => ?_⟩
      have some := valid.supported r List.mem_cons_self
      rw [Bool.or_eq_true, List.isEmpty_iff, List.isEmpty_iff] at empty
      exact empty.elim (fun h => absurd h some.1) (fun h => absurd h some.2)
    rw [if_neg empty, ih]
    have new : ∀ b ∈ before, b.isCalled r.name r.version = false := by
      intro b mem
      by_contra called
      exact known (List.any_eq_true.mpr ⟨b, mem, by simpa using called⟩)
    have some : r.architectures ≠ [] ∧ r.libcs ≠ [] := by
      simpa [List.isEmpty_iff] using empty
    constructor
    · rintro ⟨apart, valid⟩
      refine ⟨fun b mem q memQ => ?_, ?_, ?_⟩
      · rcases List.mem_cons.mp memQ with rfl | later
        · exact new b mem
        · exact apart b (List.mem_append_left _ mem) q later
      · refine List.pairwise_cons.mpr ⟨fun q memQ => ?_, valid.distinct⟩
        exact apart r (List.mem_append_right _ List.mem_cons_self) q memQ
      · intro q memQ
        rcases List.mem_cons.mp memQ with rfl | later
        · exact some
        · exact valid.supported q later
    · rintro ⟨apart, valid⟩
      obtain ⟨first, later⟩ := List.pairwise_cons.mp valid.distinct
      refine ⟨fun b mem q memQ => ?_, later, fun q memQ => ?_⟩
      · rcases List.mem_append.mp mem with earlier | last
        · exact apart b earlier q (List.mem_cons_of_mem _ memQ)
        · rw [List.mem_singleton.mp last]
          exact first q memQ
      · exact valid.supported q (List.mem_cons_of_mem _ memQ)

/-- A list that was made into a catalog is valid, for it was checked. -/
theorem valid_of_ofList {releases : List Release} (made : ofList releases = .ok c) :
    Valid c.releases := by
  unfold ofList at made
  split at made
  · next passed =>
    cases made
    exact (check_eq_ok_iff.mp passed).2
  · cases made

/-- The releases known without configuration are valid. -/
theorem valid_builtinReleases : Valid builtinReleases := by
  have passed : check [] builtinReleases = .ok () := by decide +kernel
  exact (check_eq_ok_iff.mp passed).2

/-- A catalog that was made in one of the ways there are is valid. -/
theorem Accepted.valid (h : Accepted c) : Valid c.releases := by
  cases h with
  | ofList made => exact valid_of_ofList made
  | withExtra made => exact valid_of_ofList made
  | builtin => exact valid_builtinReleases

/-! ### What is asked for -/

/-- The filter lets the release through. It says of a release only what it is called by. -/
def Selected (f : CellFilter) (r : Release) : Prop :=
  (f.distributions = [] ∨ ∃ d ∈ f.distributions, Text.lower d = Text.lower r.name) ∧
    (f.versions = [] ∨ r.version ∈ f.versions)

/-- The filter asks the release for the cell. Where it names no architectures or C
libraries, those of the release are meant. -/
structure Asked (f : CellFilter) (r : Release) (cell : Cell) : Prop where
  selected : Selected f r
  distribution : cell.distribution = r.name
  version : cell.version = r.version
  architecture : cell.architecture ∈ if f.architectures = [] then r.architectures
    else f.architectures
  libc : cell.libc ∈ if f.libcs = [] then r.libcs else f.libcs
  identity : f.identities.Chooses cell.identity

/-- The test for a release is the selection it stands for. Proofs go by the selection. -/
theorem selects_iff : selects f r = true ↔ Selected f r := by
  simp [selects, Selected, Text.sameLetters]

/-- The architectures of a filter are taken where it names some, and those of the release
otherwise. -/
theorem mem_architecturesOf_iff {a : Architecture} :
    a ∈ architecturesOf f r ↔
      a ∈ if f.architectures = [] then r.architectures else f.architectures := by
  unfold architecturesOf
  rw [List.mem_filter, decide_eq_true_iff]
  simp [Architecture.mem_all, List.isEmpty_iff]

/-- The C libraries of a filter are taken where it names some, and those of the release otherwise.
-/
theorem mem_libcsOf_iff {l : Libc} :
    l ∈ libcsOf f r ↔ l ∈ if f.libcs = [] then r.libcs else f.libcs := by
  unfold libcsOf
  rw [List.mem_filter, decide_eq_true_iff]
  simp [Libc.mem_all, List.isEmpty_iff]

/-- A release supports a pair just if it lists both of its parts. -/
theorem supports_iff {a : Architecture} {l : Libc} :
    r.supports a l = true ↔ a ∈ r.architectures ∧ l ∈ r.libcs := by
  simp [Release.supports]

/-- A filter names pairs as soon as it names architectures or C libraries. -/
theorem namesPairs_iff : f.namesPairs = true ↔ f.architectures ≠ [] ∨ f.libcs ≠ [] := by
  simp [CellFilter.namesPairs]

/-- Where the filter names no pairs, a release supports all it is asked for. So nothing is skipped
that was not asked for by name. -/
theorem supports_of_not_namesPairs {a : Architecture} {l : Libc} (none : f.namesPairs = false)
    (ha : a ∈ architecturesOf f r) (hl : l ∈ libcsOf f r) : r.supports a l = true := by
  have neither : f.architectures = [] ∧ f.libcs = [] := by
    simpa [CellFilter.namesPairs, List.isEmpty_iff] using none
  rw [mem_architecturesOf_iff, if_pos neither.1] at ha
  rw [mem_libcsOf_iff, if_pos neither.2] at hl
  exact supports_iff.mpr ⟨ha, hl⟩

/-! ### What is planned -/

/-- What is planned for a release at one place of the matrix: it is run if the release supports
the pair, and skipped with a reason otherwise. -/
def entryFor (r : Release) (a : Architecture) (l : Libc) (i : Identity) : PlannedCell :=
  if r.supports a l then .run ⟨r.name, r.version, a, l, i⟩
  else .skip ⟨r.name, r.version, a, l, i⟩ (skipReason r a l)

/-- Whether an entry is run or skipped, it is about the cell at its place. -/
@[simp] theorem cell_entryFor (r : Release) (a : Architecture) (l : Libc) (i : Identity) :
    (entryFor r a l i).cell = ⟨r.name, r.version, a, l, i⟩ := by
  unfold entryFor
  split <;> rfl

/-- No pair that a release is asked for is left out. A pair it does not support comes up only
where the filter names pairs, and then it is skipped, not passed over. -/
theorem cellsOf_eq {a : Architecture} {l : Libc} (ha : a ∈ architecturesOf f r)
    (hl : l ∈ libcsOf f r) :
    cellsOf f r a l = f.identities.identities.map (entryFor r a l) := by
  have kept : (!r.supports a l && !f.namesPairs) = false := by
    cases names : f.namesPairs with
    | true => rw [Bool.not_true, Bool.and_false]
    | false => rw [supports_of_not_namesPairs names ha hl, Bool.not_true, Bool.false_and]
  unfold cellsOf
  rw [kept, if_neg Bool.false_ne_true]
  rfl

/-- The plan of a release is nothing but its entries along the axes, one after the other. The
pairs that would have been left out do not come up, as `cellsOf_eq` says. -/
theorem planRelease_eq (f : CellFilter) (r : Release) :
    planRelease f r = (architecturesOf f r).flatMap fun a =>
      (libcsOf f r).flatMap fun l => f.identities.identities.map (entryFor r a l) := by
  unfold planRelease
  refine List.flatMap_congr fun a ha => ?_
  exact List.flatMap_congr fun l hl => cellsOf_eq ha hl

/-- An entry is planned for a release just if it stands at one of the places the filter asks for.
-/
theorem mem_planRelease_iff {entry : PlannedCell} :
    entry ∈ planRelease f r ↔ ∃ a ∈ architecturesOf f r, ∃ l ∈ libcsOf f r,
      ∃ i, f.identities.Chooses i ∧ entryFor r a l i = entry := by
  rw [planRelease_eq]
  simp only [List.mem_flatMap, List.mem_map, IdentityChoice.mem_identities_iff]

/-- A release that is let through is asked for something. -/
theorem planRelease_ne_nil (some : r.architectures ≠ [] ∧ r.libcs ≠ []) :
    planRelease f r ≠ [] := by
  have asked {α : Type} (named : List α) {own : List α} (h : own ≠ []) :
      (if named = [] then own else named) ≠ [] := by
    split
    · exact h
    · assumption
  obtain ⟨a, ha⟩ := List.exists_mem_of_ne_nil _ (asked f.architectures some.1)
  obtain ⟨l, hl⟩ := List.exists_mem_of_ne_nil _ (asked f.libcs some.2)
  obtain ⟨i, hi⟩ := List.exists_mem_of_ne_nil _ f.identities.identities_ne_nil
  exact List.ne_nil_of_mem (mem_planRelease_iff.mpr
    ⟨a, mem_architecturesOf_iff.mpr ha, l, mem_libcsOf_iff.mpr hl, i,
      IdentityChoice.mem_identities_iff.mp hi, rfl⟩)

/-- A plan is what the selected releases are planned for, and there is one just if the
filter selects a release. -/
theorem plan_eq_ok_iff : c.plan f = .ok plan ↔
    (∃ r ∈ c.releases, Selected f r) ∧
      plan = (c.releases.filter (selects f)).flatMap (planRelease f) := by
  have someSelected : (c.releases.filter (selects f)) ≠ [] ↔ ∃ r ∈ c.releases, Selected f r := by
    simp [List.filter_eq_nil_iff, selects_iff]
  rw [← someSelected]
  unfold Catalog.plan
  split
  · next none => simp [none]
  · next selected some =>
    rw [Except.ok.injEq]
    exact ⟨fun eq => ⟨some, eq.symm⟩, fun ⟨_, eq⟩ => eq.symm⟩

/-- No plan is made just if the filter lets no release through, and the error names all there are.
-/
theorem plan_eq_noMatch_iff :
    c.plan f = .error (.noMatch f (c.releases.map Release.slug)) ↔
      ∀ r ∈ c.releases, ¬ Selected f r := by
  have noneSelected : c.releases.filter (selects f) = [] ↔ ∀ r ∈ c.releases, ¬ Selected f r := by
    simp [List.filter_eq_nil_iff, ← selects_iff]
  rw [← noneSelected]
  unfold Catalog.plan
  split
  · next none => simp [none]
  · next selected some => exact ⟨nofun, fun none => absurd none some⟩

/-- An entry is in the plan just if its cell is asked for of a release, and it is the entry for
that place of the matrix. -/
theorem mem_plan_iff (planned : c.plan f = .ok plan) {entry : PlannedCell} :
    entry ∈ plan ↔ ∃ r ∈ c.releases, Asked f r entry.cell ∧
      entry = entryFor r entry.cell.architecture entry.cell.libc entry.cell.identity := by
  rw [(plan_eq_ok_iff.mp planned).2, List.mem_flatMap]
  -- The plan is read from the inside: identity, C library, architecture, release.
  constructor
  · rintro ⟨r, selected, mem⟩
    obtain ⟨isRelease, passes⟩ := List.mem_filter.mp selected
    obtain ⟨a, ha, l, hl, i, hi, rfl⟩ := mem_planRelease_iff.mp mem
    rw [cell_entryFor]
    exact ⟨r, isRelease, ⟨selects_iff.mp passes, rfl, rfl, mem_architecturesOf_iff.mp ha,
      mem_libcsOf_iff.mp hl, hi⟩, rfl⟩
  · rintro ⟨r, isRelease, asked, eq⟩
    refine ⟨r, List.mem_filter.mpr ⟨isRelease, selects_iff.mpr asked.selected⟩, ?_⟩
    exact mem_planRelease_iff.mpr ⟨_, mem_architecturesOf_iff.mpr asked.architecture, _,
      mem_libcsOf_iff.mpr asked.libc, _, asked.identity, eq.symm⟩

/-! ### The order of a plan -/

/-- Where the release of a cell stands in the catalog. A plan is ordered by this first. -/
def position (c : Catalog) (cell : Cell) : Nat :=
  c.releases.findIdx fun r => r.name = cell.distribution ∧ r.version = cell.version

/-- The place of a cell: by its release in the order of the catalog, then by architecture,
C library and identity. -/
def place (c : Catalog) (cell : Cell) : ℕ ×ₗ ℕ ×ₗ ℕ ×ₗ ℕ :=
  toLex (c.position cell,
    toLex (cell.architecture.rank, toLex (cell.libc.rank, cell.identity.rank)))

/-- In a valid catalog the cells of a release are found where it stands. -/
theorem position_eq (valid : Valid c.releases) {n : Nat} (found : c.releases[n]? = some r)
    {cell : Cell} (distribution : cell.distribution = r.name) (version : cell.version = r.version) :
    c.position cell = n := by
  obtain ⟨inside, rfl⟩ := List.getElem?_eq_some_iff.mp found
  unfold position
  rw [List.findIdx_eq inside]
  refine ⟨by simp [distribution, version], fun m before => ?_⟩
  -- An earlier release called the same would have been a repetition.
  have apart := List.pairwise_iff_getElem.mp valid.distinct m n (by omega) inside before
  rw [decide_eq_false_iff_not]
  rintro ⟨sameName, sameVersion⟩
  rw [distribution] at sameName
  rw [version] at sameVersion
  simp [Release.isCalled, Text.sameLetters, sameName, sameVersion] at apart

/-- The releases stand in the order of their positions. -/
theorem pairwise_position (valid : Valid c.releases) :
    c.releases.Pairwise fun r q => ∀ a b : Cell, a.distribution = r.name → a.version = r.version →
      b.distribution = q.name → b.version = q.version → c.position a < c.position b := by
  rw [List.pairwise_iff_getElem]
  intro m n hm hn before a b nameA versionA nameB versionB
  rw [position_eq valid (List.getElem?_eq_getElem hm) nameA versionA,
    position_eq valid (List.getElem?_eq_getElem hn) nameB versionB]
  exact before

/-- The cells of one release are in order: by architecture, C library and identity, each in the
order of its axis. -/
theorem pairwise_planRelease (c : Catalog) (f : CellFilter) (r : Release) :
    (planRelease f r).Pairwise fun a b => c.place a.cell < c.place b.cell := by
  have samePosition : ∀ (a b : Architecture) (l m : Libc) (i j : Identity),
      c.position ⟨r.name, r.version, a, l, i⟩ = c.position ⟨r.name, r.version, b, m, j⟩ :=
    fun _ _ _ _ _ _ => rfl
  -- Three nested loops: architectures on the outside, then C libraries, identities innermost.
  rw [planRelease_eq, List.pairwise_flatMap]
  refine ⟨fun a _ => ?_, ?_⟩
  · rw [List.pairwise_flatMap]
    refine ⟨fun l _ => ?_, ?_⟩
    · rw [List.pairwise_map]
      refine (f.identities.pairwise_identities).imp fun {i j} before => ?_
      simp only [cell_entryFor, place, samePosition a a l l i j, Prod.Lex.toLex_lt_toLex]
      exact .inr ⟨trivial, .inr ⟨trivial, .inr ⟨trivial, before⟩⟩⟩
    · refine (Libc.pairwise_all.filter _).imp fun {l m} before => ?_
      intro x hx y hy
      obtain ⟨i, -, rfl⟩ := List.mem_map.mp hx
      obtain ⟨j, -, rfl⟩ := List.mem_map.mp hy
      simp only [cell_entryFor, place, samePosition a a l m i j, Prod.Lex.toLex_lt_toLex]
      exact .inr ⟨trivial, .inr ⟨trivial, .inl before⟩⟩
  · refine (Architecture.pairwise_all.filter _).imp fun {a b} before => ?_
    intro x hx y hy
    obtain ⟨l, -, memX⟩ := List.mem_flatMap.mp hx
    obtain ⟨m, -, memY⟩ := List.mem_flatMap.mp hy
    obtain ⟨i, -, rfl⟩ := List.mem_map.mp memX
    obtain ⟨j, -, rfl⟩ := List.mem_map.mp memY
    simp only [cell_entryFor, place, samePosition a b l m i j, Prod.Lex.toLex_lt_toLex]
    exact .inr ⟨trivial, .inl before⟩

/-- A plan is in order. Releases come in the order of the catalog, and the cells of one release in
the order of the axes; together this is the lexicographic order of places. -/
theorem pairwise_place (valid : Valid c.releases) (planned : c.plan f = .ok plan) :
    plan.Pairwise fun a b => c.place a.cell < c.place b.cell := by
  rw [(plan_eq_ok_iff.mp planned).2, List.pairwise_flatMap]
  refine ⟨fun r _ => pairwise_planRelease c f r, ?_⟩
  refine ((pairwise_position valid).filter _).imp fun {r q} before => ?_
  intro x hx y hy
  obtain ⟨a, -, l, -, i, -, rfl⟩ := mem_planRelease_iff.mp hx
  obtain ⟨b, -, m, -, j, -, rfl⟩ := mem_planRelease_iff.mp hy
  simp only [cell_entryFor, place, Prod.Lex.toLex_lt_toLex]
  exact .inl (before _ _ rfl rfl rfl rfl)

/-- No cell is in a plan twice, because the places of its cells grow strictly. -/
theorem nodup_cells (valid : Valid c.releases) (planned : c.plan f = .ok plan) :
    (plan.map PlannedCell.cell).Nodup := by
  unfold List.Nodup
  rw [List.pairwise_map]
  refine (pairwise_place valid planned).imp fun {a b} before same => ?_
  rw [same] at before
  exact lt_irrefl _ before

/-! ### Filters with the same values -/

/-- Two filters that differ at most in order and number of their values. The choice of identities
has neither. -/
structure SameValues (f g : CellFilter) : Prop where
  distributions : ∀ d, d ∈ f.distributions ↔ d ∈ g.distributions
  versions : ∀ v, v ∈ f.versions ↔ v ∈ g.versions
  architectures : ∀ a, a ∈ f.architectures ↔ a ∈ g.architectures
  libcs : ∀ l, l ∈ f.libcs ↔ l ∈ g.libcs
  identities : f.identities = g.identities

/-- Lists with the same members are empty together. -/
theorem eq_nil_iff_of_mem_iff {α : Type} {l m : List α} (same : ∀ a, a ∈ l ↔ a ∈ m) :
    l = [] ↔ m = [] := by
  simp [List.eq_nil_iff_forall_not_mem, same]

namespace SameValues

/-- Filters of the same values let the same releases through. -/
theorem selects_eq (h : SameValues f g) (r : Release) : selects f r = selects g r := by
  have iff : selects f r = true ↔ selects g r = true := by
    rw [selects_iff, selects_iff]
    unfold Selected
    rw [eq_nil_iff_of_mem_iff h.distributions, eq_nil_iff_of_mem_iff h.versions]
    simp only [h.distributions, h.versions]
  exact Bool.eq_iff_iff.mpr iff

/-- They ask for the same architectures, in the same order. -/
theorem architecturesOf_eq (h : SameValues f g) (r : Release) :
    architecturesOf f r = architecturesOf g r := by
  refine List.filter_congr fun a _ => ?_
  have none : f.architectures.isEmpty = g.architectures.isEmpty := by
    rw [Bool.eq_iff_iff, List.isEmpty_iff, List.isEmpty_iff]
    exact eq_nil_iff_of_mem_iff h.architectures
  rw [none, decide_eq_decide]
  split
  · exact Iff.rfl
  · exact h.architectures a

/-- They ask for the same C libraries, in the same order. -/
theorem libcsOf_eq (h : SameValues f g) (r : Release) : libcsOf f r = libcsOf g r := by
  refine List.filter_congr fun l _ => ?_
  have none : f.libcs.isEmpty = g.libcs.isEmpty := by
    rw [Bool.eq_iff_iff, List.isEmpty_iff, List.isEmpty_iff]
    exact eq_nil_iff_of_mem_iff h.libcs
  rw [none, decide_eq_decide]
  split
  · exact Iff.rfl
  · exact h.libcs l

/-- So they plan the same for every release. -/
theorem planRelease_eq (h : SameValues f g) (r : Release) :
    planRelease f r = planRelease g r := by
  rw [Catalog.planRelease_eq, Catalog.planRelease_eq, h.architecturesOf_eq, h.libcsOf_eq,
    h.identities]

end SameValues

/-- Order and number of the values in a filter do not matter. The plan goes through the axes and
not through the filter. -/
theorem plan_eq_of_sameValues (same : SameValues f g) (planned : c.plan f = .ok plan) :
    c.plan g = .ok plan := by
  obtain ⟨⟨r, isRelease, selected⟩, rfl⟩ := plan_eq_ok_iff.mp planned
  have filters : selects f = selects g := funext same.selects_eq
  have plans : planRelease f = planRelease g := funext same.planRelease_eq
  rw [filters, plans]
  refine plan_eq_ok_iff.mpr ⟨⟨r, isRelease, ?_⟩, rfl⟩
  rw [← selects_iff, ← filters, selects_iff]
  exact selected

/-! ### The plan -/

/-- The plan is the matrix the filter asks the catalog for. The fields say what is in it, in which
order, and that the filter counts as a set. -/
structure Exact (c : Catalog) (f : CellFilter) (plan : List PlannedCell) : Prop where
  nonempty : plan ≠ []
  nodup : (plan.map PlannedCell.cell).Nodup
  /-- The pairs a release supports are run. -/
  run_mem_iff : ∀ cell, .run cell ∈ plan ↔ ∃ r ∈ c.releases, Asked f r cell ∧
    cell.architecture ∈ r.architectures ∧ cell.libc ∈ r.libcs
  /-- The other pairs are skipped, and the reason tells the release and the pair. -/
  skip_mem_iff : ∀ cell reason, .skip cell reason ∈ plan ↔ ∃ r ∈ c.releases, Asked f r cell ∧
    ¬ (cell.architecture ∈ r.architectures ∧ cell.libc ∈ r.libcs) ∧
      reason = skipReason r cell.architecture cell.libc
  /-- Nothing is skipped unless the filter names architectures or C libraries. -/
  named_of_skip : ∀ cell reason, .skip cell reason ∈ plan → f.architectures ≠ [] ∨ f.libcs ≠ []
  ordered : plan.Pairwise fun a b => c.place a.cell < c.place b.cell
  /-- Neither order nor number of the values in the filter matters. -/
  sameValues : ∀ g, SameValues f g → c.plan g = .ok plan

/-- A plan that was made is exact. The fields are the theorems of the sections above. -/
theorem exact_of_plan (valid : Valid c.releases) (planned : c.plan f = .ok plan) :
    Exact c f plan where
  nonempty := by
    obtain ⟨⟨r, isRelease, selected⟩, rfl⟩ := plan_eq_ok_iff.mp planned
    have chosen : r ∈ c.releases.filter (selects f) :=
      List.mem_filter.mpr ⟨isRelease, selects_iff.mpr selected⟩
    intro none
    exact planRelease_ne_nil (valid.supported r isRelease)
      (List.flatMap_eq_nil_iff.mp none r chosen)
  nodup := nodup_cells valid planned
  run_mem_iff cell := by
    rw [mem_plan_iff planned]
    refine exists_congr fun r => and_congr_right fun _ => and_congr_right fun asked => ?_
    rw [← supports_iff]
    unfold entryFor
    split
    · next supported =>
      rw [← asked.distribution, ← asked.version]
      exact ⟨fun _ => supported, fun _ => rfl⟩
    · next unsupported => exact ⟨nofun, fun supported => absurd supported unsupported⟩
  skip_mem_iff cell reason := by
    rw [mem_plan_iff planned]
    refine exists_congr fun r => and_congr_right fun _ => and_congr_right fun asked => ?_
    rw [← supports_iff]
    unfold entryFor
    split
    · next supported => exact ⟨nofun, fun ⟨unsupported, _⟩ => absurd supported unsupported⟩
    · next unsupported =>
      rw [PlannedCell.skip.injEq, ← asked.distribution, ← asked.version]
      exact ⟨fun eq => ⟨unsupported, eq.2⟩, fun eq => ⟨rfl, eq.2⟩⟩
  named_of_skip cell reason mem := by
    obtain ⟨r, -, asked, eq⟩ := (mem_plan_iff planned).mp mem
    -- A pair that was not asked for by name comes from the release, which supports its own.
    by_contra unnamed
    rw [← namesPairs_iff, Bool.not_eq_true] at unnamed
    have supported := supports_of_not_namesPairs unnamed
      (mem_architecturesOf_iff.mpr asked.architecture) (mem_libcsOf_iff.mpr asked.libc)
    rw [entryFor, if_pos supported] at eq
    cases eq
  ordered := pairwise_place valid planned
  sameValues g same := plan_eq_of_sameValues same planned

/-- Planning fails, naming every release, just if the filter selects none of them.
Otherwise the plan is the matrix that was asked for. -/
theorem plan_exact (accepted : Accepted c) (f : CellFilter) :
    (c.plan f = .error (.noMatch f (c.releases.map Release.slug)) ↔
        ∀ r ∈ c.releases, ¬ Selected f r) ∧
      ((∃ r ∈ c.releases, Selected f r) → ∃ plan, c.plan f = .ok plan ∧ Exact c f plan) := by
  refine ⟨plan_eq_noMatch_iff, fun some => ?_⟩
  have planned := plan_eq_ok_iff.mpr ⟨some, rfl⟩
  exact ⟨_, planned, exact_of_plan accepted.valid planned⟩

/-- A release of one's own, asked for under another spelling and with an architecture that
it does not support, which is named twice: it is run once and skipped once. -/
theorem plan_exact_of_repeated_architecture :
    ∃ c f plan, Accepted c ∧ c.plan f = .ok plan ∧ Exact c f plan ∧
      plan.map PlannedCell.isRun = [true, false] := by
  let own := release "opensuse" "15.5" .yum [.x86_64] [.glibc]
  let c : Catalog := ⟨builtinReleases ++ [own]⟩
  let f : CellFilter := ⟨["OpenSUSE"], [], [.aarch64, .x86_64, .aarch64], [], .root⟩
  -- The added release supports one architecture. The filter names two, one of them twice.
  have passed : check [] (builtinReleases ++ [own]) = .ok () := by decide +kernel
  have accepted : Accepted c := by
    have made : withExtra [own] = .ok c := by rw [withExtra, ofList, passed]
    exact .withExtra made
  have selected : ∃ r ∈ c.releases, Selected f r := by
    refine ⟨own, List.mem_append_right _ List.mem_cons_self, selects_iff.mp ?_⟩
    decide +kernel
  obtain ⟨plan, planned, exact_⟩ := (plan_exact accepted f).2 selected
  refine ⟨c, f, plan, accepted, planned, exact_, ?_⟩
  have runs : (c.plan f).toOption.map (List.map PlannedCell.isRun) = some [true, false] := by
    decide +kernel
  rw [planned] at runs
  exact Option.some.inj runs

end Catalog

end InstallMatrix
