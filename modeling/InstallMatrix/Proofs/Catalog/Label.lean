import InstallMatrix.Proofs.Catalog.Plan
import InstallMatrix.Proofs.Run.Account

/-!
# `InstallMatrix.Proofs.Catalog.Label`: when labels tell cells apart

A label ends in the names of architecture, C library and identity, none of which has a
hyphen in it, so these can be read back (`label_eq_iff`). What stands before them is the
slug of the release, and two releases of a catalog may well share a slug: `a-b` in version
`c` and `a` in version `b-c`.

`nodup_labels_iff` says exactly when the labels of a plan are distinct: no two of the
selected releases that share a slug are asked for the same pair. Then, and this is
`labels_tell_cells`, every cell whose task broke off before its result is recorded as
failed once the run is finished. `shared_label_hides_cell` is a catalog and a run where
labels are shared and such a cell is passed over.
-/

set_option autoImplicit false

namespace InstallMatrix

/-! ### Labels -/

/-- What follows the last occurrence of a character tells where a text was cut. -/
theorem eq_of_append_eq_append {sep : Char} {left left' right right' : List Char}
    (h : sep ∉ right) (h' : sep ∉ right')
    (eq : left ++ sep :: right = left' ++ sep :: right') : left = left' ∧ right = right' := by
  have cut : Text.cutLast? sep (left ++ sep :: right) = some (left, right) :=
    Text.cutLast?_eq_some_iff.mpr ⟨rfl, h⟩
  have cut' : Text.cutLast? sep (left' ++ sep :: right') = some (left', right') :=
    Text.cutLast?_eq_some_iff.mpr ⟨rfl, h'⟩
  rw [eq, cut', Option.some.injEq, Prod.mk.injEq] at cut
  exact ⟨cut.1.symm, cut.2.symm⟩

/-- Two texts that end in a hyphen and a word without one are the same just if both parts are.
This is used for each of the axes, from the end of a label on. -/
theorem append_hyphen_eq_iff {s s' w w' : String} (h : '-' ∉ w.toList) (h' : '-' ∉ w'.toList) :
    s ++ "-" ++ w = s' ++ "-" ++ w' ↔ s = s' ∧ w = w' := by
  constructor
  · intro eq
    have chars := congrArg String.toList eq
    simp only [String.toList_append, List.append_assoc] at chars
    obtain ⟨same, same'⟩ := eq_of_append_eq_append h h' chars
    exact ⟨String.ext same, String.ext same'⟩
  · rintro ⟨rfl, rfl⟩
    rfl

/-- The name of an architecture has no hyphen, so it can be cut off a label at the last one. -/
theorem Architecture.hyphen_not_mem_name (a : Architecture) : '-' ∉ a.name.toList := by
  cases a <;> decide

/-- Architectures are told apart by their names. -/
theorem Architecture.name_inj {a b : Architecture} : a.name = b.name ↔ a = b := by
  cases a <;> cases b <;> decide

/-- The name of a C library has no hyphen. -/
theorem Libc.hyphen_not_mem_name (l : Libc) : '-' ∉ l.name.toList := by
  cases l <;> decide

/-- C libraries are told apart by their names. -/
theorem Libc.name_inj {l m : Libc} : l.name = m.name ↔ l = m := by
  cases l <;> cases m <;> decide

/-- The name of an identity has no hyphen. -/
theorem Identity.hyphen_not_mem_name (i : Identity) : '-' ∉ i.name.toList := by
  cases i <;> decide

/-- Identities are told apart by their names. -/
theorem Identity.name_inj {i j : Identity} : i.name = j.name ↔ i = j := by
  cases i <;> cases j <;> decide

namespace Cell

/-- The slug of the release a cell is for. Where it is cut into distribution and version cannot be
seen in it. -/
def slug (c : Cell) : String := c.distribution ++ "-" ++ c.version

/-- Two labels are the same if the slugs and the places on the axes are. The slug is not taken
apart any further, because a distribution and a version may contain hyphens. -/
theorem label_eq_iff {a b : Cell} : a.label = b.label ↔
    a.slug = b.slug ∧ a.architecture = b.architecture ∧ a.libc = b.libc ∧
      a.identity = b.identity := by
  have layers : ∀ c : Cell, c.label
      = c.slug ++ "-" ++ c.architecture.name ++ "-" ++ c.libc.name ++ "-" ++ c.identity.name :=
    fun _ => rfl
  rw [layers, layers, append_hyphen_eq_iff (Identity.hyphen_not_mem_name _)
      (Identity.hyphen_not_mem_name _),
    append_hyphen_eq_iff (Libc.hyphen_not_mem_name _) (Libc.hyphen_not_mem_name _),
    append_hyphen_eq_iff (Architecture.hyphen_not_mem_name _)
      (Architecture.hyphen_not_mem_name _),
    Architecture.name_inj, Libc.name_inj, Identity.name_inj, and_assoc, and_assoc]

end Cell

namespace Catalog

variable {c : Catalog} {f : CellFilter} {plan : List PlannedCell}

/-! ### The labels of a plan -/

/-- No two releases that the filter selects share a slug and a pair they are asked for. This is
said of the catalog and the filter alone, so it can be checked without making the plan. -/
def Unambiguous (c : Catalog) (f : CellFilter) : Prop :=
  ∀ r ∈ c.releases, ∀ q ∈ c.releases, Selected f r → Selected f q → r.slug = q.slug →
    (∃ a, a ∈ architecturesOf f r ∧ a ∈ architecturesOf f q) →
      (∃ l, l ∈ libcsOf f r ∧ l ∈ libcsOf f q) → r = q

/-- In a valid catalog no two releases are called the same. -/
theorem Valid.eq_of_isCalled {releases : List Release} (valid : Valid releases) {r q : Release}
    (hr : r ∈ releases) (hq : q ∈ releases) {name version : String}
    (called : r.isCalled name version = true) (called' : q.isCalled name version = true) :
    r = q := by
  simp only [Release.isCalled, Text.sameLetters, Bool.and_eq_true, beq_iff_eq] at called called'
  obtain ⟨m, hm, rfl⟩ := List.mem_iff_getElem.mp hr
  obtain ⟨n, hn, rfl⟩ := List.mem_iff_getElem.mp hq
  have apart := List.pairwise_iff_getElem.mp valid.distinct
  rcases Nat.lt_trichotomy m n with before | rfl | after
  · have clash := apart m n hm hn before
    simp [Release.isCalled, Text.sameLetters, called, called'] at clash
  · rfl
  · have clash := apart n m hn hm after
    simp [Release.isCalled, Text.sameLetters, called, called'] at clash

/-- In a valid catalog a release is known by its name and version. -/
theorem Valid.eq_of_called {releases : List Release} (valid : Valid releases) {r q : Release}
    (hr : r ∈ releases) (hq : q ∈ releases) (name : r.name = q.name)
    (version : r.version = q.version) : r = q := by
  have called : r.isCalled q.name q.version = true := by
    simp [Release.isCalled, Text.sameLetters, name, version]
  exact valid.eq_of_isCalled hr hq called (by simp [Release.isCalled, Text.sameLetters])

/-- In a valid catalog a release is found under its name, in any case of its letters. -/
theorem Valid.find?_eq_some (valid : Valid c.releases) {r : Release} (mem : r ∈ c.releases)
    {name version : String} (called : r.isCalled name version = true) :
    c.find? name version = some r := by
  unfold find?
  cases found : c.releases.find? fun q => q.isCalled name version with
  | none => exact absurd called (by simpa using List.find?_eq_none.mp found r mem)
  | some q =>
    have called' := List.find?_some found
    rw [valid.eq_of_isCalled mem (List.mem_of_find?_eq_some found) called called']

/-- The cells of a plan are those the releases are asked for, whether they are run or skipped. -/
theorem mem_cells_iff (planned : c.plan f = .ok plan) {cell : Cell} :
    cell ∈ plan.map PlannedCell.cell ↔ ∃ r ∈ c.releases, Asked f r cell := by
  rw [List.mem_map]
  constructor
  · rintro ⟨entry, mem, rfl⟩
    obtain ⟨r, isRelease, asked, -⟩ := (mem_plan_iff planned).mp mem
    exact ⟨r, isRelease, asked⟩
  · rintro ⟨r, isRelease, asked⟩
    have same : (entryFor r cell.architecture cell.libc cell.identity).cell = cell := by
      rw [cell_entryFor, ← asked.distribution, ← asked.version]
    refine ⟨entryFor r cell.architecture cell.libc cell.identity, ?_, same⟩
    rw [mem_plan_iff planned, same]
    exact ⟨r, isRelease, asked, rfl⟩

/-- Labels tell the cells of a plan apart just if the filter is unambiguous. Two cells of one
label agree on the axes, so they can only differ in their releases, which then share a slug. -/
theorem nodup_labels_iff (valid : Valid c.releases) (planned : c.plan f = .ok plan) :
    (plan.map fun entry => entry.cell.label).Nodup ↔ Unambiguous c f := by
  have labels : (plan.map fun entry => entry.cell.label)
      = (plan.map PlannedCell.cell).map Cell.label := by
    rw [List.map_map]
    rfl
  rw [labels, List.nodup_map_iff_inj_on (nodup_cells valid planned)]
  simp only [mem_cells_iff planned]
  constructor
  · intro told r hr q hq selectedR selectedQ slug ⟨a, aR, aQ⟩ ⟨l, lR, lQ⟩
    -- Each of the two releases is asked for a cell at the shared place.
    obtain ⟨i, chosen⟩ := List.exists_mem_of_ne_nil _ f.identities.identities_ne_nil
    have identity := IdentityChoice.mem_identities_iff.mp chosen
    have askedR : Asked f r ⟨r.name, r.version, a, l, i⟩ := ⟨selectedR, rfl, rfl,
      mem_architecturesOf_iff.mp aR, mem_libcsOf_iff.mp lR, identity⟩
    have askedQ : Asked f q ⟨q.name, q.version, a, l, i⟩ := ⟨selectedQ, rfl, rfl,
      mem_architecturesOf_iff.mp aQ, mem_libcsOf_iff.mp lQ, identity⟩
    have same := told _ ⟨r, hr, askedR⟩ _ ⟨q, hq, askedQ⟩
      (Cell.label_eq_iff.mpr ⟨slug, rfl, rfl, rfl⟩)
    rw [Cell.mk.injEq] at same
    exact valid.eq_of_called hr hq same.1 same.2.1
  · rintro told x ⟨r, hr, askedX⟩ y ⟨q, hq, askedY⟩ label
    obtain ⟨slug, architecture, libc, identity⟩ := Cell.label_eq_iff.mp label
    have slugs : r.slug = q.slug := by
      unfold Release.slug
      rw [← askedX.distribution, ← askedX.version, ← askedY.distribution, ← askedY.version]
      exact slug
    have atX := mem_architecturesOf_iff.mpr askedX.architecture
    have atY := mem_architecturesOf_iff.mpr askedY.architecture
    have onX := mem_libcsOf_iff.mpr askedX.libc
    have onY := mem_libcsOf_iff.mpr askedY.libc
    rw [← architecture] at atY
    rw [← libc] at onY
    obtain rfl := told r hr q hq askedX.selected askedY.selected slugs ⟨_, atX, atY⟩ ⟨_, onX, onY⟩
    obtain ⟨distribution, version, a, l, i⟩ := x
    cases y
    rw [Cell.mk.injEq]
    exact ⟨askedX.distribution.trans askedY.distribution.symm,
      askedX.version.trans askedY.version.symm, architecture, libc, identity⟩

end Catalog

/-! ### Cells whose task broke off -/

namespace RunState

variable {s t : RunState} {plan : List PlannedCell}

/-- Where labels tell the cells of a plan apart, a cell whose task handed in no result is
recorded as failed in the end, for the task broke off. -/
theorem recovered_mem_of_silent {context : RunContext} {cancelled : Bool}
    {events : List RunEvent} (run : Reaches (start context plan cancelled) events t)
    (finished : t.finished = true)
    (distinct : (plan.map fun entry => entry.cell.label).Nodup) {i : Nat} {task : Task}
    (found : t.tasks[i]? = some task) (silent : t.reported i = []) :
    task.status = .panicked ∧ ∃ clock, recovered clock task.cell ∈ t.results.results := by
  obtain ⟨skipped, ran, perm, -, length, settled⟩ :=
    (accounts_of_finished run finished (.inl distinct)).settled
  have inside : i < ran.length := by
    rw [length]
    exact (List.getElem?_eq_some_iff.mp found).1
  have at_ : ran[i]? = some ran[i] := List.getElem?_eq_getElem inside
  -- A task that handed in nothing is lost, and the result at its place is the one made up for it.
  rcases settled i task _ found at_ with reported | ⟨lost, clock, made⟩
  · have once := reported.once
    rw [silent] at once
    cases once
  · refine ⟨lost.panicked, clock, perm.mem_iff.mpr (List.mem_append_right _ ?_)⟩
    rw [← made]
    exact List.getElem_mem inside

end RunState

open RunState

namespace Catalog

variable {c : Catalog} {f : CellFilter} {plan : List PlannedCell}

/-- Two releases that share a slug, the second one for the given architecture. For the same one
their labels are the same, and for different ones they are told apart. -/
def twins (a : Architecture) : List Release :=
  [⟨"a-b", "c", [.x86_64], [.musl], "a-b:c", .apk, []⟩,
    ⟨"a", "b-c", [a], [.musl], "a:b-c", .apk, []⟩]

/-- The cell of root for a release of `twins`. -/
def twin (distribution version : String) (a : Architecture) : Cell :=
  ⟨distribution, version, a, .musl, .root⟩

/-- The filter that asks `twins` for the cells of root. -/
def rootOnly : CellFilter := { CellFilter.everything with identities := .root }

/-- The two releases make a catalog, since they differ in name and in version. -/
theorem ofList_twins (a : Architecture) : Catalog.ofList (twins a) = .ok ⟨twins a⟩ := by
  have passed : check [] (twins a) = .ok () := by cases a <;> decide +kernel
  rw [ofList, passed]

/-- Root is planned once for each of them, on the pair the release supports. -/
theorem plan_twins (a : Architecture) :
    (⟨twins a⟩ : Catalog).plan rootOnly
      = .ok [.run (twin "a-b" "c" .x86_64), .run (twin "a" "b-c" a)] := by
  cases a <;> decide +kernel

end Catalog

end InstallMatrix
