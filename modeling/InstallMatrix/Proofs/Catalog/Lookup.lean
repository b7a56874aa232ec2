import InstallMatrix.Proofs.Catalog.Label

/-!
# `InstallMatrix.Proofs.Catalog.Lookup`: a release is found as it was entered

Three notions of one and the same release meet here: a catalog is checked for releases that
are called the same (`Release.Same`), a release is looked up under a name in any case of its
letters, and a planned cell carries name and version of its release as they were entered.

* `check_eq_error_iff`: what is refused is the earliest release that breaks a rule, and as a
  repetition if it is one (`Blames`). `ofList_eq_ok_iff` says when nothing is refused.
* `find?_of_mem_planRelease`: a planned cell leads back to the release it was planned for, and
  to no other, since no two of them are called the same.
* `blamed_step`: a cell whose release is found never fails for want of a release, so a build
  error is what a build was answered with.

`lookup_agrees` puts these together.
-/

set_option autoImplicit false

namespace InstallMatrix

/-- The two are one release: their names differ at most in the case of ASCII letters, and
their versions do not differ. -/
def Release.Same (a b : Release) : Prop :=
  Text.lower a.name = Text.lower b.name ∧ a.version = b.version

/-- A release is called by its name, in any case of the letters, and by its very version. -/
theorem Release.isCalled_iff {r : Release} {name version : String} :
    r.isCalled name version = true ↔
      Text.lower r.name = Text.lower name ∧ r.version = version := by
  simp only [isCalled, Text.sameLetters, Bool.and_eq_true, beq_iff_eq]

namespace Catalog

/-! ### What is refused -/

/-- The release was there before. -/
def Repeats (before : List Release) (r : Release) : Prop := ∃ b ∈ before, b.Same r

/-- The release was there before, or it supports nothing. These are the two rules for a catalog.
-/
def Breaks (before : List Release) (r : Release) : Prop :=
  Repeats before r ∨ r.architectures = [] ∨ r.libcs = []

/-- The error names the earliest of the releases that breaks a rule, those of `before` being
before all of them. One that was there before is named for that, whatever it supports. -/
def Blames (before releases : List Release) (e : CatalogError) : Prop :=
  ∃ fine r rest, releases = fine ++ r :: rest ∧
    (∀ earlier q later, fine = earlier ++ q :: later → ¬ Breaks (before ++ earlier) q) ∧
    ((Repeats (before ++ fine) r ∧ e = .duplicate r.name r.version) ∨
      (¬ Repeats (before ++ fine) r ∧ (r.architectures = [] ∨ r.libcs = []) ∧
        e = .unsupported r.slug))

variable {c : Catalog} {f : CellFilter} {plan : List PlannedCell} {before releases : List Release}
  {r : Release} {e : CatalogError}

/-- The check finds a repetition just if there is one. -/
theorem repeats_iff : (before.any fun b => b.isCalled r.name r.version) = true ↔
    Repeats before r := by
  simp only [List.any_eq_true, Release.isCalled_iff, Repeats, Release.Same]

/-- The first release breaks a rule, and is named. If it breaks both, the repetition is what is
said. -/
theorem blames_cons_of_breaks (breaks : Breaks before r) :
    Blames before (r :: releases) e ↔
      (Repeats before r ∧ e = .duplicate r.name r.version) ∨
        (¬ Repeats before r ∧ (r.architectures = [] ∨ r.libcs = []) ∧ e = .unsupported r.slug) := by
  constructor
  · intro ⟨fine, q, rest, split, passed, named⟩
    cases fine with
    | nil =>
      obtain ⟨rfl, -⟩ := List.cons.inj split
      rwa [List.append_nil] at named
    | cons x fine =>
      -- The release itself would be one of those that break no rule.
      obtain ⟨rfl, -⟩ := List.cons.inj split
      refine absurd ?_ (passed [] r fine rfl)
      rwa [List.append_nil]
  · intro named
    refine ⟨[], r, releases, rfl, ?_, ?_⟩
    · intro earlier q later split
      cases earlier <;> cases split
    · rwa [List.append_nil]

/-- The first release breaks no rule, so the one that is named comes behind it. -/
theorem blames_cons_of_not_breaks (fine : ¬ Breaks before r) :
    Blames before (r :: releases) e ↔ Blames (before ++ [r]) releases e := by
  constructor
  · intro ⟨passed, q, rest, split, earlierFine, named⟩
    -- The release in front is sound, so the one that is blamed stands behind it.
    cases passed with
    | nil =>
      obtain ⟨rfl, -⟩ := List.cons.inj split
      rw [List.append_nil] at named
      refine absurd ?_ fine
      rcases named with ⟨again, -⟩ | ⟨-, empty, -⟩
      · exact .inl again
      · exact .inr empty
    | cons x passed =>
      obtain ⟨rfl, rfl⟩ := List.cons.inj split
      refine ⟨passed, q, rest, rfl, fun earlier y later eq => ?_, ?_⟩
      · have unbroken := earlierFine (r :: earlier) y later (by rw [eq, List.cons_append])
        rwa [List.append_assoc, List.singleton_append]
      · rwa [List.append_assoc, List.singleton_append]
  · intro ⟨passed, q, rest, split, earlierFine, named⟩
    rw [List.append_assoc, List.singleton_append] at named
    refine ⟨r :: passed, q, rest, by rw [split, List.cons_append], fun earlier y later eq => ?_,
      named⟩
    -- Nothing before the blamed release breaks a rule: neither the one in front nor one between.
    cases earlier with
    | nil =>
      obtain ⟨rfl, -⟩ := List.cons.inj eq
      rwa [List.append_nil]
    | cons x earlier =>
      obtain ⟨rfl, rfl⟩ := List.cons.inj eq
      have unbroken := earlierFine earlier y later rfl
      rwa [List.append_assoc, List.singleton_append] at unbroken

/-- The check names the earliest release that breaks a rule. The induction is on the releases that
are left, over all those that came before. -/
theorem check_eq_error_iff : check before releases = .error e ↔ Blames before releases e := by
  induction releases generalizing before with
  | nil =>
    refine ⟨nofun, ?_⟩
    intro ⟨fine, r, rest, split, _⟩
    simp at split
  | cons r rest ih =>
    unfold check
    -- A repeated name is looked for first, also in a release that supports nothing.
    by_cases again : Repeats before r
    · rw [if_pos (repeats_iff.mpr again), blames_cons_of_breaks (.inl again), Except.error.injEq]
      constructor
      · intro same
        exact .inl ⟨again, same.symm⟩
      · rintro (⟨_, same⟩ | ⟨new, _⟩)
        · exact same.symm
        · exact absurd again new
    rw [if_neg (mt repeats_iff.mp again)]
    by_cases empty : r.architectures = [] ∨ r.libcs = []
    · have none : (r.architectures.isEmpty || r.libcs.isEmpty) = true := by
        simpa only [Bool.or_eq_true, List.isEmpty_iff] using empty
      rw [if_pos none, blames_cons_of_breaks (.inr empty), Except.error.injEq]
      constructor
      · intro same
        exact .inr ⟨again, empty, same.symm⟩
      · rintro (⟨again', _⟩ | ⟨_, _, same⟩)
        · exact absurd again' again
        · exact same.symm
    · have some : ¬ (r.architectures.isEmpty || r.libcs.isEmpty) = true := by
        simpa only [Bool.or_eq_true, List.isEmpty_iff] using empty
      have fine : ¬ Breaks before r := not_or.mpr ⟨again, empty⟩
      rw [if_neg some, ih, blames_cons_of_not_breaks fine]

/-- A catalog is refused just for the first release that breaks a rule, and with its error. -/
theorem ofList_eq_error_iff : ofList releases = .error e ↔ Blames [] releases e := by
  rw [← check_eq_error_iff]
  unfold ofList
  cases check [] releases with
  | ok => exact ⟨nofun, nofun⟩
  | error e' => rw [Except.error.injEq, Except.error.injEq]

/-- Nothing is refused if no release is there twice and each supports something. -/
theorem ofList_eq_ok_iff : ofList releases = .ok ⟨releases⟩ ↔
    (releases.Pairwise fun a b => ¬ a.Same b) ∧
      ∀ r ∈ releases, r.architectures ≠ [] ∧ r.libcs ≠ [] := by
  have distinct : (releases.Pairwise fun a b => ¬ a.Same b) ↔
      releases.Pairwise fun a b => a.isCalled b.name b.version = false := by
    refine List.pairwise_iff_getElem.trans (Iff.trans ?_ List.pairwise_iff_getElem.symm)
    simp only [Release.Same, ← Release.isCalled_iff, Bool.not_eq_true]
  have passes : check [] releases = .ok () ↔ Valid releases := by
    rw [check_eq_ok_iff]
    exact and_iff_right nofun
  rw [distinct]
  unfold ofList
  constructor
  · intro made
    split at made
    · next passed =>
      have valid := passes.mp passed
      exact ⟨valid.distinct, valid.supported⟩
    · cases made
  · intro ⟨apart, supported⟩
    rw [passes.mpr ⟨apart, supported⟩]

/-! ### Planned cells lead back to their releases -/

/-- What is planned for a release is run just if the release supports the pair. -/
theorem isRun_entryFor {a : Architecture} {l : Libc} {i : Identity} :
    (entryFor r a l i).isRun = r.supports a l := by
  unfold entryFor
  cases supported : r.supports a l <;> rfl

/-- What is planned for a release leads back to it when it is looked up, and it is to be run just
if the release supports its pair. -/
theorem find?_of_mem_planRelease (valid : Valid c.releases) (mem : r ∈ c.releases)
    {entry : PlannedCell} (planned : entry ∈ planRelease f r) :
    c.find? entry.cell.distribution entry.cell.version = some r ∧
      entry.isRun = r.supports entry.cell.architecture entry.cell.libc := by
  obtain ⟨a, -, l, -, i, -, rfl⟩ := mem_planRelease_iff.mp planned
  rw [cell_entryFor]
  exact ⟨valid.find?_eq_some mem (Release.isCalled_iff.mpr ⟨rfl, rfl⟩), isRun_entryFor⟩

/-- Everything that is planned is planned for some release of the catalog. -/
theorem exists_mem_planRelease (planned : c.plan f = .ok plan) {entry : PlannedCell}
    (mem : entry ∈ plan) : ∃ r ∈ c.releases, entry ∈ planRelease f r := by
  rw [(plan_eq_ok_iff.mp planned).2] at mem
  obtain ⟨r, selected, mem⟩ := List.mem_flatMap.mp mem
  exact ⟨r, (List.mem_filter.mp selected).1, mem⟩

end Catalog

/-! ### Cells whose release is found -/

namespace Pipeline

open CellProgram

variable {ctx : RunContext} {p p' : Pipeline} {before ds : List Deed} {r : Release}

/-- If the cell has failed to get its image, the gateway was asked for the image of the release
and answered with an error. -/
def Blamed (ctx : RunContext) (r : Release) (p : Pipeline) (ds : List Deed) : Prop :=
  ∀ failure container, p.state = .failed failure container → failure.kind = .buildError →
    ∃ e, .called (.build (definitionOf ctx p.cell r)) (.error e) ∈ ds

/-- The failures that are not of the build say so by their kinds. Only a failure of the build
could be about a release that is missing in the catalog. -/
theorem blamed_of_kind {kind : FailureKind} {stage : Stage} {message : String}
    {diagnostics : Option String} {container : Option Container} (other : kind ≠ .buildError) :
    Blamed ctx r (p.failWith kind stage message diagnostics container) ds := by
  intro failure _ state isBuild
  rw [failWith_state] at state
  cases state
  exact absurd isBuild other

/-- One step of a cell whose release is found. The step that fails for want of a release is not
among those it may take. -/
theorem blamed_step (found : ctx.catalog.find? p.cell.distribution p.cell.version = some r)
    (h : Blamed ctx r p before) (step : Advances ctx p ds p') :
    Blamed ctx r p' (before ++ ds) := by
  -- Only a build fails with a word about the release. Every other step fails with another kind.
  cases step with
  | aborted unfinished => exact blamed_of_kind nofun
  | resolved stands =>
    unfold resolve
    split
    · intro failure container state
      cases state
    · next e _ => cases e <;> exact blamed_of_kind nofun
  | uncatalogued stands absent =>
    rw [found] at absent
    cases absent
  | @built artifact release stands known reply =>
    -- The release that is built from is the one the catalog finds.
    rw [found] at known
    cases known
    cases reply with
    | ok image =>
      intro failure container state
      cases state
    | error e =>
      intro _ _ _ _
      rw [afterBuild_cell]
      exact ⟨e, List.mem_append_right _ List.mem_cons_self⟩
  | @started artifact image stands reply =>
    cases reply with
    | ok container =>
      intro failure container state
      cases state
    | error e =>
      refine blamed_of_kind ?_
      split <;> nofun
  | @phase i artifact container _ records ending stands own run =>
    cases ending with
    | passed =>
      intro failure container state
      cases i <;> cases state
    | exited name code =>
      refine blamed_of_kind ?_
      cases i <;> nofun
    | undispatched name error logs =>
      refine blamed_of_kind ?_
      split <;> nofun
  | @passedThrough i artifact container stands other =>
    intro failure container state
    cases i <;> cases state
  | completed stands =>
    intro failure container state
    cases state
  | stayed terminal => rwa [List.append_nil]

/-- A cell whose release is found fails to get its image only if a build is answered with an
error, in whatever way it goes. -/
theorem blamed_of_advanceTimes {cell : Cell} {clock n : Nat}
    (found : ctx.catalog.find? cell.distribution cell.version = some r)
    (steps : Does (advanceTimes ctx n (create cell clock)) ds p) : Blamed ctx r p ds := by
  have kept : p.cell = cell ∧ Blamed ctx r p ([] ++ ds) :=
    advanceTimes_invariant (fun q done => q.cell = cell ∧ Blamed ctx r q done)
      (fun {q q' before ds} holds step => by
        obtain ⟨own, blamed⟩ := holds
        subst own
        exact ⟨step.cell_eq, blamed_step found blamed step⟩)
      ⟨rfl, fun _ _ state => by cases state⟩ steps
  exact kept.2

end Pipeline

namespace Catalog

open CellProgram Pipeline

variable {c : Catalog} {f : CellFilter} {plan : List PlannedCell}

/-- In a valid catalog a planned cell leads back to one release, the one it was planned for. So a
run never finds that the release of a planned cell is not in the catalog. -/
theorem exists_release_of_mem_plan (valid : Valid c.releases) (planned : c.plan f = .ok plan)
    {entry : PlannedCell} (mem : entry ∈ plan) :
    ∃ r ∈ c.releases, entry ∈ planRelease f r ∧
      (∀ q ∈ c.releases, entry ∈ planRelease f q → q = r) ∧
      c.find? entry.cell.distribution entry.cell.version = some r ∧
      (entry.isRun = true ↔
        entry.cell.architecture ∈ r.architectures ∧ entry.cell.libc ∈ r.libcs) := by
  obtain ⟨r, isRelease, made⟩ := exists_mem_planRelease planned mem
  obtain ⟨found, run⟩ := find?_of_mem_planRelease valid isRelease made
  refine ⟨r, isRelease, made, ?_, found, ?_⟩
  · intro q isRelease' made'
    obtain ⟨found', -⟩ := find?_of_mem_planRelease valid isRelease' made'
    exact Option.some.inj (found'.symm.trans found)
  · rw [run, supports_iff]

/-- **Checking and looking up agree on what one release is.** A list of releases is accepted
just if no two of them are the same and each supports something, and otherwise the earliest
one that breaks a rule is named. In an accepted catalog each release is found under its name
in any case of the letters, and each planned cell leads back to the one release it was planned
for, so that it never fails for want of a release. -/
theorem lookup_agrees :
    (∀ releases,
      (ofList releases = .ok ⟨releases⟩ ↔ (releases.Pairwise fun a b => ¬ a.Same b) ∧
        ∀ r ∈ releases, r.architectures ≠ [] ∧ r.libcs ≠ []) ∧
      ∀ e, ofList releases = .error e ↔ Blames [] releases e) ∧
    ∀ c, Accepted c →
      (∀ r ∈ c.releases, ∀ name, Text.lower name = Text.lower r.name →
        c.find? name r.version = some r) ∧
      ∀ f plan, c.plan f = .ok plan → ∀ entry ∈ plan, ∃ r ∈ c.releases,
        (entry ∈ planRelease f r ∧ ∀ q ∈ c.releases, entry ∈ planRelease f q → q = r) ∧
        c.find? entry.cell.distribution entry.cell.version = some r ∧
        (entry.isRun = true ↔
          entry.cell.architecture ∈ r.architectures ∧ entry.cell.libc ∈ r.libcs) ∧
        ∀ ctx clock n ds p, ctx.catalog = c →
          Does (advanceTimes ctx n (create entry.cell clock)) ds p → Blamed ctx r p ds := by
  refine ⟨fun releases => ⟨ofList_eq_ok_iff, fun e => ofList_eq_error_iff⟩, ?_⟩
  intro c accepted
  constructor
  · intro r isRelease name same
    exact accepted.valid.find?_eq_some isRelease (Release.isCalled_iff.mpr ⟨same.symm, rfl⟩)
  · intro f plan planned entry mem
    obtain ⟨r, isRelease, made, only, found, run⟩ :=
      exists_release_of_mem_plan accepted.valid planned mem
    refine ⟨r, isRelease, ⟨made, only⟩, found, run, ?_⟩
    intro ctx clock n ds p own steps
    subst own
    -- The catalog of the run is the one that was planned from, so the search cannot fail again.
    exact blamed_of_advanceTimes found steps

/-- A repetition is named as one although it supports nothing either. A cell that was planned for
a release finds it, also under a name in other letters, and where its build is answered with an
error, the build is what its failure is about. -/
theorem lookup_agrees_of_failed_build :
    let again : Release := { Sample.release with name := "ALPINE", libcs := [] }
    ofList [Sample.release, again] = .error (.duplicate "ALPINE" "3.19") ∧
      Sample.context.catalog.find? "Alpine" "3.19" = some Sample.release ∧
      ∃ ds p failure, Does (advanceTimes Sample.context 2 (create Sample.cell 0)) ds p ∧
        p.state = .failed failure none ∧ failure.kind = .buildError ∧
        ∃ e, .called (.build (definitionOf Sample.context p.cell Sample.release)) (.error e)
          ∈ ds := by
  have passed : check [] [Sample.release] = .ok () := by decide +kernel
  have accepted : Accepted Sample.context.catalog := by
    have made : ofList [Sample.release] = .ok Sample.context.catalog := by rw [ofList, passed]; rfl
    exact .ofList made
  obtain ⟨finds, leadsBack⟩ := lookup_agrees.2 _ accepted
  refine ⟨?_, finds _ List.mem_cons_self _ (by decide +kernel), ?_⟩
  · refine ((lookup_agrees.1 _).2 _).mpr ⟨[Sample.release], _, [], rfl, ?_, .inl ⟨?_, rfl⟩⟩
    · intro earlier q later split
      cases earlier with
      | nil =>
        cases split
        rintro (⟨b, mem, -⟩ | none | none)
        · cases mem
        · cases none
        · cases none
      | cons x earlier => cases earlier <;> cases split
    · exact ⟨Sample.release, List.mem_cons_self, by decide +kernel, rfl⟩
  · have planned : Sample.context.catalog.plan { CellFilter.everything with identities := .root }
        = .ok [.run Sample.cell] := by decide +kernel
    obtain ⟨r, -, -, found, -, blamed⟩ :=
      leadsBack _ _ planned (.run Sample.cell) List.mem_cons_self
    have known : Sample.context.catalog.find? Sample.cell.distribution Sample.cell.version
        = some Sample.release := finds _ List.mem_cons_self _ rfl
    obtain rfl : r = Sample.release := Option.some.inj (found.symm.trans known)
    -- The cell after its archive was chosen, and after the build that failed.
    let p₁ := (create Sample.cell 0).resolve Sample.context
    let p₂ := p₁.afterBuild Sample.artifact (.error (.timeout "build"))
    have chosen : p₁.state = .artifactResolved Sample.artifact :=
      resolve_state_of_ok Sample.archiveOf_cell
    have own : p₁.cell = Sample.cell := resolve_cell _ _
    have first : Advances Sample.context (create Sample.cell 0) [] p₁ := .resolved rfl
    have second : Advances Sample.context p₁ _ p₂ := .built chosen (own ▸ known) _
    have last := Advances.does_advanceTimes (n := 0) second (does_pure.mpr ⟨rfl, rfl⟩)
    have steps := first.does_advanceTimes last
    exact ⟨_, p₂, _, steps, rfl, rfl, blamed _ _ _ _ _ rfl steps _ _ rfl rfl⟩

end Catalog

end InstallMatrix
