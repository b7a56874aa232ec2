import InstallMatrix.Archive.Name

/-!
# `InstallMatrix.Proofs.Archive.Name`: which file names name an archive

`ArchiveName.Spells` is the naming rule without a reader: a name, a hyphen, a word for the
architecture in any case of its letters, and the endings. A name may have hyphens in it, and
even endings, so a file name is taken apart from its end.

* `libcOf?_eq_some_iff`: what ends for musl does not end for glibc, although the one ending
  begins like the other.
* `Architecture.read_eq_ok_iff`: no word spells both architectures, and none has a hyphen.
* `read_eq_some_iff`: a file name is read just if it follows the rule, and what is read are
  the parts it was spelled from.

`read_exact` puts together what follows: the parts of a file name are no matter of choice,
its ending tells the C library, and what is written is read back.
-/

set_option autoImplicit false

namespace InstallMatrix

namespace Architecture

/-- A word is read as the one architecture it spells, in any case of its letters. No spelling is
that of two architectures. -/
theorem read_eq_ok_iff {word : String} {a : Architecture} :
    read word = .ok a ↔ Text.lower word ∈ a.spellings := by
  have apart : Text.lower word ∈ x86_64.spellings → Text.lower word ∉ aarch64.spellings := by
    simp only [spellings, List.mem_cons, List.not_mem_nil, or_false]
    rintro (eq | eq | eq) <;> rw [eq] <;> decide
  unfold read all
  by_cases intel : Text.lower word ∈ x86_64.spellings
  · cases a <;> simp [List.find?, intel, apart intel]
  · by_cases arm : Text.lower word ∈ aarch64.spellings
    · cases a <;> simp [List.find?, intel, arm]
    · cases a <;> simp [List.find?, intel, arm]

/-- No spelling has a hyphen in it, in whatever case it is written. -/
theorem hyphen_not_mem_of_spells {word : String} {a : Architecture}
    (spells : Text.lower word ∈ a.spellings) : '-' ∉ word.toList := by
  intro mem
  have lowered : '-' ∈ (Text.lower word).toList := by
    rw [Text.lower, String.toList_ofList]
    exact List.mem_map.mpr ⟨'-', mem, by decide⟩
  have plain : ∀ s ∈ a.spellings, '-' ∉ s.toList := by cases a <;> decide
  exact plain _ spells lowered

/-- The name of an architecture is one of its spellings. -/
theorem lower_name_mem_spellings (a : Architecture) : Text.lower a.name ∈ a.spellings := by
  cases a <;> decide +kernel

end Architecture

namespace ArchiveName

/-- The file name is made of the parts: the name, which is not empty, a word for the
architecture in any case of its letters, and the endings. -/
def Spells (a : ArchiveName) (fileName : String) : Prop :=
  a.name ≠ "" ∧ ∃ word, Text.lower word ∈ a.architecture.spellings ∧
    fileName = a.name ++ "-" ++ word ++ a.libc.archiveSuffix ++ ".zip"

/-! ### Reading from the end -/

/-- The two endings differ in their last letter. So no stem ends in both, whatever stands before.
-/
theorem append_musl_ne_append_glibc (stem stem' : List Char) :
    stem ++ Libc.musl.archiveSuffix.toList ≠ stem' ++ Libc.glibc.archiveSuffix.toList := by
  intro eq
  have last := congrArg List.getLast? eq
  have ends : Libc.musl.archiveSuffix.toList.getLast? = some 'l' ∧
      Libc.glibc.archiveSuffix.toList.getLast? = some 'x' := by decide
  simp [ends] at last

/-- A stem ends for one C library at most. The two endings are tried in an order, and it does not
matter because no stem has both. -/
theorem libcOf?_eq_some_iff {stem rest : List Char} {l : Libc} :
    libcOf? stem = some (l, rest) ↔ stem = rest ++ l.archiveSuffix.toList := by
  unfold libcOf?
  -- The longer ending is tried first. A stem with it cannot be read as one without.
  cases musl : Text.before? Libc.musl.archiveSuffix.toList stem with
  | some before =>
    obtain rfl := Text.before?_eq_some_iff.mp musl
    cases l with
    | musl => simp [eq_comm]
    | glibc => simp [append_musl_ne_append_glibc]
  | none =>
    cases l with
    | musl =>
      have other : stem ≠ rest ++ Libc.musl.archiveSuffix.toList := by
        intro eq
        rw [Text.before?_eq_some_iff.mpr eq] at musl
        cases musl
      simp [other]
    | glibc => simp [Text.before?_eq_some_iff]

/-- Behind the parts, the rule that cuts off the endings and then looks for the last hyphen. What
comes behind that hyphen is the word for the architecture, which has no hyphen itself. -/
theorem read_eq_some_iff_chars {fileName : String} {a : ArchiveName} :
    read fileName = some a ↔ ∃ word : List Char, a.name ≠ "" ∧ '-' ∉ word ∧
      Architecture.read (String.ofList word) = .ok a.architecture ∧
      fileName.toList = a.name.toList ++ '-' :: word ++ a.libc.archiveSuffix.toList
        ++ ".zip".toList := by
  unfold read
  simp only [Option.bind_eq_bind, Option.bind_eq_some_iff, Text.before?_eq_some_iff]
  constructor
  · rintro ⟨stem, whole, ⟨l, rest⟩, ending, ⟨name, word⟩, cut, made⟩
    obtain ⟨rfl, free⟩ := Text.cutLast?_eq_some_iff.mp cut
    rw [libcOf?_eq_some_iff.mp ending] at whole
    -- An archive without a name is refused before its architecture is looked at.
    cases name with
    | nil => simp at made
    | cons c name =>
      cases spelt : Architecture.read (String.ofList word) with
      | error e => simp [spelt] at made
      | ok architecture =>
        simp only [List.isEmpty_cons, Bool.false_eq_true, if_false, spelt,
          Option.some.injEq] at made
        subst made
        exact ⟨word, by simp [← String.toList_inj], free, spelt, by simpa using whole⟩
  · rintro ⟨word, named, free, spelt, whole⟩
    refine ⟨_, whole, (a.libc, a.name.toList ++ '-' :: word), libcOf?_eq_some_iff.mpr rfl,
      (a.name.toList, word), Text.cutLast?_eq_some_iff.mpr ⟨rfl, free⟩, ?_⟩
    have filled : a.name.toList ≠ [] := fun eq => named (by simpa using eq)
    simp [filled, spelt]

/-- A file name is read just if it follows the naming rule, and as the parts it is made of. -/
theorem read_eq_some_iff {fileName : String} {a : ArchiveName} :
    read fileName = some a ↔ a.Spells fileName := by
  rw [read_eq_some_iff_chars]
  constructor
  · rintro ⟨word, named, -, spelt, whole⟩
    refine ⟨named, String.ofList word, Architecture.read_eq_ok_iff.mp spelt, ?_⟩
    rw [← String.toList_inj, whole]
    simp
  · rintro ⟨named, word, spells, rfl⟩
    refine ⟨word.toList, named, Architecture.hyphen_not_mem_of_spells spells, ?_, by simp⟩
    rw [String.ofList_toList]
    exact Architecture.read_eq_ok_iff.mpr spells

/-- A file name is made of one choice of parts, since reading it gives one answer. Where the name
itself looks like an ending, the last hyphen and the last ending count. -/
theorem Spells.eq {fileName : String} {a b : ArchiveName} (first : a.Spells fileName)
    (second : b.Spells fileName) : a = b :=
  Option.some.inj ((read_eq_some_iff.mpr first).symm.trans (read_eq_some_iff.mpr second))

/-- A file name is one of musl just if it has the ending of musl. -/
theorem Spells.libc_eq_musl_iff {fileName : String} {a : ArchiveName}
    (spells : a.Spells fileName) :
    a.libc = .musl ↔ Text.endsWith fileName (Libc.musl.archiveSuffix ++ ".zip") := by
  obtain ⟨-, word, -, rfl⟩ := spells
  rw [Text.endsWith, Option.isSome_iff_exists]
  simp only [Text.before?_eq_some_iff, String.toList_append]
  cases a.libc with
  | musl => exact ⟨fun _ => ⟨_, (List.append_assoc _ _ _)⟩, fun _ => rfl⟩
  | glibc =>
    refine ⟨nofun, fun ⟨stem, eq⟩ => ?_⟩
    rw [← List.append_assoc stem] at eq
    exact absurd (List.append_cancel_right eq).symm (append_musl_ne_append_glibc stem _)

/-- What is written follows the naming rule. -/
theorem spells_written {a : ArchiveName} (named : a.name ≠ "") : a.Spells a.written :=
  ⟨named, a.architecture.name, a.architecture.lower_name_mem_spellings, rfl⟩

/-- **Archive names are read exactly by the naming rule.** A file name is read just if it
follows the rule, and as the parts it is made of, which are no matter of choice. It is taken
for musl just if it has the ending of musl, and what is written of a name that is not empty is
read back, whatever hyphens and endings the name has in it. -/
theorem read_exact :
    (∀ fileName (a : ArchiveName), read fileName = some a ↔ a.Spells fileName) ∧
    (∀ fileName (a b : ArchiveName), a.Spells fileName → b.Spells fileName → a = b) ∧
    (∀ fileName a, read fileName = some a →
      (a.libc = .musl ↔ Text.endsWith fileName (Libc.musl.archiveSuffix ++ ".zip"))) ∧
    ∀ a : ArchiveName, a.name ≠ "" → read a.written = some a :=
  ⟨fun _ _ => read_eq_some_iff, fun _ _ _ => Spells.eq,
    fun _ _ found => (read_eq_some_iff.mp found).libc_eq_musl_iff,
    fun _ named => read_eq_some_iff.mpr (spells_written named)⟩

/-- A name may look like an ending, and an architecture may be in capitals. -/
theorem read_exact_of_tangled_name :
    read "a-linux-musl-AMD64-linux-musl.zip" = some ⟨"a-linux-musl", .x86_64, .musl⟩ ∧
      read "x-aarch64-linux-musl-arm64-linux.zip" =
        some ⟨"x-aarch64-linux-musl", .aarch64, .glibc⟩ ∧
      read "musl-linux-x86_64-linux.zip" = some ⟨"musl-linux", .x86_64, .glibc⟩ :=
  ⟨(read_exact.1 _ _).mpr ⟨by decide, "AMD64", by decide, by decide⟩,
    (read_exact.1 _ _).mpr ⟨by decide, "arm64", by decide, by decide⟩,
    read_exact.2.2.2 ⟨"musl-linux", .x86_64, .glibc⟩ (by decide)⟩

end ArchiveName

end InstallMatrix
