import InstallMatrix.Command.FileTree
import InstallMatrix.Proofs.Text.Path
import InstallMatrix.Proofs.Text.Utf8

/-!
# `InstallMatrix.Proofs.Command.FileTree`: paths that lead to one directory

A path is read as a place to begin at and the names to walk along. The trail of a path
(`Path.Trail`) adds only names that stay where they are (`names_trail`), and a walk does not leave
a directory for them (`walk_append`, `of_walk_stay`). So a directory is found without its trail as
it is found with it (`find_trimmed`).

Where paths begin that are not absolute matters to those alone (`find_of_absolute`).
-/

set_option autoImplicit false

namespace InstallMatrix.FileTree

open InstallMatrix.Path (Trail trimmed)
open Text (Octets)
open Text.Utf8 (encode)

/-! ### Names -/

/-- A separator ends the name that was begun. What follows it is read afresh, so a path can be cut
at any separator. -/
theorem namesFrom_append_separator (acc x y : Octets) :
    namesFrom acc (x ++ 47 :: y) = namesFrom acc x ++ namesFrom [] y := by
  induction x generalizing acc with
  | nil => cases acc <;> simp [namesFrom]
  | cons b x ih =>
    rw [List.cons_append, namesFrom, namesFrom, ih, ih]
    split_ifs <;> rfl

/-- The names of two paths with a separator between them are those of the first and of the second.
-/
theorem names_append_separator (x y : Octets) : names (x ++ 47 :: y) = names x ++ names y :=
  namesFrom_append_separator [] x y

/-- A separator at the beginning is no name. -/
theorem names_separator (y : Octets) : names (47 :: y) = names y :=
  names_append_separator [] y

/-- A text is encoded one character after the other. -/
theorem encode_ofList_cons (c : Char) (s : List Char) :
    encode (String.ofList (c :: s)) = String.utf8EncodeChar c ++ encode (String.ofList s) := by
  simp [encode]

/-- What begins with a separator is walked after what stands before it. -/
theorem names_append_trail {s : List Char} (trail : Trail s) (x : Octets) :
    names (x ++ encode (String.ofList s)) = names x ++ names (encode (String.ofList s)) := by
  by_cases nonempty : s = []
  · subst nonempty
    have nothing : encode (String.ofList []) = [] := rfl
    have nameless : names [] = [] := rfl
    rw [nothing, nameless, List.append_nil, List.append_nil]
  · obtain ⟨rest, rfl⟩ := trail.exists_cons nonempty
    have octets : encode (String.ofList ('/' :: rest)) = 47 :: encode (String.ofList rest) :=
      encode_ofList_cons '/' rest
    rw [octets, names_append_separator, names_separator]

/-- The names of a trail stay where they are. A trail consists of separators, some of them with a
dot behind, and only the dots are names. -/
theorem names_trail {s : List Char} (trail : Trail s) :
    ∃ k, names (encode (String.ofList s)) = List.replicate k stay := by
  induction trail with
  | nil => exact ⟨0, rfl⟩
  | @separator s _ ih =>
    obtain ⟨k, names⟩ := ih
    refine ⟨k, ?_⟩
    rw [← names]
    exact (congrArg _ (encode_ofList_cons '/' s)).trans (names_separator _)
  | @here s trail ih =>
    obtain ⟨k, names⟩ := ih
    refine ⟨k + 1, ?_⟩
    have octets : encode (String.ofList ('/' :: '.' :: s))
        = 47 :: ([46] ++ encode (String.ofList s)) := by
      rw [encode_ofList_cons, encode_ofList_cons]
      rfl
    rw [octets, names_separator, names_append_trail trail, names, List.replicate_succ]
    rfl

/-! ### Walks -/

variable (t : FileTree)

/-- A walk along two lists of names goes along the first, and on from where that led. If the first
part fails, so does the whole. -/
theorem walk_append (xs ys : List Octets) (place : Place) (e : Entry) :
    t.walk place e (xs ++ ys) = t.walk place e xs >>= fun found => t.walk found.1 found.2 ys := by
  induction xs generalizing place e with
  | nil => rfl
  | cons name xs ih =>
    simp only [List.cons_append, walk, ih]
    -- The ways to fail are the same on both sides. What is left is an entry that was found.
    split_ifs <;> try rfl
    cases t.lookup (place ++ [name]) with
    | none => rfl
    | some e =>
      cases seen : followed e with
      | error reason =>
        simp only [seen]
        rfl
      | ok e => simp only [seen]

/-- Names that stay lead nowhere else. -/
theorem of_walk_stay (k : Nat) (place : Place) (e : Entry) {found : Place × Entry}
    (walks : t.walk place e (List.replicate k stay) = .ok found) : found = (place, e) := by
  induction k with
  | zero => exact (Except.ok.inj walks).symm
  | succ k ih =>
    rw [List.replicate_succ, walk] at walks
    split_ifs at walks with noDirectory same
    · exact ih walks
    all_goals exact absurd rfl same

/-! ### Directories -/

variable {t} {here start : Place} {path dir : String} {place : Place} {steps : List Octets}

/-- A path can be followed just if it is not empty, not too long and without a zero octet. It
starts at the root if it is absolute and here otherwise. -/
theorem readPath_eq_ok_iff : readPath here path = .ok (start, steps) ↔
    0 ∉ encode path ∧ encode path ≠ [] ∧ (encode path).length ≤ pathLimit ∧
      start = (if Path.isAbsolute path then [] else here) ∧ steps = namesOf path := by
  simp only [readPath, List.contains_iff_mem, List.isEmpty_iff, namesOf]
  generalize (if Path.isAbsolute path then [] else here) = beginning
  split_ifs with nul nothing long
  · simp [nul]
  · simp [nothing]
  · simp [long]
  · simp [nul, nothing, Nat.le_of_not_lt long, eq_comm]

/-- A path leads to a directory if the walk along its names does. The path has to be one that can
be followed at all. -/
theorem find_eq_directory_iff : t.find here path = .ok (place, .directory) ↔
    ∃ start steps, readPath here path = .ok (start, steps) ∧
      t.walk start .directory steps = .ok (place, .directory) := by
  unfold find
  cases begun : readPath here path with
  | error reason => simp
  | ok begin =>
    obtain ⟨start, steps⟩ := begin
    cases walks : t.walk start .directory steps with
    | error reason => simp [walks]
    | ok found =>
      obtain ⟨there, e⟩ := found
      by_cases directory : e = .directory
      · simp [walks, directory]
      · by_cases ended : Text.endsWith path "/" = true <;> simp [walks, directory, ended]

/-- Trimming a path takes octets off its end only. -/
theorem encode_trimmed_prefix (nonempty : dir ≠ "") : encode (trimmed dir) <+: encode dir := by
  obtain ⟨trail, -, ⟨root, absolute, -⟩ | ⟨-, parts⟩⟩ := Path.trimmed_cases nonempty
  · obtain ⟨rest, chars⟩ := Path.isAbsolute_iff.mp absolute
    refine ⟨encode (String.ofList rest), ?_⟩
    rw [root, ← Text.Utf8.encode_append, Text.Utf8.encode_inj, ← String.toList_inj, chars]
    simp
  · refine ⟨encode (String.ofList trail), ?_⟩
    rw [← Text.Utf8.encode_append, ← parts]

/-- The names of a path are those of the trimmed path, and then some that stay where they are.
Trimming does not change where a path leads. -/
theorem exists_namesOf_eq (nonempty : dir ≠ "") :
    ∃ k, namesOf dir = namesOf (trimmed dir) ++ List.replicate k stay := by
  obtain ⟨trail, isTrail, cases⟩ := Path.trimmed_cases nonempty
  obtain ⟨k, stays⟩ := names_trail isTrail
  refine ⟨k, ?_⟩
  obtain ⟨root, -, whole⟩ | ⟨-, parts⟩ := cases
  · rw [root, namesOf, whole, stays]
    rfl
  · calc namesOf dir
        = names (encode (trimmed dir ++ String.ofList trail)) := by rw [← parts, namesOf]
      _ = namesOf (trimmed dir) ++ names (encode (String.ofList trail)) := by
        rw [Text.Utf8.encode_append, names_append_trail isTrail, namesOf]
      _ = namesOf (trimmed dir) ++ List.replicate k stay := by rw [stays]

/-- Nothing is found at the empty path. -/
theorem ne_empty_of_find {found : Place × Entry} (finds : t.find here dir = .ok found) :
    dir ≠ "" := by
  rintro rfl
  cases finds

/-- A directory is found without its trail as it is found with it. The limit on the length of a
path is kept, for the trimmed path is no longer than the whole one. -/
theorem find_trimmed (found : t.find here dir = .ok (place, .directory)) :
    t.find here (trimmed dir) = .ok (place, .directory) := by
  have nonempty := ne_empty_of_find found
  obtain ⟨start, steps, begun, walks⟩ := find_eq_directory_iff.mp found
  obtain ⟨noNul, -, short, rfl, rfl⟩ := readPath_eq_ok_iff.mp begun
  obtain ⟨k, more⟩ := exists_namesOf_eq nonempty
  have shorter := encode_trimmed_prefix nonempty
  have given : encode (trimmed dir) ≠ encode "" :=
    mt Text.Utf8.encode_inj.mp (Path.trimmed_ne_empty nonempty)
  refine find_eq_directory_iff.mpr ⟨_, _, readPath_eq_ok_iff.mpr
    ⟨fun nul => noNul (shorter.subset nul), given, shorter.length_le.trans short, rfl, rfl⟩, ?_⟩
  -- The walk along `dir` comes by the end of the walk along the shorter path, and stays there.
  rw [Path.isAbsolute_trimmed nonempty]
  rw [more, walk_append] at walks
  cases reached : t.walk (if Path.isAbsolute dir then [] else here) .directory
      (namesOf (trimmed dir)) with
  | error reason =>
    rw [reached] at walks
    cases walks
  | ok last =>
    rw [reached] at walks
    rw [of_walk_stay t k last.1 last.2 walks]

/-- An absolute path leads from everywhere to the same place, since it starts at the root. -/
theorem find_of_absolute (absolute : Path.isAbsolute dir = true) (elsewhere : Place) :
    t.find elsewhere dir = t.find here dir := by
  simp only [find, readPath, absolute, if_true]

/-- Only directories are listed, and what is listed are their entries. A path that leads to a file
has no listing. -/
theorem list_eq_ok_iff {entries : List DirectoryEntry} : t.list here dir = .ok entries ↔
    ∃ place, t.find here dir = .ok (place, .directory) ∧ entries = t.children place := by
  unfold list
  cases t.find here dir with
  | error reason => simp
  | ok found =>
    obtain ⟨place, e⟩ := found
    cases e <;> simp [eq_comm]

end InstallMatrix.FileTree
