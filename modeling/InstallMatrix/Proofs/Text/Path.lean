import InstallMatrix.Text.Path
import Mathlib.Data.String.Basic

/-!
# `InstallMatrix.Proofs.Text.Path`: the directory of a file that was found in one

The path of a file in a directory is the path of the directory with the name behind it, and
`parent` takes the name off again. What comes back is the path of the directory up to its
`Trail`, the separators and `.` components at its end (`parent_join`). A trail asks for no other
directory, and it has no other characters, so the two paths begin at the same place
(`isAbsolute_trimmed`) and differ in no character but `/` and `.` (`mem_trimmed_iff`).
-/

set_option autoImplicit false

namespace InstallMatrix.Path

/-! ### Trails -/

/-- Separators, each with a `.` behind it or without. This is what may stand at the end of the
path of a directory without making a difference. -/
inductive Trail : List Char → Prop
  | nil : Trail []
  | separator {s : List Char} : Trail s → Trail ('/' :: s)
  | here {s : List Char} : Trail s → Trail ('/' :: '.' :: s)

/-- Two trails, one behind the other, are a trail. -/
theorem Trail.append {s t : List Char} (first : Trail s) (second : Trail t) : Trail (s ++ t) := by
  induction first with
  | nil => exact second
  | separator _ ih => exact .separator ih
  | here _ ih => exact .here ih

/-- A trail has separators and dots in it, and no other character. -/
theorem Trail.eq_or_eq_of_mem {s : List Char} (trail : Trail s) :
    ∀ c ∈ s, c = '/' ∨ c = '.' := by
  induction trail with
  | nil => nofun
  | separator _ ih => exact List.forall_mem_cons.mpr ⟨.inl rfl, ih⟩
  | here _ ih =>
    exact List.forall_mem_cons.mpr ⟨.inl rfl, List.forall_mem_cons.mpr ⟨.inr rfl, ih⟩⟩

/-- A trail that is not empty begins with a separator. -/
theorem Trail.exists_cons {s : List Char} (trail : Trail s) (nonempty : s ≠ []) :
    ∃ rest, s = '/' :: rest := by
  cases trail with
  | nil => exact absurd rfl nonempty
  | separator => exact ⟨_, rfl⟩
  | here => exact ⟨_, rfl⟩

/-- What is taken off a directory path is a trail. The induction is that of `trimmedRev`, which
goes along the characters from the end. -/
theorem exists_trail (rev : List Char) :
    ∃ trail, Trail trail ∧ rev.reverse = (trimmedRev rev).reverse ++ trail := by
  fun_induction trimmedRev rev with
  | case1 s ih =>
    obtain ⟨trail, isTrail, whole⟩ := ih
    refine ⟨trail ++ ['/'], isTrail.append (.separator .nil), ?_⟩
    rw [List.reverse_cons, whole, List.append_assoc]
  | case2 s ih =>
    obtain ⟨trail, isTrail, whole⟩ := ih
    refine ⟨trail ++ ['/', '.'], isTrail.append (.here .nil), ?_⟩
    simp [whole]
  | case3 s => exact ⟨[], .nil, (List.append_nil _).symm⟩

/-! ### Directories without their trails -/

variable {dir name : String}

/-- The path of a directory without its trail. A path that is nothing but a trail leads to the
root. -/
def trimmed (dir : String) : String :=
  match trimmedRev dir.toList.reverse with
  | [] => if isAbsolute dir then "/" else ""
  | rev => String.ofList rev.reverse

/-- A path is absolute just if it begins with a separator. -/
theorem isAbsolute_iff : isAbsolute dir = true ↔ ∃ rest, dir.toList = '/' :: rest := by
  rw [isAbsolute, Text.startsWith, Option.isSome_iff_exists]
  exact exists_congr fun rest => Text.after?_eq_some_iff

/-- Only the beginning of a path tells whether it begins at the root. -/
theorem isAbsolute_append (nonempty : dir ≠ "") (rest : String) :
    isAbsolute (dir ++ rest) = isAbsolute dir := by
  obtain ⟨c, s, chars⟩ := List.exists_cons_of_ne_nil (mt String.toList_eq_nil_iff.mp nonempty)
  rw [Bool.eq_iff_iff, isAbsolute_iff, isAbsolute_iff, String.toList_append, chars]
  simp

/-- A trail is all of a path, or what is left of the path is not empty. -/
theorem trimmed_cases (nonempty : dir ≠ "") : ∃ trail, Trail trail ∧
    (trimmed dir = "/" ∧ isAbsolute dir = true ∧ dir = String.ofList trail ∨
      trimmed dir ≠ "" ∧ dir = trimmed dir ++ String.ofList trail) := by
  obtain ⟨trail, isTrail, whole⟩ := exists_trail dir.toList.reverse
  rw [List.reverse_reverse] at whole
  refine ⟨trail, isTrail, ?_⟩
  unfold trimmed
  cases kept : trimmedRev dir.toList.reverse with
  | nil =>
    -- Nothing but a trail is left, and a trail begins with a separator.
    rw [kept, List.reverse_nil, List.nil_append] at whole
    have absolute : isAbsolute dir = true := isAbsolute_iff.mpr
      (whole ▸ isTrail.exists_cons (whole ▸ mt String.toList_eq_nil_iff.mp nonempty))
    refine .inl ⟨if_pos absolute, absolute, ?_⟩
    rw [← whole, String.ofList_toList]
  | cons c rev =>
    refine .inr ⟨by simp, ?_⟩
    rw [← String.toList_inj, String.toList_append, String.toList_ofList, String.toList_ofList,
      ← kept]
    exact whole

/-- A path that is not empty is not trimmed to nothing: the root is kept. -/
theorem trimmed_ne_empty (nonempty : dir ≠ "") : trimmed dir ≠ "" := by
  obtain ⟨trail, -, ⟨root, -⟩ | ⟨kept, -⟩⟩ := trimmed_cases nonempty
  · rw [root]
    decide
  · exact kept

/-- Trimming keeps a path absolute or relative, since it takes from the end only. -/
theorem isAbsolute_trimmed (nonempty : dir ≠ "") : isAbsolute (trimmed dir) = isAbsolute dir := by
  obtain ⟨trail, -, ⟨root, absolute, -⟩ | ⟨kept, parts⟩⟩ := trimmed_cases nonempty
  · rw [root, absolute]
    rfl
  · calc isAbsolute (trimmed dir)
        = isAbsolute (trimmed dir ++ String.ofList trail) := (isAbsolute_append kept _).symm
      _ = isAbsolute dir := by rw [← parts]

/-- Apart from separators and dots, a trimmed path has the characters of the whole one. -/
theorem mem_trimmed_iff (nonempty : dir ≠ "") {c : Char} (noSeparator : c ≠ '/') (noDot : c ≠ '.') :
    c ∈ (trimmed dir).toList ↔ c ∈ dir.toList := by
  obtain ⟨trail, isTrail, cases⟩ := trimmed_cases nonempty
  have free : c ∉ trail := by
    intro mem
    exact (isTrail.eq_or_eq_of_mem c mem).elim noSeparator noDot
  obtain ⟨root, -, whole⟩ | ⟨-, parts⟩ := cases
  · rw [root, whole]
    simp [free, noSeparator]
  · calc c ∈ (trimmed dir).toList
        ↔ c ∈ (trimmed dir ++ String.ofList trail).toList := by simp [free]
      _ ↔ c ∈ dir.toList := by rw [← parts]

/-- The parent of a path is the trimmed directory if what stands before its last separator trims
to the same. -/
theorem parent_eq_trimmed {path : String} {left last : List Char}
    (cut : Text.cutLast? '/' path.toList = some (left, last))
    (same : trimmedRev left.reverse = trimmedRev dir.toList.reverse)
    (begins : isAbsolute path = isAbsolute dir) : parent path = trimmed dir := by
  cases kept : trimmedRev left.reverse with
  | nil => simp only [parent, trimmed, cut, ← same, kept, begins]
  | cons c rev => simp only [parent, trimmed, cut, ← same, kept]

/-- The directory of a file that was found in a directory is that directory, without its
trail. -/
theorem parent_join (nonempty : dir ≠ "") (single : '/' ∉ name.toList) :
    parent (join dir name) = trimmed dir := by
  have relative : isAbsolute name ≠ true := by
    intro absolute
    obtain ⟨rest, chars⟩ := isAbsolute_iff.mp absolute
    exact single (chars ▸ List.mem_cons_self)
  rw [join, if_neg relative]
  by_cases ended : Text.endsWith dir "/" = true
  · rw [if_pos (by simp [ended])]
    obtain ⟨left, cut⟩ := Option.isSome_iff_exists.mp ended
    have chars : dir.toList = left ++ ['/'] := Text.before?_eq_some_iff.mp cut
    have last : Text.cutLast? '/' (dir ++ name).toList = some (left, name.toList) :=
      Text.cutLast?_eq_some_iff.mpr ⟨by simp [chars], single⟩
    refine parent_eq_trimmed last ?_ (isAbsolute_append nonempty name)
    -- The separator that `dir` ends with belongs to its trail.
    rw [chars, List.reverse_append, List.reverse_singleton, List.singleton_append, trimmedRev]
  · rw [if_neg (by simp [ended, nonempty]), String.append_assoc]
    have last : Text.cutLast? '/' (dir ++ ("/" ++ name)).toList
        = some (dir.toList, name.toList) :=
      Text.cutLast?_eq_some_iff.mpr ⟨by simp, single⟩
    exact parent_eq_trimmed last rfl (isAbsolute_append nonempty _)

end InstallMatrix.Path
