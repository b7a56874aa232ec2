import InstallMatrix.Text.Basic
import Mathlib.Data.List.DropRight

/-!
# `InstallMatrix.Proofs.Text.Lines`: lines and blanks

A text splits at each of its line feeds (`linesFrom_append_feed`), and whatever is known of the
lines of a text made from parts follows from that. `Finished` texts are made of complete lines,
so that the lines of what follows them are its own (`lines_append`). Every text is a finished one
with an unfinished line behind it (`finished_append_unfinished`).

`trim_append` says what is left of a text whose end is free of blanks.
-/

set_option autoImplicit false

namespace InstallMatrix.Text

/-! ### Lines -/

/-- A line without a carriage return at its end. One return is dropped, so that of two the first
one stays. -/
def withoutReturn (line : List Char) : List Char :=
  if line.getLast? = some '\r' then line.dropLast else line

/-- A line feed ends the current line. What was gathered of it comes out in order, without the
return before the feed. -/
theorem linesFrom_feed (acc rest : List Char) :
    linesFrom acc ('\n' :: rest) = withoutReturn acc.reverse :: linesFrom [] rest := by
  cases acc with
  | nil => rfl
  | cons c acc =>
    rw [withoutReturn, List.getLast?_reverse, List.dropLast_reverse, List.head?_cons,
      List.tail_cons]
    by_cases carriage : c = '\r'
    · subst carriage
      rfl
    · simp [linesFrom, carriage]

/-- Any other character belongs to it. -/
theorem linesFrom_cons {c : Char} (other : c ≠ '\n') (acc rest : List Char) :
    linesFrom acc (c :: rest) = linesFrom (c :: acc) rest := if_neg other

/-- Characters that end no line belong to the current one. They are gathered in reverse, which is
how the reader keeps them. -/
theorem linesFrom_append {body : List Char} (free : '\n' ∉ body) (acc rest : List Char) :
    linesFrom acc (body ++ rest) = linesFrom (body.reverse ++ acc) rest := by
  induction body generalizing acc with
  | nil => rfl
  | cons c body ih =>
    obtain ⟨other, free⟩ := List.ne_and_not_mem_of_not_mem_cons free
    rw [List.cons_append, linesFrom_cons (Ne.symm other), ih free, List.reverse_cons,
      List.append_assoc]
    rfl

/-- A text splits at each line feed: what stands behind it is read as a text of its own. -/
theorem linesFrom_append_feed (acc body rest : List Char) :
    linesFrom acc (body ++ '\n' :: rest) = linesFrom acc (body ++ ['\n']) ++ linesFrom [] rest := by
  induction body generalizing acc with
  | nil => rfl
  | cons c body ih =>
    by_cases feed : c = '\n'
    · subst feed
      rw [List.cons_append, List.cons_append, linesFrom_feed, linesFrom_feed, ih, List.cons_append]
    · rw [List.cons_append, List.cons_append, linesFrom_cons feed, linesFrom_cons feed, ih]

/-- A line stands in its text: it is cut out of it and never made up. The induction is over the
characters still to be read. -/
theorem infix_of_mem_linesFrom {line acc s : List Char} (mem : line ∈ linesFrom acc s) :
    line <:+: acc.reverse ++ s := by
  induction s generalizing acc with
  | nil =>
    rw [linesFrom] at mem
    split at mem
    · cases mem
    · rw [List.mem_singleton.mp mem]
      exact (List.prefix_append _ _).isInfix
  | cons c s ih =>
    by_cases feed : c = '\n'
    · subst feed
      rw [linesFrom_feed] at mem
      rcases List.mem_cons.mp mem with rfl | later
      · -- A line may lose the carriage return at its end.
        have start : withoutReturn acc.reverse <+: acc.reverse := by
          rw [withoutReturn]
          split
          · exact List.dropLast_prefix _
          · exact List.prefix_refl _
        exact (start.trans (List.prefix_append _ _)).isInfix
      · exact (ih later).trans ⟨acc.reverse ++ ['\n'], [], by simp⟩
    · rw [linesFrom_cons feed] at mem
      have line := ih mem
      rwa [List.reverse_cons, List.append_assoc] at line

/-- A line stands in its text, as a text. -/
theorem infix_of_mem_lines {line s : String} (mem : line ∈ lines s) :
    line.toList <:+: s.toList := by
  obtain ⟨chars, known, rfl⟩ := List.mem_map.mp mem
  rw [String.toList_ofList]
  exact infix_of_mem_linesFrom known

/-- The text is empty or ends with a line feed. Behind such a text a new line begins. -/
def Finished (s : String) : Prop := ∀ c ∈ s.toList.getLast?, c = '\n'

/-- A finished text is empty or ends in a line feed. This is the form in which a text is taken
apart. -/
theorem Finished.eq {s : String} (h : Finished s) : s = "" ∨ ∃ body, s = body ++ "\n" := by
  rcases List.eq_nil_or_concat s.toList with none | ⟨body, c, chars⟩
  · exact .inl (String.toList_inj.mp none)
  · have feed : c = '\n' := h c (by simp [chars])
    refine .inr ⟨String.ofList body, String.toList_inj.mp ?_⟩
    rw [chars, feed, String.toList_append, String.toList_ofList, List.concat_eq_append]
    rfl

/-- A text is finished by a line feed. -/
theorem finished_feed (s : String) : Finished (s ++ "\n") := by
  intro c last
  simpa [eq_comm] using last

/-- Behind complete lines come the lines of the rest. Without the assumption the last line of the
one would be continued by the other. -/
theorem lines_append {p : String} (h : Finished p) (s : String) :
    lines (p ++ s) = lines p ++ lines s := by
  rcases h.eq with rfl | ⟨body, rfl⟩
  · rw [String.empty_append]
    rfl
  · have chars : (body ++ "\n" ++ s).toList = body.toList ++ '\n' :: s.toList := by simp
    have front : (body ++ "\n").toList = body.toList ++ ['\n'] := by simp
    rw [lines, lines, lines, chars, front, linesFrom_append_feed, List.map_append]

/-- A text without line ends is the only line when its line is ended. A carriage return at its end
would be lost, so there must be none. -/
theorem lines_line {s : String} (free : '\n' ∉ s.toList) (bare : s.toList.getLast? ≠ some '\r') :
    lines (s ++ "\n") = [s] := by
  have chars : (s ++ "\n").toList = s.toList ++ '\n' :: [] := by simp
  rw [lines, chars, linesFrom_append free, linesFrom_feed, List.append_nil, List.reverse_reverse,
    withoutReturn, if_neg bare]
  show [String.ofList s.toList] = [s]
  rw [String.ofList_toList]

/-- The complete lines of a text: everything up to and with its last line feed. -/
def finished (s : String) : String := String.ofList (s.toList.rdropWhile (· ≠ '\n'))

/-- What stands behind the last line feed of a text. It is a line that has begun and may go on. -/
def unfinished (s : String) : String := String.ofList (s.toList.rtakeWhile (· ≠ '\n'))

/-- A text is made of its complete lines and what stands behind them. Nothing is lost where it is
cut. -/
theorem finished_append_unfinished (s : String) : finished s ++ unfinished s = s := by
  apply String.toList_inj.mp
  rw [finished, unfinished, String.toList_append, String.toList_ofList, String.toList_ofList,
    List.rdropWhile, List.rtakeWhile, ← List.reverse_append, List.takeWhile_append_dropWhile,
    List.reverse_reverse]

/-- The complete lines of a text are a finished text. -/
theorem finished_finished (s : String) : Finished (finished s) := by
  intro c last
  rw [finished, String.toList_ofList] at last
  obtain ⟨some, rfl⟩ := List.mem_getLast?_eq_getLast last
  have other := List.rdropWhile_last_not (fun c => decide (c ≠ '\n')) s.toList some
  exact not_not.mp (by simpa using other)

/-- Behind the last line feed there is none. -/
theorem not_mem_unfinished (s : String) : '\n' ∉ (unfinished s).toList := by
  intro mem
  rw [unfinished, String.toList_ofList] at mem
  exact absurd (List.mem_rtakeWhile_imp mem) (by decide)

/-! ### Blanks -/

section Solid

variable {solid : List Char} (nonempty : solid ≠ []) (noBlank : ∀ c ∈ solid, isBlank c = false)

include nonempty noBlank

/-- Where a text without blanks stands first, no blank is dropped. It has a first character, and
that one is not blank. -/
theorem dropWhile_solid (rest : List Char) :
    (solid ++ rest).dropWhile isBlank = solid ++ rest := by
  cases solid with
  | nil => exact absurd rfl nonempty
  | cons c solid => exact List.dropWhile_cons_of_neg (by simp [noBlank c List.mem_cons_self])

/-- Of a text with an end free of blanks, the blanks at the beginning are cut off. The end stops
the cutting from its side. -/
theorem trim_append (s : List Char) :
    trim (String.ofList (s ++ solid)) = String.ofList (s.dropWhile isBlank ++ solid) := by
  have front : (s ++ solid).dropWhile isBlank = s.dropWhile isBlank ++ solid := by
    rw [List.dropWhile_append]
    split
    · next blank =>
      rw [List.isEmpty_iff.mp blank, ← List.append_nil solid, dropWhile_solid nonempty noBlank]
      rfl
    · rfl
  have back := @dropWhile_solid solid.reverse (by simpa using nonempty) (by simpa using noBlank)
    (s.dropWhile isBlank).reverse
  rw [trim, trimStart, trimEnd, String.toList_ofList, String.toList_ofList, front,
    List.reverse_append, back, ← List.reverse_append, List.reverse_reverse]

/-- Such a text is its end just if all before the end is blank. This is how a line is told that
shows a given word and nothing else. -/
theorem trim_append_eq_iff (s : List Char) :
    trim (String.ofList (s ++ solid)) = String.ofList solid ↔ ∀ c ∈ s, isBlank c = true := by
  rw [trim_append nonempty noBlank, String.ofList_inj]
  constructor
  · intro same
    have none : s.dropWhile isBlank = [] := by simpa using same
    exact List.dropWhile_eq_nil_iff.mp none
  · intro blank
    rw [List.dropWhile_eq_nil_iff.mpr blank, List.nil_append]

end Solid

/-- What is left of a text stands in it. -/
theorem trim_infix (s : String) : (trim s).toList <:+: s.toList := by
  rw [trim, trimEnd, trimStart, String.toList_ofList, String.toList_ofList]
  have front := List.dropWhile_suffix isBlank (l := s.toList)
  have back := List.dropWhile_suffix isBlank (l := (s.toList.dropWhile isBlank).reverse)
  refine List.IsInfix.trans ?_ front.isInfix
  rw [← List.reverse_prefix, List.reverse_reverse] at back
  exact back.isInfix

end InstallMatrix.Text
