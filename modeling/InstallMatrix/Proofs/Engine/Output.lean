import InstallMatrix.Engine.Process
import InstallMatrix.Proofs.Text.Lines
import InstallMatrix.Proofs.Text.Utf8

/-!
# `InstallMatrix.Proofs.Engine.Output`: output line by line

An output is cut into lines as octets, and each line is read as text on its own. Where the
whole output is text this makes no difference: the lines read are the lines of the text
(`map_read_octetLines`), for a line feed never stands inside a character. Where it is not, one
of its lines is not (`exists_text_iff`).

`foldl_push` says what is left of lines that were put into a tail one after the other, and
`shows_last` what is shown of them.
-/

set_option autoImplicit false

namespace InstallMatrix

open Text Utf8

/-! ### Lines of octets -/

/-- No octet is lost when an output is cut into lines, as the ends of lines stay with them. -/
theorem flatMap_octetLinesFrom (acc output : Octets) :
    (octetLinesFrom acc output).flatMap OctetLine.octets = acc.reverse ++ output := by
  induction output generalizing acc with
  | nil =>
    rw [octetLinesFrom]
    split
    · next empty =>
      rw [List.isEmpty_iff.mp empty]
      rfl
    · simp
  | cons b output ih =>
    rw [octetLinesFrom]
    split
    · simp [ih]
    · simp [ih]

/-- Octets that end no line belong to the current one. They are gathered in reverse, as characters
are. -/
theorem octetLinesFrom_append {body : Octets} (free : 10 ∉ body) (acc rest : Octets) :
    octetLinesFrom acc (body ++ rest) = octetLinesFrom (body.reverse ++ acc) rest := by
  induction body generalizing acc with
  | nil => rfl
  | cons b body ih =>
    obtain ⟨other, free⟩ := List.ne_and_not_mem_of_not_mem_cons free
    rw [List.cons_append, octetLinesFrom, if_neg (Ne.symm other), ih free, List.reverse_cons,
      List.append_assoc]
    rfl

/-- The end of a complete line is cut off as it is from a line of text. -/
theorem withoutEnd_concat (line : List Char) :
    withoutEnd (String.ofList (line ++ ['\n'])) = String.ofList (withoutReturn line) := by
  rcases List.eq_nil_or_concat line with rfl | ⟨line, c, rfl⟩
  · rfl
  · by_cases carriage : c = '\r'
    · simp [withoutEnd, withoutReturn, carriage]
    · simp [withoutEnd, withoutReturn, carriage]

/-- An unfinished line has no end to cut off. -/
theorem withoutEnd_eq_self {line : List Char} (free : '\n' ∉ line) :
    withoutEnd (String.ofList line) = String.ofList line := by
  have other : ∀ rest, (String.ofList line).toList.reverse ≠ '\n' :: rest := by
    intro rest same
    rw [String.toList_ofList] at same
    exact free (List.mem_reverse.mp (same ▸ List.mem_cons_self))
  unfold withoutEnd
  split
  · next same => exact absurd same (other _)
  · next same => exact absurd same (other _)
  · rfl

/-- The octets of a text line are read as that line, without its end. -/
theorem read_encode (line : List Char) (complete : Bool) :
    OctetLine.read ⟨line.flatMap String.utf8EncodeChar, complete⟩
      = .ok (withoutEnd (String.ofList line)) := by
  have text : decode (line.flatMap String.utf8EncodeChar) = .ok (String.ofList line) := by
    rw [decode_eq_ok_iff, encode, String.toList_ofList]
  rw [OctetLine.read, text]
  rfl

/-- A line is read just if it is text. Its end makes no difference, as it is cut off afterwards.
-/
theorem exists_read_iff {line : OctetLine} :
    (∃ text, line.read = .ok text) ↔ ∃ s, line.octets = encode s := by
  rw [OctetLine.read]
  cases decoded : decode line.octets with
  | ok s => exact ⟨fun _ => ⟨s, decode_eq_ok_iff.mp decoded⟩, fun _ => ⟨withoutEnd s, rfl⟩⟩
  | error fault =>
    refine ⟨nofun, ?_⟩
    intro ⟨s, octets⟩
    rw [octets, decode_encode] at decoded
    cases decoded

/-- A line is not read just if its octets are no text, and the fault is where decoding stops. -/
theorem read_eq_error_iff {line : OctetLine} {fault : Text.Utf8.Fault} :
    line.read = .error fault ↔ decode line.octets = .error fault := by
  rw [OctetLine.read]
  cases decode line.octets with
  | ok s => exact ⟨nofun, nofun⟩
  | error other => exact ⟨fun same => by cases same; rfl, fun same => by cases same; rfl⟩

/-- The lines of a text are read from its octets. -/
theorem map_read_octetLinesFrom {acc : List Char} (free : '\n' ∉ acc) (s : List Char) :
    (octetLinesFrom (acc.reverse.flatMap String.utf8EncodeChar).reverse
        (s.flatMap String.utf8EncodeChar)).map OctetLine.read
      = (linesFrom acc s).map fun line => .ok (String.ofList line) := by
  -- The characters of the current line go along on both sides, on the left as their octets.
  induction s generalizing acc with
  | nil =>
    cases acc with
    | nil => rfl
    | cons c acc =>
      -- The last line is unfinished, and not empty.
      have some : ((c :: acc).reverse.flatMap String.utf8EncodeChar).reverse.isEmpty = false := by
        simp
      have free : '\n' ∉ (c :: acc).reverse := mt List.mem_reverse.mp free
      rw [List.flatMap_nil, octetLinesFrom, some, linesFrom, List.isEmpty_cons]
      simp only [Bool.false_eq_true, if_false, List.map_cons, List.map_nil, List.reverse_reverse]
      rw [read_encode, withoutEnd_eq_self free]
  | cons c s ih =>
    by_cases feed : c = '\n'
    · subst feed
      have line : (10 :: (acc.reverse.flatMap String.utf8EncodeChar).reverse).reverse
          = (acc.reverse ++ ['\n']).flatMap String.utf8EncodeChar := by
        rw [List.reverse_cons, List.reverse_reverse, List.flatMap_append]
        rfl
      have rest := @ih [] List.not_mem_nil
      rw [linesFrom_feed, List.map_cons, ← rest, ← withoutEnd_concat, ← read_encode _ true, ← line]
      rfl
    · have other : 10 ∉ String.utf8EncodeChar c := mt ten_mem_utf8EncodeChar.mp feed
      have longer := @ih (c :: acc) (List.not_mem_cons_of_ne_of_not_mem (Ne.symm feed) free)
      rw [linesFrom_cons feed, ← longer, List.flatMap_cons, octetLinesFrom_append other,
        List.reverse_cons, List.flatMap_append, List.reverse_append]
      simp

/-- The octet lines of an encoded text are read as the lines of the text. No line feed is part of
another character, so both are cut alike. -/
theorem map_read_octetLines (s : String) :
    (octetLines (encode s)).map OctetLine.read = (lines s).map .ok := by
  rw [lines, List.map_map]
  exact map_read_octetLinesFrom List.not_mem_nil s.toList

/-- Text is written by texts one after the other. -/
theorem exists_text_of_flatMap {parts : List OctetLine}
    (texts : ∀ line ∈ parts, ∃ s, line.octets = encode s) :
    ∃ s, parts.flatMap OctetLine.octets = encode s := by
  induction parts with
  | nil => exact ⟨"", rfl⟩
  | cons line parts ih =>
    obtain ⟨first, isFirst⟩ := texts line List.mem_cons_self
    obtain ⟨rest, isRest⟩ := ih fun l mem => texts l (List.mem_cons_of_mem _ mem)
    exact ⟨first ++ rest, by rw [List.flatMap_cons, isFirst, isRest, encode_append]⟩

/-- An output is text just if each of its lines is. A line feed is one octet in every text, so no
character is cut in two. -/
theorem exists_text_iff {output : Octets} :
    (∃ s, output = encode s) ↔ ∀ line ∈ octetLines output, ∃ text, line.read = .ok text := by
  constructor
  · intro ⟨s, octets⟩ line mem
    subst octets
    have read : line.read ∈ (octetLines (encode s)).map OctetLine.read := List.mem_map_of_mem mem
    rw [map_read_octetLines] at read
    obtain ⟨text, -, same⟩ := List.mem_map.mp read
    exact ⟨text, same.symm⟩
  · intro texts
    have whole := flatMap_octetLinesFrom [] output
    rw [List.reverse_nil, List.nil_append] at whole
    rw [← whole]
    exact exists_text_of_flatMap fun line mem => exists_read_iff.mp (texts line mem)

/-! ### The end of an output -/

namespace OutputTail

/-- One more line in a tail that holds the last lines. Where the tail is full, the oldest line
goes. -/
theorem push_rtake (n : Nat) (lines : List String) (line : String) :
    push ⟨n, lines.rtake n⟩ line = ⟨n, (lines ++ [line]).rtake n⟩ := by
  cases n with
  | zero => rw [List.rtake_zero, List.rtake_zero, push, if_pos rfl]
  | succ k =>
    rw [List.rtake_concat_succ, push, if_neg (Nat.succ_ne_zero k)]
    by_cases full : (lines.rtake (k + 1)).length = k + 1
    · -- The oldest line goes, so one line less is left of those before.
      have longer : k < lines.length := by
        rw [List.rtake, List.length_drop] at full
        omega
      have tail : (lines.rtake (k + 1)).tail = lines.rtake k := by
        rw [List.rtake, List.rtake, List.tail_drop]
        congr 1
        omega
      rw [if_pos full, tail]
    · have short : lines.length ≤ k := by
        rw [List.rtake, List.length_drop] at full
        omega
      have all : ∀ m, k ≤ m → lines.rtake m = lines := by
        intro m le
        rw [List.rtake, Nat.sub_eq_zero_of_le (Nat.le_trans short le), List.drop_zero]
      rw [if_neg full, all k (Nat.le_refl k), all (k + 1) (Nat.le_succ k)]

/-- Of lines put in one after the other, a tail holds the last ones. The induction is on the lines
from the end, for the last line that was put in is the one `push_rtake` is about. -/
theorem foldl_push (n : Nat) (lines : List String) :
    lines.foldl push (empty n) = ⟨n, lines.rtake n⟩ := by
  induction lines using List.reverseRecOn with
  | nil => rw [List.rtake_nil]; rfl
  | append_singleton lines line ih =>
    rw [List.foldl_append, ih]
    exact push_rtake n lines line

/-- The last lines are as many as were asked for, if there are so many. Otherwise they are all
lines. -/
theorem length_rtake (n : Nat) (lines : List String) :
    (lines.rtake n).length = min n lines.length := by
  rw [List.rtake, List.length_drop]
  omega

/-- **A tail is the end of what was put into it.** At no time does it hold more lines than it
has room for. It shows the last of the lines, as many as there is room for, in the order in
which they came. -/
theorem shows_last (capacity : Nat) (lines : List String) :
    (∀ seen, seen <+: lines → (seen.foldl push (empty capacity)).lines.length ≤ capacity) ∧
    ∃ earlier last, lines = earlier ++ last ∧ last.length = min capacity lines.length ∧
      (lines.foldl push (empty capacity)).lines = last ∧
        (lines.foldl push (empty capacity)).text = joined "\n" last := by
  constructor
  · intro seen _
    rw [foldl_push, length_rtake]
    exact Nat.min_le_left _ _
  · refine ⟨lines.take (lines.length - capacity), lines.rtake capacity, ?_,
      length_rtake capacity lines, ?_, ?_⟩
    · exact (List.take_append_drop _ _).symm
    · rw [foldl_push]
    · rw [foldl_push]
      rfl

end OutputTail

end InstallMatrix
