import InstallMatrix.Text.Basic
import Mathlib.Data.List.TakeDrop

/-!
# `InstallMatrix.Proofs.Text.Basic`: joined pieces and decimal numerals

`intercalate_cons_eq_flatMap` takes joined pieces apart: after the first one, each stands
behind its own separator. `split_append_separator` cuts a text that was put together at a
separator.

The readers of documents and of times take a number digit by digit from the left, and cut it
off at the first character that is not a digit.

* `takeWhile_digits` / `dropWhile_digits`: a numeral ends where the digits end.
* `decimal_toDigits`: the number read from the digits of a number is that number.
* `eq_zero_of_head?_toDigits`: no number but zero is written with a leading zero.
-/

set_option autoImplicit false

namespace InstallMatrix.Text

/-! ### Joining -/

/-- The characters of pieces with a separator between neighbours. Written so, each piece but the
first brings its separator with it. -/
theorem intercalate_cons_eq_flatMap (sep piece : List Char) (pieces : List (List Char)) :
    sep.intercalate (piece :: pieces) = piece ++ pieces.flatMap (sep ++ ·) := by
  induction pieces generalizing piece with
  | nil => simp [List.intercalate]
  | cons next pieces ih => rw [List.intercalate_cons_cons, ih, List.flatMap_cons, List.append_assoc,
      List.append_assoc]

/-- Pieces with nothing between neighbours are strung together. -/
theorem nil_intercalate (pieces : List (List Char)) :
    ([] : List Char).intercalate pieces = pieces.flatten := by
  cases pieces with
  | nil => rfl
  | cons piece pieces =>
    rw [intercalate_cons_eq_flatMap, List.flatten_cons, List.flatMap_def]
    simp

/-- Pieces joined with nothing between them stand one behind the other, so two lists of pieces
may as well be joined each on its own. -/
theorem joined_append (xs ys : List String) :
    joined "" (xs ++ ys) = joined "" xs ++ joined "" ys := by
  rw [← String.toList_inj]
  simp [joined, String.toList_intercalate, nil_intercalate]

/-- The first piece stands before all the others. -/
theorem joined_cons (piece : String) (pieces : List String) :
    joined "" (piece :: pieces) = piece ++ joined "" pieces := by
  rw [← List.singleton_append, joined_append]
  simp [joined]

/-- Each of the pieces stands in what they are joined to. A message that joins names shows every
one of them. -/
theorem infix_joined {piece : String} {pieces : List String} (mem : piece ∈ pieces)
    (sep : String) : piece.toList <:+: (joined sep pieces).toList := by
  obtain ⟨before, after, rfl⟩ := List.append_of_mem mem
  rw [joined, String.toList_intercalate]
  cases before with
  | nil =>
    rw [List.nil_append, List.map_cons, intercalate_cons_eq_flatMap]
    exact (List.prefix_append _ _).isInfix
  | cons first before =>
    -- Behind the first piece, a piece stands behind its separator.
    rw [List.cons_append, List.map_cons, intercalate_cons_eq_flatMap, List.map_append,
      List.map_cons, List.flatMap_append, List.flatMap_cons]
    exact ⟨first.toList ++ (before.map String.toList).flatMap (sep.toList ++ ·) ++ sep.toList,
      (after.map String.toList).flatMap (sep.toList ++ ·), by simp⟩

/-! ### Cutting -/

/-- Even an empty text has one piece. -/
theorem splitAt_ne_nil (sep : Char) (s : List Char) : splitAt sep s ≠ [] := by
  fun_cases splitAt sep s <;> simp

/-- A separator keeps what stands on its sides apart, in lists of characters. What is split on one
side does not depend on the other. -/
theorem splitAt_append_separator (sep : Char) (s t : List Char) :
    splitAt sep (s ++ sep :: t) = splitAt sep s ++ splitAt sep t := by
  induction s with
  | nil => simp [splitAt]
  | cons c s ih =>
    by_cases separates : c = sep
    · rw [List.cons_append, splitAt, if_pos separates, ih, splitAt, if_pos separates]
      rfl
    · obtain ⟨piece, rest, pieces⟩ := List.exists_cons_of_ne_nil (splitAt_ne_nil sep s)
      rw [List.cons_append, splitAt, if_neg separates, ih, splitAt, if_neg separates, pieces]
      rfl

/-- A separator keeps what stands on its sides apart: the pieces are those of the one side and
then those of the other. -/
theorem split_append_separator (sep : Char) (s t : String) :
    split sep (s ++ (String.singleton sep ++ t)) = split sep s ++ split sep t := by
  simp [split, splitAt_append_separator]

/-- Without a separator there is one piece, the whole. -/
theorem splitAt_of_not_mem {sep : Char} {s : List Char} (free : sep ∉ s) :
    splitAt sep s = [s] := by
  induction s with
  | nil => rfl
  | cons c s ih =>
    obtain ⟨ne, free⟩ := List.ne_and_not_mem_of_not_mem_cons free
    rw [splitAt, if_neg (Ne.symm ne), ih free]

/-- A text without a separator is its own only piece. This is the case a reader of fields ends
with. -/
theorem split_of_not_mem {sep : Char} {s : String} (free : sep ∉ s.toList) : split sep s = [s] := by
  rw [split, splitAt_of_not_mem free]
  simp

/-- A text with a separator has two pieces or more. A field that must stand alone can have none.
-/
theorem two_le_length_split {sep : Char} {s : String} (mem : sep ∈ s.toList) :
    2 ≤ (split sep s).length := by
  obtain ⟨left, right, cut⟩ := List.append_of_mem mem
  have first := List.length_pos_iff.mpr (splitAt_ne_nil sep left)
  have second := List.length_pos_iff.mpr (splitAt_ne_nil sep right)
  rw [split, cut, splitAt_append_separator, List.length_map, List.length_append]
  omega

/-! ### Numerals -/

/-- The number that decimal digits write. It is defined by the digits from the left, as a reader
goes along them. -/
def decimal (ds : List Char) : Nat := ds.foldl (fun n c => n * 10 + (c.toNat - 48)) 0

/-- Nothing at the beginning of the text could belong to a numeral before it. The text may be
empty. -/
def NoDigitHead (s : List Char) : Prop := ∀ c ∈ s.head?, c.isDigit = false

/-- A text that begins with another character does not begin with a digit. -/
theorem noDigitHead_cons {c : Char} (other : c.isDigit = false) (s : List Char) :
    NoDigitHead (c :: s) := by
  rintro d mem
  rw [List.head?_cons, Option.mem_some_iff] at mem
  exact mem ▸ other

/-- A text that begins with a digit does not begin with anything else. -/
theorem cons_ne_cons_of_isDigit {d c : Char} (digit : d.isDigit = true)
    (other : c.isDigit = false) (s t : List Char) : d :: s ≠ c :: t := by
  rintro same
  rw [(List.cons.inj same).1, other] at digit
  cases digit

/-- One more digit multiplies the number by ten and adds the digit. -/
theorem decimal_concat (ds : List Char) (c : Char) :
    decimal (ds ++ [c]) = decimal ds * 10 + (c.toNat - 48) := by
  simp [decimal]

/-- The digits are read as the library reads them. Its lemmas about written numbers then apply. -/
theorem decimal_eq_ofDigitChars (ds : List Char) : decimal ds = Nat.ofDigitChars 10 ds 0 := by
  simp only [decimal, Nat.ofDigitChars_eq_foldl, Nat.mul_comm]
  rfl

/-- The digits of a number are read as that number, which the library proves for its own reader.
-/
theorem decimal_toDigits (n : Nat) : decimal (Nat.toDigits 10 n) = n := by
  rw [decimal_eq_ofDigitChars, Nat.ofDigitChars_toDigits (by decide) (by decide)]

/-- A number is written in digits only. -/
theorem isDigit_toDigits (n : Nat) : ∀ c ∈ Nat.toDigits 10 n, c.isDigit = true :=
  fun _ => Nat.isDigit_of_mem_toDigits (by decide) (by decide)

/-- Only zero has a leading zero. A reader that refuses leading zeros refuses no written number.
-/
theorem eq_zero_of_head?_toDigits {n : Nat} (zero : (Nat.toDigits 10 n).head? = some '0') :
    n = 0 := by
  induction n using Nat.strongRecOn with
  | ind n ih =>
    rw [Nat.toDigits_eq_if (by decide)] at zero
    split at zero
    · next small =>
      rw [List.head?_singleton, Option.some.injEq] at zero
      have digit := congrArg Char.toNat zero
      rw [Nat.toNat_digitChar_of_lt_ten small] at digit
      exact Nat.add_left_cancel digit
    · next large =>
      -- The leading digit is that of the number without its last digit.
      have leading : (Nat.toDigits 10 (n / 10)).head? = some '0' := by
        cases written : Nat.toDigits 10 (n / 10) with
        | nil => exact absurd written Nat.toDigits_ne_nil
        | cons d ds => rwa [written] at zero
      have := ih (n / 10) (by omega) leading
      omega

section Cut

variable {ds rest : List Char} (digits : ∀ c ∈ ds, c.isDigit = true) (ends : NoDigitHead rest)

include digits ends

/-- A numeral ends where the digits end. What follows begins with no digit, so nothing of it is
taken along. -/
theorem takeWhile_digits : (ds ++ rest).takeWhile Char.isDigit = ds := by
  rw [List.takeWhile_append_of_pos digits]
  cases rest with
  | nil => simp
  | cons c rest => rw [List.takeWhile_cons_of_neg (by simp [ends c rfl]), List.append_nil]

/-- What is left behind the digits is the rest. -/
theorem dropWhile_digits : (ds ++ rest).dropWhile Char.isDigit = rest := by
  rw [List.dropWhile_append_of_pos digits]
  cases rest with
  | nil => simp
  | cons c rest => rw [List.dropWhile_cons_of_neg (by simp [ends c rfl])]

end Cut

end InstallMatrix.Text
