/-!
# `InstallMatrix.Text.Basic`: cutting, joining and comparing text

The operations every other module builds on, each defined by recursion on the
characters so that a proof can follow it.

Definitions:

* `lower`, `sameLetters`: ASCII case folding and equality up to it.
* `after?`, `before?`: what is left once a known beginning or end is cut off.
* `cutLast?`: the two sides of the last occurrence of a character.
* `splitAt`: the pieces between occurrences of a character.
* `contains`: does one text occur inside another.
* `joined`: pieces written one after the other with a separator between them.
* `hexDigit`, `octal`, `twoDigits`, `hexValue?`, `digitValue?`: numbers in digits.
* `lines`: the lines of a text, without the line ends.
* `trim`, `trimEnd`: a text without the blanks around it.
* `CharacterSet`, `CharacterSet.contains`: sets of characters, kept as tables of ranges.

Main statements: a cut gives back exactly the text it was made from
(`after?_eq_some_iff`, `before?_eq_some_iff`, `cutLast?_eq_some_iff`), and the pieces of a
text can be read off its first separator (`splitAt_append_cons`, `eq_of_append_cons_eq`).
-/

set_option autoImplicit false

namespace InstallMatrix.Text

/-! ### Letters -/

/-- ASCII capitals become small letters; every other character stays. -/
def lower (s : String) : String :=
  String.ofList (s.toList.map Char.toLower)

/-- Two texts that differ at most in the case of ASCII letters. -/
def sameLetters (s t : String) : Bool :=
  lower s == lower t

/-! ### Cutting -/

/-- What follows `start` in a text that begins with it. -/
def after? : List Char → List Char → Option (List Char)
  | [], s => some s
  | _ :: _, [] => none
  | a :: start, c :: s => if a = c then after? start s else none

/-- A beginning is cut off just if the characters begin with it, and the rest is what stands
behind. -/
theorem after?_eq_some_iff {start s rest : List Char} :
    after? start s = some rest ↔ s = start ++ rest := by
  induction start generalizing s with
  | nil => simp [after?, eq_comm]
  | cons a start ih =>
    cases s with
    | nil => simp [after?]
    | cons c s =>
      by_cases h : a = c
      · simp [after?, h, ih]
      · simp [after?, h, Ne.symm h]

/-- What precedes `ending` in a text that ends with it. -/
def before? (ending s : List Char) : Option (List Char) :=
  (after? ending.reverse s.reverse).map List.reverse

/-- An ending is cut off just if the characters end in it, and the rest is what stands before. -/
theorem before?_eq_some_iff {ending s rest : List Char} :
    before? ending s = some rest ↔ s = rest ++ ending := by
  simp only [before?, Option.map_eq_some_iff, after?_eq_some_iff]
  constructor
  · rintro ⟨r, hr, rfl⟩
    have := congrArg List.reverse hr
    simpa using this
  · rintro rfl
    exact ⟨rest.reverse, by simp, by simp⟩

/-- The two sides of the last `sep`, if there is one. -/
def cutLast? (sep : Char) : List Char → Option (List Char × List Char)
  | [] => none
  | c :: s =>
    match cutLast? sep s with
    | some (left, right) => some (c :: left, right)
    | none => if c = sep then some ([], s) else none

/-- Nothing is cut just if the separator is not there. -/
theorem cutLast?_eq_none_iff {sep : Char} {s : List Char} :
    cutLast? sep s = none ↔ sep ∉ s := by
  induction s with
  | nil => simp [cutLast?]
  | cons c s ih =>
    by_cases h : c = sep
    · cases hs : cutLast? sep s with
      | none => simp [cutLast?, hs, h]
      | some p => simp [cutLast?, hs, h]
    · cases hs : cutLast? sep s with
      | none =>
        have := ih.mp hs
        simp [cutLast?, hs, h, this, Ne.symm h]
      | some p =>
        have : sep ∈ s := by
          by_cases hm : sep ∈ s
          · exact hm
          · exact absurd (ih.mpr hm) (by simp [hs])
        simp [cutLast?, hs, this]

/-- The cut is at the last separator: none stands to the right of it. -/
theorem cutLast?_eq_some_iff {sep : Char} {s left right : List Char} :
    cutLast? sep s = some (left, right) ↔ s = left ++ sep :: right ∧ sep ∉ right := by
  induction s generalizing left right with
  | nil => simp [cutLast?]
  | cons c s ih =>
    -- The last separator stands in the tail, or there is none and it can only be the head.
    cases hs : cutLast? sep s with
    | none =>
      have hm := cutLast?_eq_none_iff.mp hs
      by_cases h : c = sep
      · subst h
        simp only [cutLast?, hs, if_true, Option.some.injEq, Prod.mk.injEq]
        constructor
        · rintro ⟨rfl, rfl⟩
          exact ⟨rfl, hm⟩
        · rintro ⟨e, hn⟩
          cases left with
          | nil => simpa using e
          | cons x left =>
            simp only [List.cons_append, List.cons.injEq] at e
            exact absurd (by simp [e.2]) hm
      · simp only [cutLast?, hs, h, if_false, false_iff, reduceCtorEq]
        rintro ⟨e, -⟩
        cases left with
        | nil => exact h (by simpa using congrArg List.head? e)
        | cons x left =>
          simp only [List.cons_append, List.cons.injEq] at e
          exact hm (by simp [e.2])
    | some p =>
      obtain ⟨l, r⟩ := p
      obtain ⟨e, hn⟩ := ih.mp hs
      simp only [cutLast?, hs, Option.some.injEq, Prod.mk.injEq]
      constructor
      · rintro ⟨rfl, rfl⟩
        exact ⟨by simp [e], hn⟩
      · rintro ⟨e', hn'⟩
        cases left with
        | nil =>
          simp only [List.nil_append, List.cons.injEq] at e'
          exact absurd (by simp [← e'.2, e]) hn'
        | cons x left =>
          simp only [List.cons_append, List.cons.injEq] at e'
          have := (@ih left right).mpr ⟨e'.2, hn'⟩
          rw [hs] at this
          simp only [Option.some.injEq, Prod.mk.injEq] at this
          exact ⟨by rw [← this.1, e'.1], this.2⟩

/-- The pieces between the occurrences of `sep`; a text without one is its own
only piece. -/
def splitAt (sep : Char) : List Char → List (List Char)
  | [] => [[]]
  | c :: s =>
    if c = sep then [] :: splitAt sep s
    else
      match splitAt sep s with
      | [] => [[c]]
      | piece :: rest => (c :: piece) :: rest

/-- The first piece ends where the first `sep` stands. -/
theorem splitAt_append_cons {sep : Char} {piece rest : List Char} (free : sep ∉ piece) :
    splitAt sep (piece ++ sep :: rest) = piece :: splitAt sep rest := by
  induction piece with
  | nil => simp [splitAt]
  | cons c piece ih =>
    obtain ⟨ne, free⟩ := List.ne_and_not_mem_of_not_mem_cons free
    rw [List.cons_append, splitAt, if_neg (Ne.symm ne), ih free]

/-- What precedes the first `sep` tells where a text was cut. -/
theorem eq_of_append_cons_eq {sep : Char} {left left' right right' : List Char}
    (free : sep ∉ left) (free' : sep ∉ left') (eq : left ++ sep :: right = left' ++ sep :: right') :
    left = left' ∧ right = right' := by
  have pieces := congrArg (splitAt sep) eq
  rw [splitAt_append_cons free, splitAt_append_cons free'] at pieces
  obtain ⟨rfl, -⟩ := List.cons.inj pieces
  exact ⟨rfl, (List.cons.inj (List.append_cancel_left eq)).2⟩

/-- The pieces of a text between the occurrences of `sep`. -/
def split (sep : Char) (s : String) : List String :=
  (splitAt sep s.toList).map String.ofList

/-- Does `word` occur somewhere in the text. -/
def occurs (word : List Char) : List Char → Bool
  | [] => word.isEmpty
  | c :: s => word.isPrefixOf (c :: s) || occurs word s

/-- Does `word` occur somewhere in `s`. -/
def contains (s word : String) : Bool :=
  occurs word.toList s.toList

/-- Does `s` begin with `start`. -/
def startsWith (s start : String) : Bool :=
  (after? start.toList s.toList).isSome

/-- Does `s` end with `ending`. -/
def endsWith (s ending : String) : Bool :=
  (before? ending.toList s.toList).isSome

/-! ### Joining -/

/-- The pieces one after the other, `sep` between neighbours. -/
def joined (sep : String) (pieces : List String) : String :=
  sep.intercalate pieces

/-- The text written `n` times. -/
def repeated (n : Nat) (s : String) : String :=
  joined "" (List.replicate n s)

/-! ### Numerals -/

/-- The hexadecimal digit of a number below sixteen. -/
def hexDigit (n : Nat) : Char :=
  if n < 10 then Char.ofNat (48 + n) else Char.ofNat (87 + n)

/-- The value of a hexadecimal digit. -/
def hexValue? (c : Char) : Option Nat :=
  if '0' ≤ c ∧ c ≤ '9' then some (c.toNat - 48)
  else if 'a' ≤ c ∧ c ≤ 'f' then some (c.toNat - 87)
  else if 'A' ≤ c ∧ c ≤ 'F' then some (c.toNat - 55)
  else none

/-- The value of a digit of a base up to sixteen. -/
def digitValue? (base : Nat) (c : Char) : Option Nat :=
  (hexValue? c).filter fun d => d < base

/-- The number that digit values write in a base. -/
def ofDigitValues (base : Nat) (ds : List Nat) : Nat :=
  ds.foldl (fun n d => n * base + d) 0

/-- A number in octal digits. -/
def octal (n : Nat) : String :=
  String.ofList (Nat.toDigits 8 n)

/-- A number in at least two decimal digits. -/
def twoDigits (n : Nat) : String :=
  if n < 10 then "0" ++ toString n else toString n

/-! ### Lines -/

/-- The lines of a text, `acc` holding the characters of the current line in
reverse. -/
def linesFrom (acc : List Char) : List Char → List (List Char)
  | [] => if acc.isEmpty then [] else [acc.reverse]
  | c :: s =>
    if c = '\n' then
      (match acc with
        | '\r' :: acc' => acc'.reverse
        | _ => acc.reverse) :: linesFrom [] s
    else linesFrom (c :: acc) s

/-- The lines of a text. A line ends at a line feed, with or without a carriage
return before it; the last line needs no end. -/
def lines (s : String) : List String :=
  (linesFrom [] s.toList).map String.ofList

/-! ### Blanks -/

/-- The characters with the property `White_Space`. -/
def isBlank (c : Char) : Bool :=
  let n := c.toNat
  (9 ≤ n && n ≤ 13) || n == 0x20 || n == 0x85 || n == 0xA0 || n == 0x1680
    || (0x2000 ≤ n && n ≤ 0x200A) || n == 0x2028 || n == 0x2029 || n == 0x202F
    || n == 0x205F || n == 0x3000

/-- The text without the blanks at its beginning. -/
def trimStart (s : String) : String :=
  String.ofList (s.toList.dropWhile isBlank)

/-- The text without the blanks at its end. -/
def trimEnd (s : String) : String :=
  String.ofList (s.toList.reverse.dropWhile isBlank).reverse

/-- The text without the blanks at either end. -/
def trim (s : String) : String :=
  trimEnd (trimStart s)

/-! ### Sets of characters -/

/-- Ranges of character numbers, each with its first and its last number, in increasing order.
The properties that the Unicode standard gives to characters are tables of this kind. -/
abbrev CharacterSet := List (Nat × Nat)

/-- Does a character lie in one of the ranges. -/
def CharacterSet.contains (set : CharacterSet) (c : Char) : Bool :=
  set.any fun r => r.1 ≤ c.toNat && c.toNat ≤ r.2

end InstallMatrix.Text
