import InstallMatrix.Text.Utf8
import Mathlib.Data.List.Basic

/-!
# `InstallMatrix.Proofs.Text.Utf8`: which octets are text

`Writes` lists the sequences of octets that write a character, by their width and with the
ranges the reader checks. Three facts tie it to the two sides of the encoding: what writes a
character is read as it (`Writes.scan_append`), a character is written by its own octets
(`writes_utf8EncodeChar`), and by no others (`Writes.eq_utf8EncodeChar`).

So octets are text just if they are the octets of one (`decode_eq_ok_iff`), and text that
went through octets comes back from either reading (`decode_encode`, `decodeLossy_encode`).
The octet of a line feed stands in a text just for the line feed (`ten_mem_utf8EncodeChar`).
-/

set_option autoImplicit false

namespace InstallMatrix.Text.Utf8

variable {a b : UInt8} {bytes : Octets} {x : Char} {s t : String}

/-! ### Ranges of octets -/

/-- The test for a range of octets, as a statement about numbers. -/
theorem inRange_iff {low high : UInt8} :
    (low ≤ a && a ≤ high) = true ↔ low.toNat ≤ a.toNat ∧ a.toNat ≤ high.toNat := by
  rw [Bool.and_eq_true, decide_eq_true_iff, decide_eq_true_iff, UInt8.le_iff_toNat_le,
    UInt8.le_iff_toNat_le]

/-- No octet begins characters of two widths. -/
theorem inRange_eq_false {low high low' high' : UInt8} (h : (low ≤ a && a ≤ high) = true)
    (below : high' < low) : (low' ≤ a && a ≤ high') = false := by
  rw [inRange_iff] at h
  rw [UInt8.lt_iff_toNat_lt] at below
  rw [Bool.eq_false_iff, Ne, inRange_iff]
  omega

/-- An octet in a range above the letters of ASCII is none of them. -/
theorem not_lt_of_inRange {low high : UInt8} (h : (low ≤ a && a ≤ high) = true)
    (above : 0x80 ≤ low) : ¬ a < 0x80 := by
  rw [inRange_iff] at h
  rw [UInt8.le_iff_toNat_le] at above
  rw [UInt8.lt_iff_toNat_lt]
  omega

/-- The range of the octets that continue a character. -/
theorem isContinuation_iff : isContinuation b = true ↔ 0x80 ≤ b.toNat ∧ b.toNat ≤ 0xBF :=
  inRange_iff

/-- The second octet of three leaves out overlong forms and surrogates. -/
theorem isSecondOfThree_iff : isSecondOfThree a b = true ↔
    0x80 ≤ b.toNat ∧ b.toNat ≤ 0xBF ∧ (a.toNat = 0xE0 → 0xA0 ≤ b.toNat) ∧
      (a.toNat = 0xED → b.toNat ≤ 0x9F) := by
  unfold isSecondOfThree
  simp only [← UInt8.toNat_inj, UInt8.reduceToNat]
  split
  · simp only [inRange_iff, UInt8.reduceToNat]
    omega
  split
  · simp only [inRange_iff, UInt8.reduceToNat]
    omega
  · rw [isContinuation_iff]
    omega

/-- The second octet of four leaves out overlong forms and what is above all characters. -/
theorem isSecondOfFour_iff : isSecondOfFour a b = true ↔
    0x80 ≤ b.toNat ∧ b.toNat ≤ 0xBF ∧ (a.toNat = 0xF0 → 0x90 ≤ b.toNat) ∧
      (a.toNat = 0xF4 → b.toNat ≤ 0x8F) := by
  unfold isSecondOfFour
  simp only [← UInt8.toNat_inj, UInt8.reduceToNat]
  split
  · simp only [inRange_iff, UInt8.reduceToNat]
    omega
  split
  · simp only [inRange_iff, UInt8.reduceToNat]
    omega
  · rw [isContinuation_iff]
    omega

/-! ### Characters -/

/-- `Writes bytes x`: the octets `bytes` are a sequence the reader takes for `x`. There is one
case for each width, with the ranges the reader tests. -/
inductive Writes : Octets → Char → Prop
  | one {a : UInt8} (lead : a < 0x80) : Writes [a] (assemble a.toNat [])
  | two {a b : UInt8} (lead : (0xC2 ≤ a && a ≤ 0xDF) = true) (second : isContinuation b = true) :
      Writes [a, b] (assemble (a.toNat % 32) [b])
  | three {a b c : UInt8} (lead : (0xE0 ≤ a && a ≤ 0xEF) = true)
      (second : isSecondOfThree a b = true) (third : isContinuation c = true) :
      Writes [a, b, c] (assemble (a.toNat % 16) [b, c])
  | four {a b c d : UInt8} (lead : (0xF0 ≤ a && a ≤ 0xF4) = true)
      (second : isSecondOfFour a b = true) (third : isContinuation c = true)
      (fourth : isContinuation d = true) : Writes [a, b, c, d] (assemble (a.toNat % 8) [b, c, d])

/-- What writes a character is read as it, whatever follows. The first octet alone decides how
many octets are taken. -/
theorem Writes.scan_append (h : Writes bytes x) (rest : Octets) :
    scan (bytes ++ rest) = .char x bytes.length :: scan rest := by
  -- The first octet says how many follow. The ranges of the first octets are disjoint.
  cases h with
  | one lead =>
    rw [scan.eq_def]
    exact if_pos lead
  | two lead second =>
    rw [scan.eq_def]
    simp only [List.cons_append, List.nil_append, if_neg (not_lt_of_inRange lead (by decide)),
      lead, second, if_true]
    rfl
  | three lead second third =>
    rw [scan.eq_def]
    simp only [List.cons_append, List.nil_append, if_neg (not_lt_of_inRange lead (by decide)),
      inRange_eq_false lead (by decide : (0xDF : UInt8) < 0xE0), lead, second, third, if_true]
    rfl
  | four lead second third fourth =>
    rw [scan.eq_def]
    simp only [List.cons_append, List.nil_append, if_neg (not_lt_of_inRange lead (by decide)),
      inRange_eq_false lead (by decide : (0xDF : UInt8) < 0xF0),
      inRange_eq_false lead (by decide : (0xEF : UInt8) < 0xF0), lead, second, third, fourth,
      if_true]
    rfl

/-- Octets begin with what writes a character, or with a piece that is none. The cases are the
branches of the reader. -/
theorem scan_cases (bytes : Octets) :
    bytes = [] ∨ (∃ first x rest, Writes first x ∧ bytes = first ++ rest) ∨
      (∃ w rest, scan bytes = .invalid w :: rest) ∨ ∃ w, scan bytes = [.truncated w] := by
  fun_cases scan bytes with
  | case1 => exact .inl rfl
  | case2 a r lead => exact .inr (.inl ⟨[a], _, r, .one lead, rfl⟩)
  | case4 a _ lead b r second => exact .inr (.inl ⟨[a, b], _, r, .two lead second, rfl⟩)
  | case8 a _ _ lead b second c r third =>
    exact .inr (.inl ⟨[a, b, c], _, r, .three lead second third, rfl⟩)
  | case14 a _ _ _ lead b second c third d r fourth =>
    exact .inr (.inl ⟨[a, b, c, d], _, r, .four lead second third fourth, rfl⟩)
  | case3 | case6 | case7 | case11 | case12 | case13 => exact .inr (.inr (.inr ⟨_, rfl⟩))
  | case5 | case9 | case10 | case15 | case16 | case17 | case18 =>
    exact .inr (.inr (.inl ⟨_, _, rfl⟩))

/-- A number that is one of a character is the number of that character. For any other number the
library gives another character. -/
theorem toNat_val_ofNat {n : Nat} (valid : n.isValidChar) : (Char.ofNat n).val.toNat = n := by
  unfold Char.ofNat
  rw [dif_pos valid]
  rfl

/-- The octets that write a character are its own. So the reader takes no overlong form and no
surrogate. -/
theorem Writes.eq_utf8EncodeChar (h : Writes bytes x) : bytes = String.utf8EncodeChar x := by
  -- In each width the ranges keep the number from being a surrogate, and keep it above all
  -- numbers that have a shorter form.
  cases h with
  | @one a lead =>
    simp only [UInt8.lt_iff_toNat_lt, UInt8.reduceToNat] at lead
    have value : (assemble a.toNat []).val.toNat = a.toNat :=
      toNat_val_ofNat (n := a.toNat) (.inl (by omega))
    simp only [String.utf8EncodeChar, value]
    rw [if_pos (by omega), UInt8.ofNat_toNat]
  | @two a b lead second =>
    simp only [inRange_iff, isContinuation_iff, UInt8.reduceToNat] at lead second
    have value : (assemble (a.toNat % 32) [b]).val.toNat = a.toNat % 32 * 64 + b.toNat % 64 :=
      toNat_val_ofNat (n := a.toNat % 32 * 64 + b.toNat % 64) (.inl (by omega))
    simp only [String.utf8EncodeChar, value]
    rw [if_neg (by omega), if_pos (by omega)]
    simp only [List.cons.injEq, ← UInt8.toNat_inj, UInt8.toNat_ofNat', and_true]
    omega
  | @three a b c lead second third =>
    simp only [inRange_iff, isSecondOfThree_iff, isContinuation_iff, UInt8.reduceToNat]
      at lead second third
    have value : (assemble (a.toNat % 16) [b, c]).val.toNat =
        (a.toNat % 16 * 64 + b.toNat % 64) * 64 + c.toNat % 64 :=
      toNat_val_ofNat (n := (a.toNat % 16 * 64 + b.toNat % 64) * 64 + c.toNat % 64)
        (by unfold Nat.isValidChar; omega)
    simp only [String.utf8EncodeChar, value]
    rw [if_neg (by omega), if_neg (by omega), if_pos (by omega)]
    simp only [List.cons.injEq, ← UInt8.toNat_inj, UInt8.toNat_ofNat', and_true]
    omega
  | @four a b c d lead second third fourth =>
    simp only [inRange_iff, isSecondOfFour_iff, isContinuation_iff, UInt8.reduceToNat]
      at lead second third fourth
    have value : (assemble (a.toNat % 8) [b, c, d]).val.toNat =
        ((a.toNat % 8 * 64 + b.toNat % 64) * 64 + c.toNat % 64) * 64 + d.toNat % 64 :=
      toNat_val_ofNat
        (n := ((a.toNat % 8 * 64 + b.toNat % 64) * 64 + c.toNat % 64) * 64 + d.toNat % 64)
        (by unfold Nat.isValidChar; omega)
    simp only [String.utf8EncodeChar, value]
    rw [if_neg (by omega), if_neg (by omega), if_neg (by omega)]
    simp only [List.cons.injEq, ← UInt8.toNat_inj, UInt8.toNat_ofNat', and_true]
    omega

/-! ### Texts -/

/-- Texts are encoded one behind the other. -/
theorem encode_append (s t : String) : encode (s ++ t) = encode s ++ encode t := by
  simp [encode]

/-- Octets tell the text they were made from. Texts may therefore be compared by what is sent or
hashed of them. -/
theorem encode_inj : encode s = encode t ↔ s = t := by
  refine ⟨fun eq => ?_, congrArg encode⟩
  have octets : s.toList.utf8Encode = t.toList.utf8Encode := congrArg List.toByteArray eq
  rw [← String.toByteArray_ofList, ← String.toByteArray_ofList, String.toByteArray_inj] at octets
  simpa using octets

/-- A character is written by its octets. Together with the lemma above, the reader takes these
and no others for it. -/
theorem writes_utf8EncodeChar (x : Char) : Writes (String.utf8EncodeChar x) x := by
  -- The octets are in the ranges of their width, so they write some character. It has the
  -- same octets, so it is this one.
  have written : ∃ y, Writes (String.utf8EncodeChar x) y := by
    have valid : x.val.toNat < 0xD800 ∨ 0xDFFF < x.val.toNat ∧ x.val.toNat < 0x110000 := x.valid
    unfold String.utf8EncodeChar
    simp only
    split
    · refine ⟨_, .one ?_⟩
      simp only [UInt8.lt_iff_toNat_lt, UInt8.toNat_ofNat', UInt8.reduceToNat]
      omega
    split
    · refine ⟨_, .two ?_ ?_⟩ <;>
        simp only [inRange_iff, isContinuation_iff, UInt8.toNat_ofNat', UInt8.reduceToNat] <;>
        omega
    split
    · refine ⟨_, .three ?_ ?_ ?_⟩ <;>
        simp only [inRange_iff, isSecondOfThree_iff, isContinuation_iff, UInt8.toNat_ofNat',
          UInt8.reduceToNat] <;>
        omega
    · refine ⟨_, .four ?_ ?_ ?_ ?_⟩ <;>
        simp only [inRange_iff, isSecondOfFour_iff, isContinuation_iff, UInt8.toNat_ofNat',
          UInt8.reduceToNat] <;>
        omega
  obtain ⟨y, writes⟩ := written
  have octets : encode (String.singleton x) = encode (String.singleton y) := by
    simp [encode, writes.eq_utf8EncodeChar]
  have same : x = y := by simpa using congrArg String.toList (encode_inj.mp octets)
  exact same ▸ writes

/-- Octets that are read are used up, or begin with what writes the first character. -/
theorem of_collect_scan_eq_ok {chars : List Char} {index : Nat}
    (read : collect index (scan bytes) = .ok chars) :
    (bytes = [] ∧ chars = []) ∨ ∃ first x rest chars', Writes first x ∧ bytes = first ++ rest ∧
      chars = x :: chars' ∧ collect (index + first.length) (scan rest) = .ok chars' := by
  rcases scan_cases bytes with rfl | ⟨first, x, rest, writes, rfl⟩ | ⟨w, rest, bad⟩ | ⟨w, bad⟩
  · cases read
    exact .inl ⟨rfl, rfl⟩
  · rw [writes.scan_append, collect] at read
    cases onward : collect (index + first.length) (scan rest) with
    | error fault =>
      rw [onward] at read
      cases read
    | ok chars' =>
      rw [onward] at read
      cases read
      exact .inr ⟨first, x, rest, chars', writes, rfl, rfl, onward⟩
  · -- A fault in front is reported, whatever follows.
    rw [bad] at read
    cases read
  · rw [bad] at read
    cases read

/-- The characters read from octets are those the octets are made from. The place at which reading
begins only matters for faults. -/
theorem collect_scan_eq_ok_iff {chars : List Char} {index : Nat} :
    collect index (scan bytes) = .ok chars ↔ bytes = chars.flatMap String.utf8EncodeChar := by
  constructor
  · intro read
    -- The induction is on the characters that were read.
    induction chars generalizing index bytes with
    | nil =>
      rcases of_collect_scan_eq_ok read with ⟨rfl, -⟩ | ⟨first, x, rest, chars', -, -, none, -⟩
      · rfl
      · cases none
    | cons c chars ih =>
      rcases of_collect_scan_eq_ok read with ⟨-, some⟩ | ⟨first, x, rest, _, writes, rfl, same, on⟩
      · cases some
      · cases same
        rw [List.flatMap_cons, ← writes.eq_utf8EncodeChar, ← ih on]
  · intro octets
    subst octets
    induction chars generalizing index with
    | nil => rfl
    | cons c chars ih =>
      rw [List.flatMap_cons, (writes_utf8EncodeChar c).scan_append, collect, ih]
      rfl

/-- Octets are text just if they are the octets of one. So decoding and encoding undo each other
where decoding does not fail. -/
theorem decode_eq_ok_iff : decode bytes = .ok s ↔ bytes = encode s := by
  rw [encode, ← collect_scan_eq_ok_iff, decode]
  cases collect 0 (scan bytes) with
  | error fault => exact ⟨nofun, nofun⟩
  | ok chars =>
    show Except.ok (String.ofList chars) = _ ↔ _
    rw [Except.ok.injEq, Except.ok.injEq, ← String.toList_inj, String.toList_ofList]

/-- What was encoded is decoded again. Output of programs that print text is read without a fault.
-/
theorem decode_encode (s : String) : decode (encode s) = .ok s := decode_eq_ok_iff.mpr rfl

/-- The lossy reading loses nothing of a text. It differs from the strict one only where octets
are no text. -/
theorem decodeLossy_encode (s : String) : decodeLossy (encode s) = s := by
  have chars (l : List Char) :
      (scan (l.flatMap String.utf8EncodeChar)).map Piece.lossy = l := by
    induction l with
    | nil => rfl
    | cons c l ih =>
      rw [List.flatMap_cons, (writes_utf8EncodeChar c).scan_append, List.map_cons, ih]
      rfl
  rw [decodeLossy, encode, chars, String.ofList_toList]

/-- Only a line feed is written with the octet of a line feed. So octets may be cut at line feeds
before they are decoded. -/
theorem ten_mem_utf8EncodeChar : 10 ∈ String.utf8EncodeChar x ↔ x = '\n' := by
  constructor
  · intro mem
    -- In a character of several octets each of them is above 127.
    have writes := writes_utf8EncodeChar x
    generalize String.utf8EncodeChar x = bytes at mem writes
    cases writes with
    | one lead =>
      cases List.mem_singleton.mp mem
      rfl
    | two lead second =>
      simp only [List.mem_cons, List.not_mem_nil, or_false, ← UInt8.toNat_inj, inRange_iff,
        isContinuation_iff, UInt8.reduceToNat] at mem lead second
      omega
    | three lead second third =>
      simp only [List.mem_cons, List.not_mem_nil, or_false, ← UInt8.toNat_inj, inRange_iff,
        isSecondOfThree_iff, isContinuation_iff, UInt8.reduceToNat] at mem lead second third
      omega
    | four lead second third fourth =>
      simp only [List.mem_cons, List.not_mem_nil, or_false, ← UInt8.toNat_inj, inRange_iff,
        isSecondOfFour_iff, isContinuation_iff, UInt8.reduceToNat] at mem lead second third fourth
      omega
  · intro feed
    subst feed
    decide

end InstallMatrix.Text.Utf8
