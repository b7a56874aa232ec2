import InstallMatrix.Data.JsonReader
import InstallMatrix.Data.JsonWriter
import InstallMatrix.Proofs.Text.Basic

/-!
# `InstallMatrix.Proofs.Data.Json`: what is written as JSON is read back

Each reader takes what was written for one thing and leaves the text behind it, whatever that
text is.

* `quotedRest_flatMap_escape`: a quoted text ends at its closing quote, and its escapes are
  read as the characters they stand for.
* `value_numeral`: a whole number of 64 bits is read, if the text behind it `Stops` it.
* `value_list`, `items_cons`, `items_last` and their like for records: one step of the two
  readers that call each other.
* `items_entries`, `fields_entries`: the entries of a list and of a record, by induction along
  them. Line breaks and indentation are passed over (`skipBlanks_newline`).

`Plain.readsBack` puts these together by induction on the data. The fuel is no matter: an entry
takes one unit, and is written with more characters than that. `read_pretty_append` is the
result for a whole text.
-/

set_option autoImplicit false

namespace InstallMatrix.Json

open Text

/-! ### Texts -/

/-- A character is written in one of three ways: by an escape of one letter, by its four digits if
it is a control character without such an escape, or as it is. The three are told apart by the
character alone. -/
theorem escape_cases (c : Char) :
    (∃ e, escape c = ['\\', e] ∧ shortEscape? e = some c) ∨
    (c.toNat < 0x20 ∧
      escape c = ['\\', 'u', '0', '0', hexDigit (c.toNat / 16), hexDigit (c.toNat % 16)]) ∨
    (c ≠ '"' ∧ c ≠ '\\' ∧ ¬ c.toNat < 0x20 ∧ escape c = [c]) := by
  unfold escape
  split_ifs <;> simp_all [shortEscape?]

/-- The digits of a control character are read as that character. Control characters are those below
thirty-two, so the first two of their four digits are zeros. -/
theorem hexUnit?_of_lt {n : Nat} (control : n < 0x20) :
    hexUnit? '0' '0' (hexDigit (n / 16)) (hexDigit (n % 16)) = some n := by
  have each : ∀ m < 0x20, hexUnit? '0' '0' (hexDigit (m / 16)) (hexDigit (m % 16)) = some m := by
    decide
  exact each n control

/-- A one-letter escape is read as its character. -/
theorem quotedRest_short {e c : Char} (short : shortEscape? e = some c) (s : List Char) :
    quotedRest ('\\' :: e :: s) = (quotedRest s).map fun p => (c :: p.1, p.2) := by
  have noUnit : e ≠ 'u' := by
    rintro rfl
    simp [shortEscape?] at short
  rw [quotedRest, short]
  exact fun _ _ _ _ _ same => absurd same noUnit

/-- What is written for a character is read as that character, and reading goes on behind it. This
is the step of the induction along a text. -/
theorem quotedRest_escape_append (c : Char) (s : List Char) :
    quotedRest (escape c ++ s) = (quotedRest s).map fun p => (c :: p.1, p.2) := by
  obtain ⟨e, written, short⟩ | ⟨control, written⟩ | ⟨noQuote, noSlash, visible, written⟩ :=
    escape_cases c
  · rw [written]
    exact quotedRest_short short s
  · -- A control character is no unit of a surrogate pair.
    have first : ¬ (0xD800 ≤ c.toNat ∧ c.toNat < 0xDC00) := by omega
    have second : ¬ (0xDC00 ≤ c.toNat ∧ c.toNat < 0xE000) := by omega
    simp [written, quotedRest, hexUnit?_of_lt control, first, second]
  · rw [written, List.singleton_append, quotedRest, if_neg visible]
    · exact noQuote
    · exact fun _ _ _ _ _ same => absurd same noSlash
    · exact fun _ _ same => absurd same noSlash

/-- A quoted text is read up to its closing quote, whatever comes after it. A quote inside it is
escaped, so none of these can be taken for the closing one. -/
theorem quotedRest_flatMap_escape (cs rest : List Char) :
    quotedRest (cs.flatMap escape ++ '"' :: rest) = some (cs, rest) := by
  induction cs with
  | nil => simp [quotedRest]
  | cons c cs ih => simp [quotedRest_escape_append, ih]

/-- A quoted text has a quote at either end, and between them what is written for each of its
characters. -/
theorem toList_quoted (s : String) :
    (quoted s).toList = '"' :: (s.toList.flatMap escape ++ ['"']) := by
  simp [quoted]

/-- Where a quoted text stands, its text is read as a value. The reader knows by the first quote
what kind of value it is. -/
theorem value_quoted (fuel : Nat) (s : String) (rest : List Char) :
    value (fuel + 1) ((quoted s).toList ++ rest) = some (.text s, rest) := by
  rw [toList_quoted, List.cons_append, List.append_assoc]
  simp [value, skipBlanks, quotedRest_flatMap_escape]

/-! ### Numbers -/

/-- Nothing at the beginning of the text could belong to a number before it: no further digit, no
fraction and no exponent. -/
def Stops (s : List Char) : Prop :=
  ∀ c ∈ s.head?, c.isDigit = false ∧ c ≠ '.' ∧ c ≠ 'e' ∧ c ≠ 'E'

variable {rest : List Char}

/-- The digits of a number end where the text behind it begins. -/
theorem Stops.noDigitHead (stops : Stops rest) : NoDigitHead rest := fun c mem => (stops c mem).1

/-- No fraction is read behind a number that is stopped. -/
theorem Stops.fraction? (stops : Stops rest) : Json.fraction? rest = some ([], rest) := by
  unfold Json.fraction?
  split
  · next s => exact absurd rfl (stops '.' rfl).2.1
  · rfl

/-- No exponent is read behind a number that is stopped. -/
theorem Stops.exponent? (stops : Stops rest) : Json.exponent? rest = some ([], rest) := by
  cases rest with
  | nil => rfl
  | cons c s =>
    obtain ⟨-, -, small, capital⟩ := stops c rfl
    simp [Json.exponent?, small, capital]

/-- Digits are read as the number they write, with its sign. A zero has no sign, because no sign is
written in front of it. -/
theorem number?_toDigits (negative : Bool) {n : Nat} (stops : Stops rest)
    (whole : isWhole (if negative then -(n : Int) else n) = true)
    (signed : negative = true → n ≠ 0) :
    number? negative (Nat.toDigits 10 n ++ rest)
      = some (.int (if negative then -(n : Int) else n), rest) := by
  have cut : digits (Nat.toDigits 10 n ++ rest) = (Nat.toDigits 10 n, rest) := by
    rw [digits, takeWhile_digits (isDigit_toDigits n) stops.noDigitHead,
      dropWhile_digits (isDigit_toDigits n) stops.noDigitHead]
  have value : natOfDigits (Nat.toDigits 10 n) = n := decimal_toDigits n
  -- Digits with a leading zero are refused, but for the one of zero.
  have accepted : ((Nat.toDigits 10 n).isEmpty || ((Nat.toDigits 10 n).head? == some '0'
      && (Nat.toDigits 10 n).length != 1)) = false := by
    by_cases zero : (Nat.toDigits 10 n).head? = some '0'
    · rw [eq_zero_of_head?_toDigits zero]
      decide
    · simp [zero, Nat.toDigits_ne_nil]
  have unsigned : (!(negative && (n : Int) == 0)) = true := by
    cases negative with
    | false => rfl
    | true => simpa using signed rfl
  simp [number?, cut, accepted, stops.fraction?, stops.exponent?, value, whole, unsigned]

/-- Where a digit stands, a number without a sign is read. No other kind of value begins with a
digit. -/
theorem value_of_isDigit {d : Char} (digit : d.isDigit = true) (fuel : Nat) (s : List Char) :
    value (fuel + 1) (d :: s) = number? false (d :: s) := by
  have visible : skipBlanks (d :: s) = d :: s := by
    refine if_neg ?_
    rintro (rfl | rfl | rfl | rfl) <;> revert digit <;> decide
  rw [value, visible]
  split <;> first
    | rfl
    | next same => exact absurd same (cons_ne_cons_of_isDigit digit rfl s _)

/-- A whole number of 64 bits is read back. What is written behind it has to stop it, or else its
first digits would be taken for a part of the number. -/
theorem value_numeral {n : Int} (whole : isWhole n = true) (stops : Stops rest) (fuel : Nat) :
    value (fuel + 1) ((numeral n).toList ++ rest) = some (.int n, rest) := by
  -- A minus stands before the digits of a negative number, and the rest is the same.
  cases n with
  | ofNat n =>
    have read := number?_toDigits false (n := n) stops whole nofun
    have digits := isDigit_toDigits n
    have written : (numeral (.ofNat n)).toList = Nat.toDigits 10 n := by simp [numeral, toString]
    rw [written]
    cases digits' : Nat.toDigits 10 n with
    | nil => exact absurd digits' Nat.toDigits_ne_nil
    | cons d ds =>
      rw [digits'] at read digits
      rw [List.cons_append, value_of_isDigit (digits d List.mem_cons_self)]
      exact read
  | negSucc n =>
    have read := number?_toDigits true (n := n + 1) stops whole
      (fun _ => Nat.succ_ne_zero n)
    have written : (numeral (.negSucc n)).toList = '-' :: Nat.toDigits 10 (n + 1) := by
      simp [numeral, toString]
    rw [written]
    exact read

/-! ### Lists and records -/

/-- A line break and the indentation behind it are blanks, so a reader passes over them. -/
theorem skipBlanks_newline (depth : Nat) (s : List Char) :
    skipBlanks ((newline depth).toList ++ s) = skipBlanks s := by
  have spaces (n : Nat) : skipBlanks (List.replicate n ' ' ++ s) = skipBlanks s := by
    induction n with
    | zero => rfl
    | succ n ih => simpa [List.replicate_succ, skipBlanks] using ih
  simpa [newline, skipBlanks] using spaces (2 * depth)

/-- There is nothing left to pass over once blanks were passed over. -/
theorem skipBlanks_skipBlanks (s : List Char) : skipBlanks (skipBlanks s) = skipBlanks s := by
  induction s with
  | nil => rfl
  | cons c s ih =>
    by_cases blank : c = ' ' ∨ c = '\n' ∨ c = '\r' ∨ c = '\t'
    · rw [skipBlanks, if_pos blank, ih]
    · rw [skipBlanks, if_neg blank, skipBlanks, if_neg blank]

section Blanks

variable {s t : List Char} (same : skipBlanks s = skipBlanks t)

include same

/-- Blanks in front of a value do not matter to the reader of values. -/
theorem value_congr (fuel : Nat) : value fuel s = value fuel t := by
  cases fuel with
  | zero => rfl
  | succ fuel => simp only [value, same]

/-- Blanks in front of the items of a list do not matter to their reader. -/
theorem items_congr (fuel : Nat) : items fuel s = items fuel t := by
  cases fuel with
  | zero => rfl
  | succ fuel => rw [items, items, value_congr same]

/-- Blanks in front of the fields of a record do not matter to their reader. -/
theorem fields_congr (fuel : Nat) : fields fuel s = fields fuel t := by
  cases fuel with
  | zero => rfl
  | succ fuel => simp only [fields, same]

end Blanks

/-- Behind an opening bracket either the closing one follows, or the items of a list are read. -/
theorem value_bracket (fuel : Nat) (s : List Char) :
    value (fuel + 1) ('[' :: s) = match skipBlanks s with
      | ']' :: s => some (.list [], s)
      | s => (items fuel s).map fun (vs, rest) => (.list vs, rest) := by
  rfl

/-- Behind an opening brace either the closing one follows, or the fields of a record are read. -/
theorem value_brace (fuel : Nat) (s : List Char) :
    value (fuel + 1) ('\x7b' :: s) = match skipBlanks s with
      | '\x7d' :: s => some (.record [], s)
      | s => (fields fuel s).map fun (fs, rest) => (.record fs, rest) := by
  rfl

/-- No item begins with the closing bracket. So a list whose items can be read is not taken for an
empty one. -/
theorem items_eq_none_of_bracket {s t : List Char} (bracket : skipBlanks s = ']' :: t)
    (fuel : Nat) : items fuel s = none := by
  match fuel with
  | 0 => rfl
  | 1 => rfl
  | fuel + 2 => simp [items, value, bracket, number?, digits]

/-- No field begins with the closing brace, and so a record whose fields can be read is not taken
for an empty one. -/
theorem fields_eq_none_of_brace {s t : List Char} (brace : skipBlanks s = '\x7d' :: t)
    (fuel : Nat) : fields fuel s = none := by
  cases fuel with
  | zero => rfl
  | succ fuel => simp [fields, brace]

/-- A list is read from the bracket on if its items are read behind it. -/
theorem value_list {fuel : Nat} {s : List Char} {vs : List Data}
    (read : items fuel s = some (vs, rest)) :
    value (fuel + 1) ('[' :: s) = some (.list vs, rest) := by
  rw [value_bracket]
  split
  · next bracket =>
    rw [items_eq_none_of_bracket bracket] at read
    cases read
  · rw [items_congr (skipBlanks_skipBlanks s), read]
    rfl

/-- A record is read from the brace on if its fields are read behind it. -/
theorem value_record {fuel : Nat} {s : List Char} {fs : List (String × Data)}
    (read : fields fuel s = some (fs, rest)) :
    value (fuel + 1) ('\x7b' :: s) = some (.record fs, rest) := by
  rw [value_brace]
  split
  · next brace =>
    rw [fields_eq_none_of_brace brace] at read
    cases read
  · rw [fields_congr (skipBlanks_skipBlanks s), read]
    rfl

/-- Items are read one by one. Behind an item that is not the last one there is a comma. -/
theorem items_cons {fuel : Nat} {s t : List Char} {v : Data} {vs : List Data}
    (first : value fuel s = some (v, ',' :: t)) (others : items fuel t = some (vs, rest)) :
    items (fuel + 1) s = some (v :: vs, rest) := by
  simp [items, first, skipBlanks, others]

/-- The last item is the one with the closing bracket behind it. There may be blanks in between. -/
theorem items_last {fuel : Nat} {s t : List Char} {v : Data}
    (last : value fuel s = some (v, t)) (ends : skipBlanks t = ']' :: rest) :
    items (fuel + 1) s = some ([v], rest) := by
  simp [items, last, ends]

/-- The name of a field with its colon. -/
def key (name : String) : List Char := (quoted name).toList ++ [':', ' ']

/-- The name of a field begins with a quote, so there are no blanks to pass over in front of it. -/
theorem skipBlanks_key (name : String) (s : List Char) :
    skipBlanks (key name ++ s)
      = '"' :: (name.toList.flatMap escape ++ '"' :: ':' :: ' ' :: s) := by
  simp [key, toList_quoted, skipBlanks]

/-- A colon is not a blank. -/
theorem skipBlanks_colon (s : List Char) : skipBlanks (':' :: s) = ':' :: s := rfl

/-- The blank between the colon and the value of a field does not matter. -/
theorem value_space (fuel : Nat) (s : List Char) : value fuel (' ' :: s) = value fuel s :=
  value_congr (s := ' ' :: s) (t := s) rfl fuel

/-- Fields are read one by one, each by its name and its value. Behind a field that is not the last
one there is a comma. -/
theorem fields_cons {fuel : Nat} {name : String} {s t : List Char} {v : Data}
    {fs : List (String × Data)} (first : value fuel s = some (v, ',' :: t))
    (others : fields fuel t = some (fs, rest)) :
    fields (fuel + 1) (key name ++ s) = some ((name, v) :: fs, rest) := by
  rw [fields, skipBlanks_key]
  simp [quotedRest_flatMap_escape, value_space, first, skipBlanks, others]

/-- The last field is the one with the closing brace behind it. There may be blanks in between. -/
theorem fields_last {fuel : Nat} {name : String} {s t : List Char} {v : Data}
    (last : value fuel s = some (v, t)) (ends : skipBlanks t = '\x7d' :: rest) :
    fields (fuel + 1) (key name ++ s) = some ([(name, v)], rest) := by
  rw [fields, skipBlanks_key]
  simp [quotedRest_flatMap_escape, skipBlanks_colon, value_space, last, ends]

/-! ### Layout -/

/-- Entries on lines of their own, after the first one each behind a comma. Lists and records are
both written so, and differ only in what an entry is. -/
def entries (depth : Nat) (first : String) (others : List String) : List Char :=
  first.toList ++ others.flatMap fun e => ',' :: ((newline depth).toList ++ e.toList)

/-- A block has its opening character first and its closing one last, each on a line with nothing
else behind or before it, and its entries in between, one level deeper. -/
theorem toList_block {left right : String} {l r : Char} (opening : left.toList = [l])
    (closing : right.toList = [r]) (depth : Nat) (first : String) (others : List String) :
    (block left right depth (first :: others)).toList
      = l :: ((newline (depth + 1)).toList ++ (entries (depth + 1) first others
        ++ ((newline depth).toList ++ [r]))) := by
  simp [block, entries, Text.joined, String.toList_intercalate, opening, closing,
    intercalate_cons_eq_flatMap, List.flatMap_map]

/-- A single entry has no comma behind it. -/
theorem entries_nil (depth : Nat) (first : String) : entries depth first [] = first.toList := by
  simp [entries]

/-- Two entries are parted by a comma and a line break. The second one begins the rest of the
entries. -/
theorem entries_cons (depth : Nat) (first second : String) (others : List String) :
    entries depth first (second :: others)
      = first.toList ++ ',' :: ((newline depth).toList ++ entries depth second others) := by
  simp [entries]

/-! ### Reading back -/

/-- Data with no numbers in it but whole ones of 64 bits. All that is written for results is of this
kind, and fractions are left out because their digits need not come back. -/
inductive Plain : Data → Prop
  | null : Plain .null
  | bool (b : Bool) : Plain (.bool b)
  | int {n : Int} (whole : isWhole n = true) : Plain (.int n)
  | text (s : String) : Plain (.text s)
  | list {items : List Data} (each : ∀ d ∈ items, Plain d) : Plain (.list items)
  | record {fields : List (String × Data)} (each : ∀ f ∈ fields, Plain f.2) :
    Plain (.record fields)

/-- A text is plain, whatever characters it has. -/
@[simp]
theorem plain_text (s : String) : Plain (.text s) := .text s

/-- A record is plain just if the values of its fields are. The names of the fields do not matter.
-/
@[simp]
theorem plain_record_iff {fields : List (String × Data)} :
    Plain (.record fields) ↔ ∀ f ∈ fields, Plain f.2 :=
  ⟨fun | .record each => each, .record⟩

/-- At every depth and before every text that cannot belong to a number, what is written is
read back, given as much fuel as there are characters. -/
def ReadsBack (d : Data) : Prop :=
  ∀ {depth fuel : Nat} {rest : List Char}, Stops rest →
    (prettyAt depth d).toList.length ≤ fuel →
    value fuel ((prettyAt depth d).toList ++ rest) = some (d, rest)

/-- A number is stopped by every character that is neither a digit nor one of those with which a
fraction or an exponent begins. -/
theorem stops_cons {c : Char} (other : c.isDigit = false ∧ c ≠ '.' ∧ c ≠ 'e' ∧ c ≠ 'E')
    (s : List Char) : Stops (c :: s) := by
  rintro d mem
  rw [List.head?_cons, Option.mem_some_iff] at mem
  exact mem ▸ other

/-- The entries of a list are read as its items, by induction along the entries. Each one takes a
unit of fuel, and it is written with at least one character, so there is enough of it. -/
theorem items_entries {depth fuel : Nat} {item : Data} {others : List Data} {t : List Char}
    (each : ∀ d ∈ item :: others, ReadsBack d) (stops : Stops t)
    (ends : skipBlanks t = ']' :: rest)
    (enough : (entries depth (prettyAt depth item) (prettyItems depth others)).length < fuel) :
    items fuel (entries depth (prettyAt depth item) (prettyItems depth others) ++ t)
      = some (item :: others, rest) := by
  induction others generalizing item fuel with
  | nil =>
    obtain ⟨fuel, rfl⟩ := Nat.exists_eq_add_one.mpr (Nat.zero_lt_of_lt enough)
    rw [prettyItems, entries_nil] at enough ⊢
    exact items_last (each item List.mem_cons_self stops (by omega)) ends
  | cons next others ih =>
    obtain ⟨fuel, rfl⟩ := Nat.exists_eq_add_one.mpr (Nat.zero_lt_of_lt enough)
    rw [prettyItems, entries_cons] at enough ⊢
    simp only [List.length_append, List.length_cons] at enough
    rw [List.append_assoc, List.cons_append, List.append_assoc]
    refine items_cons (each item List.mem_cons_self (stops_cons (by decide) _) (by omega)) ?_
    rw [items_congr (skipBlanks_newline depth _)]
    exact ih (fun d mem => each d (List.mem_cons_of_mem _ mem)) (by omega)

/-- The entry of a field is its quoted name, a colon and a blank, and its value. -/
theorem prettyFields_cons (depth : Nat) (f : String × Data) (others : List (String × Data)) :
    prettyFields depth (f :: others)
      = (quoted f.1 ++ ": " ++ prettyAt depth f.2) :: prettyFields depth others := rfl

/-- The entries of a record are read as its fields, by the same induction as for lists. What is new
is the name in front of each value. -/
theorem fields_entries {depth fuel : Nat} {f : String × Data} {others : List (String × Data)}
    {t : List Char} (each : ∀ g ∈ f :: others, ReadsBack g.2) (stops : Stops t)
    (ends : skipBlanks t = '\x7d' :: rest)
    (enough : (entries depth (quoted f.1 ++ ": " ++ prettyAt depth f.2)
      (prettyFields depth others)).length < fuel) :
    fields fuel (entries depth (quoted f.1 ++ ": " ++ prettyAt depth f.2)
      (prettyFields depth others) ++ t) = some (f :: others, rest) := by
  have written (f : String × Data) : (quoted f.1 ++ ": " ++ prettyAt depth f.2).toList
      = key f.1 ++ (prettyAt depth f.2).toList := by simp [key]
  -- The field in front is read by its own law. The induction is on those behind it.
  induction others generalizing f fuel with
  | nil =>
    obtain ⟨fuel, rfl⟩ := Nat.exists_eq_add_one.mpr (Nat.zero_lt_of_lt enough)
    rw [prettyFields, entries_nil, written] at enough ⊢
    rw [List.length_append] at enough
    rw [List.append_assoc]
    exact fields_last (each f List.mem_cons_self stops (by omega)) ends
  | cons next others ih =>
    obtain ⟨fuel, rfl⟩ := Nat.exists_eq_add_one.mpr (Nat.zero_lt_of_lt enough)
    rw [prettyFields_cons, entries_cons, written] at enough ⊢
    simp only [List.length_append, List.length_cons] at enough
    rw [List.append_assoc, List.append_assoc, List.cons_append, List.append_assoc]
    refine fields_cons (each f List.mem_cons_self (stops_cons (by decide) _) (by omega)) ?_
    rw [fields_congr (skipBlanks_newline depth _)]
    exact ih (fun g mem => each g (List.mem_cons_of_mem _ mem)) (by omega)

/-- The line break in front of a closing bracket or brace stops a number that stands before it. -/
theorem stops_newline (depth : Nat) (s : List Char) : Stops ((newline depth).toList ++ s) := by
  have head : (newline depth).toList = '\n' :: List.replicate (2 * depth) ' ' := by
    simp [newline]
  rw [head]
  exact stops_cons (by decide) _

/-- Nothing is written with no characters at all. The induction on data spends one unit of fuel for
each value, and this is why the length of the text is enough. -/
theorem Plain.length_pos {d : Data} (plain : Plain d) (depth : Nat) :
    0 < (prettyAt depth d).toList.length := by
  cases plain with
  | null => simp [prettyAt]
  | bool b => cases b <;> simp [prettyAt]
  | @int n _ => cases n <;> simp [prettyAt, numeral, toString, List.length_pos_iff]
  | text s => simp [prettyAt, toList_quoted]
  | @list items _ => cases items <;> simp [prettyAt, prettyItems, block]
  | @record fields _ => cases fields <;> simp [prettyAt, prettyFields, block]

/-- Enough fuel for a text is some, because no value is written as the empty text. -/
theorem Plain.exists_fuel {d : Data} (plain : Plain d) {depth fuel : Nat}
    (enough : (prettyAt depth d).toList.length ≤ fuel) : ∃ k, fuel = k + 1 :=
  Nat.exists_eq_add_one.mpr (Nat.lt_of_lt_of_le (plain.length_pos depth) enough)

/-- What is written of plain data is read back. The induction is on the nesting of lists and
records; along a list or a record it is `items_entries` or `fields_entries`. -/
theorem Plain.readsBack {d : Data} (plain : Plain d) : ReadsBack d := by
  -- Every reader spends one unit of fuel on a value and leaves enough for the parts.
  induction plain with
  | null =>
    intro depth fuel rest _ enough
    obtain ⟨fuel, rfl⟩ := Plain.null.exists_fuel enough
    simp [prettyAt, value, skipBlanks]
  | bool b =>
    intro depth fuel rest _ enough
    obtain ⟨fuel, rfl⟩ := (Plain.bool b).exists_fuel enough
    cases b <;> simp [prettyAt, value, skipBlanks]
  | int whole =>
    intro depth fuel rest stops enough
    obtain ⟨fuel, rfl⟩ := (Plain.int whole).exists_fuel enough
    exact value_numeral whole stops fuel
  | text s =>
    intro depth fuel rest _ enough
    obtain ⟨fuel, rfl⟩ := (Plain.text s).exists_fuel enough
    exact value_quoted fuel s rest
  | @list items each ih =>
    intro depth fuel rest _ enough
    obtain ⟨fuel, rfl⟩ := (Plain.list each).exists_fuel enough
    cases items with
    | nil => simp [prettyAt, prettyItems, block, value, skipBlanks]
    | cons item others =>
      rw [prettyAt, prettyItems, toList_block (l := '[') (r := ']') (by simp) (by simp)]
        at enough ⊢
      simp only [List.length_append, List.length_cons] at enough
      simp only [List.cons_append, List.append_assoc]
      refine value_list ?_
      rw [items_congr (skipBlanks_newline (depth + 1) _)]
      exact items_entries ih (stops_newline depth _) (skipBlanks_newline depth _) (by omega)
  | @record fields each ih =>
    intro depth fuel rest _ enough
    obtain ⟨fuel, rfl⟩ := (Plain.record each).exists_fuel enough
    cases fields with
    | nil => simp [prettyAt, prettyFields, block, value, skipBlanks]
    | cons f others =>
      rw [prettyAt, prettyFields_cons, toList_block (l := '\x7b') (r := '\x7d') (by simp) (by simp)]
        at enough ⊢
      simp only [List.length_append, List.length_cons] at enough
      simp only [List.cons_append, List.append_assoc]
      refine value_record ?_
      rw [fields_congr (skipBlanks_newline (depth + 1) _)]
      exact fields_entries ih (stops_newline depth _) (skipBlanks_newline depth _) (by omega)

/-- **JSON is read back.** What is written of plain data, with or without blanks behind it, is
read as that data. -/
theorem read_pretty_append {d : Data} (plain : Plain d) {t : String}
    (blank : skipBlanks t.toList = []) : read (pretty d ++ t) = some d := by
  -- What follows is blank, and a blank ends a numeral.
  have stops : Stops t.toList := by
    cases cs : t.toList with
    | nil => exact nofun
    | cons c s =>
      rw [cs, skipBlanks] at blank
      split at blank
      · next space =>
        refine stops_cons ?_ s
        obtain rfl | rfl | rfl | rfl := space <;> decide
      · cases blank
  have whole : value ((pretty d ++ t).toList.length + 1) (pretty d ++ t).toList
      = some (d, t.toList) := by
    rw [String.toList_append]
    exact plain.readsBack stops (by rw [pretty, List.length_append]; omega)
  rw [read, whole]
  simp [blank]

end InstallMatrix.Json
