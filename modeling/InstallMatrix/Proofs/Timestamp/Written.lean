import InstallMatrix.Proofs.Text.Basic
import InstallMatrix.Proofs.Timestamp.Calendar

/-!
# `InstallMatrix.Proofs.Timestamp.Written`: what is written of a time is read back

The reader takes the parts of a time one after the other, and each part ends where the text
behind it begins.

* `decimal_digits`: a number of a fixed width is read from its digits.
* `year?_writtenYear`, `field?_digits`, `fraction?_writtenFraction`: each part is read from what
  is written of it, and what stands behind it is left over.
* `read_parts`: so the text of a time is read as its parts, which `ofFields?` puts together.
* `ofFields?_civilFromDays`: the date of a day and a time of day make a time on that day.

`read_written` has this for every `Valid` time: one of a year there is, and within a leap second
only at the end of a minute. At any other place the surplus of a leap second would be read as
part of the next second.
-/

set_option autoImplicit false

namespace InstallMatrix.Timestamp

open Text

/-! ### Numbers of a fixed width -/

/-- No digits are written at width zero. -/
theorem toList_digits_zero (n : Nat) : (digits 0 n).toList = [] := by simp [digits]

/-- The last digit comes off the end. Inductions over a written number go from its end to its
front. -/
theorem toList_digits_succ (width n : Nat) :
    (digits (width + 1) n).toList
      = (digits width (n / 10)).toList ++ [Char.ofNat (48 + n % 10)] := by
  simp only [digits, String.toList_ofList, List.range_succ, List.map_append, List.map_singleton]
  congr 1
  · refine List.map_congr_left fun i mem => ?_
    have less : i < width := List.mem_range.mp mem
    have split : width + 1 - 1 - i = (width - 1 - i) + 1 := by omega
    rw [split, Nat.pow_eq, Nat.pow_eq, Nat.pow_succ', Nat.div_div_eq_div_mul]
  · simp

/-- As many digits are written as the width says. Small numbers are filled up, great ones are cut.
-/
theorem length_digits (width n : Nat) : (digits width n).toList.length = width := by
  simp [digits]

/-- At any other width something is written. -/
theorem toList_digits_ne_nil {width : Nat} (positive : width ≠ 0) (n : Nat) :
    (digits width n).toList ≠ [] := by
  refine List.ne_nil_of_length_pos ?_
  rw [length_digits]
  exact Nat.pos_of_ne_zero positive

/-- The character of a digit is a digit, and has its value. -/
theorem isDigit_digit {d : Nat} (small : d < 10) :
    (Char.ofNat (48 + d)).isDigit = true ∧ (Char.ofNat (48 + d)).toNat - 48 = d := by
  have each : ∀ d < 10,
      (Char.ofNat (48 + d)).isDigit = true ∧ (Char.ofNat (48 + d)).toNat - 48 = d := by decide
  exact each d small

/-- Only digits are written. A reader of digits therefore takes all of them. -/
theorem isDigit_digits (width n : Nat) : ∀ c ∈ (digits width n).toList, c.isDigit = true := by
  induction width generalizing n with
  | zero => simp [toList_digits_zero]
  | succ width ih =>
    intro c mem
    rw [toList_digits_succ, List.mem_append, List.mem_singleton] at mem
    obtain mem | rfl := mem
    · exact ih _ c mem
    · exact (isDigit_digit (Nat.mod_lt n (by decide))).1

/-- A number that has room is read from its digits. Leading zeros count nothing. -/
theorem decimal_digits {width n : Nat} (room : n < 10 ^ width) :
    decimal (digits width n).toList = n := by
  induction width generalizing n with
  | zero =>
    rw [Nat.pow_zero] at room
    rw [toList_digits_zero, Nat.lt_one_iff.mp room]
    rfl
  | succ width ih =>
    rw [Nat.pow_succ] at room
    rw [toList_digits_succ, decimal_concat, ih (by omega),
      (isDigit_digit (Nat.mod_lt n (by decide))).2]
    omega

/-! ### Reading a part -/

section Parts

variable {ds rest : List Char}

/-- A number is cut off where its digits end, if it has not more than asked for. What follows must
not begin with a digit. -/
theorem number?_append {width : Nat} (digits : ∀ c ∈ ds, c.isDigit = true) (filled : ds ≠ [])
    (fits : ds.length ≤ width) (ends : NoDigitHead rest) :
    number? width (ds ++ rest) = some (decimal ds, rest) := by
  have cut : ((ds ++ rest).take width).takeWhile Char.isDigit = ds := by
    rw [List.take_append, List.take_of_length_le fits]
    refine takeWhile_digits digits fun c mem => ends c ?_
    rw [List.head?_take] at mem
    split at mem
    · cases mem
    · exact mem
  simp only [number?, cut, List.isEmpty_iff, filled, if_false, List.drop_left]
  rfl

/-- No digit is a blank. -/
theorem skip_of_isDigit {d : Char} (digit : d.isDigit = true) (s : List Char) :
    skip (d :: s) = d :: s := by
  have visible : isBlank d = false := by
    obtain ⟨low, high⟩ : 48 ≤ d.toNat ∧ d.toNat ≤ 57 := Char.isDigit_iff_toNat.mp digit
    simp [isBlank]
    omega
  rw [skip, List.dropWhile_cons_of_neg (by simp [visible])]

/-- No blank is skipped before digits. The reader is generous, but there is nothing to be generous
about. -/
theorem skip_append (digits : ∀ c ∈ ds, c.isDigit = true) (filled : ds ≠ []) :
    skip (ds ++ rest) = ds ++ rest := by
  cases ds with
  | nil => exact absurd rfl filled
  | cons d ds => exact skip_of_isDigit (digits d List.mem_cons_self) _

/-- A number of a fixed width is read from its digits, also by a reader that would take more of
them. -/
theorem number?_digits {w width n : Nat} (positive : w ≠ 0) (fits : w ≤ width)
    (room : n < 10 ^ w) (ends : NoDigitHead rest) :
    number? width ((digits w n).toList ++ rest) = some (n, rest) := by
  rw [number?_append (isDigit_digits w n) (toList_digits_ne_nil positive n)
    ((length_digits w n).trans_le fits) ends, decimal_digits room]

/-- A field of two digits is read as its number, if no further digit follows. -/
theorem field?_digits {n : Nat} (room : n < 100) (ends : NoDigitHead rest) :
    field? 2 ((digits 2 n).toList ++ rest) = some (n, rest) := by
  rw [field?, skip_append (isDigit_digits 2 n) (toList_digits_ne_nil (by decide) n),
    number?_digits (by decide) (by decide) room ends]

/-- A fraction is read up to the letter behind it. Trailing zeros are written too, in groups of
three. -/
theorem fraction?_writtenFraction {nanos : Nat} (room : nanos < 1000000000) (s : List Char) :
    fraction? ((writtenFraction nanos).toList ++ 'Z' :: s) = some (nanos, 'Z' :: s) := by
  -- As many digits as are written, shifted to the ninth place.
  have group {w n : Nat} (positive : w ≠ 0) (fits : w ≤ 9) (inGroup : n < 10 ^ w) :
      fraction? (("." ++ digits w n).toList ++ 'Z' :: s)
        = some (n * 10 ^ (9 - w), 'Z' :: s) := by
    have read := number?_digits positive fits inGroup (noDigitHead_cons (c := 'Z') rfl s)
    simp only [String.toList_append, List.append_assoc]
    simp [fraction?, read, length_digits]
  unfold writtenFraction
  split_ifs with none thousandths millionths
  · subst none
    rfl
  all_goals
    rw [group (by decide) (by decide) (by omega)]
    congr
    omega

/-- Behind a minus sign the year is read with all its digits, and is negative. Such a year is
never cut to four digits. -/
theorem year?_minus (s : List Char) :
    year? ('-' :: s) = (number? s.length s).map fun (n, rest) => (-(n : Int), rest) := rfl

/-- Behind a plus sign the year is read with all its digits. -/
theorem year?_plus (s : List Char) :
    year? ('+' :: s) = (number? s.length s).map fun (n, rest) => ((n : Int), rest) := rfl

/-- Without a sign a year has up to four digits. -/
theorem year?_digits (digits : ∀ c ∈ ds, c.isDigit = true) (filled : ds ≠ []) :
    year? (ds ++ rest) = (number? 4 (ds ++ rest)).map fun (n, rest) => ((n : Int), rest) := by
  rw [year?, skip_append digits filled]
  cases ds with
  | nil => exact absurd rfl filled
  | cons d ds =>
    have apart {c : Char} (sign : c.isDigit = false) (t : List Char) :=
      cons_ne_cons_of_isDigit (digits d List.mem_cons_self) sign (ds ++ rest) t
    split
    · next same => exact absurd same (apart rfl _)
    · next same => exact absurd same (apart rfl _)
    · rfl

/-- The digits of a year with a sign are read however many they are, since the mark behind them
ends the number. -/
theorem number?_wide (n : Nat) (ends : NoDigitHead rest) {s : List Char}
    (written : s = (if n < 10000 then digits 4 n else toString n).toList ++ rest) :
    number? s.length s = some (n, rest) := by
  subst written
  split
  · next four => exact number?_digits (by decide) (by simp [length_digits]) (by omega) ends
  · have written : (toString n).toList = Nat.toDigits 10 n := by simp [toString]
    rw [written, number?_append (isDigit_toDigits n) Nat.toDigits_ne_nil (by simp) ends,
      decimal_toDigits]

/-- A year is read back, whether it has four digits or a sign and more of them. -/
theorem year?_writtenYear (year : Int) (ends : NoDigitHead rest) :
    year? ((writtenYear year).toList ++ rest) = some (year, rest) := by
  unfold writtenYear
  -- Four digits have no sign, any other year has one.
  split
  · next four =>
    have restored : (year.toNat : Int) = year := by omega
    rw [year?_digits (isDigit_digits 4 _) (toList_digits_ne_nil (by decide) _),
      number?_digits (by decide) (by decide) (by omega) ends]
    simp only [Option.map_some, restored]
  · next wide =>
    by_cases negative : year < 0
    · have restored : -(year.natAbs : Int) = year := by omega
      simp only [negative, if_true, String.toList_append, List.append_assoc]
      rw [show "-".toList = ['-'] by simp, List.singleton_append, year?_minus,
        number?_wide year.natAbs ends rfl]
      simp only [Option.map_some, restored]
    · have restored : (year.natAbs : Int) = year := by omega
      simp only [negative, if_false, String.toList_append, List.append_assoc]
      rw [show "+".toList = ['+'] by simp, List.singleton_append, year?_plus,
        number?_wide year.natAbs ends rfl]
      simp only [Option.map_some, restored]

/-- A mark that is no blank is read where it stands. -/
theorem mark?_cons {c : Char} (visible : isBlank c = false) (s : List Char) :
    mark? c (c :: s) = some s := by
  rw [mark?, skip, List.dropWhile_cons_of_neg (by simp [visible])]
  exact if_pos rfl

end Parts

/-! ### Whole times -/

/-- A time of a year there is. A leap second is at the end of its minute: only there may the
fraction reach a second or more. -/
structure Valid (t : Timestamp) : Prop where
  year : isYear (civilFromDays (t.seconds.fdiv 86400)).1 = true
  nanos : t.nanos < 1000000000 ∨ t.nanos < 2000000000 ∧ t.seconds.fmod 60 = 59

/-- Behind the seconds comes a dot or the mark at the end, and no digit. -/
theorem noDigitHead_writtenFraction (nanos : Nat) (s : List Char) :
    NoDigitHead ((writtenFraction nanos).toList ++ 'Z' :: s) := by
  unfold writtenFraction
  split
  · exact noDigitHead_cons rfl s
  split
  · simpa using noDigitHead_cons rfl _
  split <;> simpa using noDigitHead_cons rfl _

/-- The parts of a time are read one after the other. Each is ended by a mark that is no digit,
and the whole is handed on as numbers. -/
theorem read_parts (year : Int) {month day hour minute second nanos : Nat} (months : month < 100)
    (days : day < 100) (hours : hour < 100) (minutes : minute < 100) (seconds : second < 100)
    (room : nanos < 1000000000) :
    read (writtenYear year ++ "-" ++ digits 2 month ++ "-" ++ digits 2 day ++ "T"
        ++ digits 2 hour ++ ":" ++ digits 2 minute ++ ":" ++ digits 2 second
        ++ writtenFraction nanos ++ "Z")
      = ofFields? year month day hour minute second nanos 0 := by
  have whole : (writtenYear year ++ "-" ++ digits 2 month ++ "-" ++ digits 2 day ++ "T"
        ++ digits 2 hour ++ ":" ++ digits 2 minute ++ ":" ++ digits 2 second
        ++ writtenFraction nanos ++ "Z").toList
      = (writtenYear year).toList ++ '-' :: ((digits 2 month).toList ++ '-' ::
          ((digits 2 day).toList ++ 'T' :: ((digits 2 hour).toList ++ ':' ::
            ((digits 2 minute).toList ++ ':' :: ((digits 2 second).toList ++
              ((writtenFraction nanos).toList ++ ['Z'])))))) := by
    simp
  -- A number ends where a character follows that is no digit.
  have hyphen := noDigitHead_cons (c := '-') rfl
  have colon := noDigitHead_cons (c := ':') rfl
  have letter := noDigitHead_cons (c := 'T') rfl
  simp only [read, whole, year?_writtenYear year (hyphen _), mark?_cons (c := '-') rfl,
    mark?_cons (c := ':') rfl, field?_digits months (hyphen _), field?_digits days (letter _),
    field?_digits hours (colon _), field?_digits minutes (colon _),
    field?_digits seconds (noDigitHead_writtenFraction nanos []),
    fraction?_writtenFraction room, Option.bind_eq_bind, Option.bind_some]
  rfl

/-- The date of a day and a time of day make a time on that day. A sixtieth second is kept as the
fifty-ninth with a second more. -/
theorem ofFields?_civilFromDays {d : Int} (year : isYear (civilFromDays d).1 = true)
    {hour minute second : Nat} (hours : hour ≤ 23) (minutes : minute ≤ 59) (seconds : second ≤ 60)
    (nanos : Nat) :
    ofFields? (civilFromDays d).1 (civilFromDays d).2.1 (civilFromDays d).2.2 hour minute second
        nanos 0
      = some (if second = 60 then ⟨d * 86400 + (hour * 3600 + minute * 60 + 59 : Nat),
          nanos + 1000000000⟩
        else ⟨d * 86400 + (hour * 3600 + minute * 60 + second : Nat), nanos⟩) := by
  obtain ⟨month, month', day, day'⟩ := civilFromDays_date d
  have accepted : ((civilFromDays d).2.1 = 0 || 12 < (civilFromDays d).2.1
      || (civilFromDays d).2.2 = 0
      || daysInMonth (civilFromDays d).1 (civilFromDays d).2.1 < (civilFromDays d).2.2
      || 23 < hour || 59 < minute || 60 < second || !isYear (civilFromDays d).1
      || 1440 ≤ (0 : Int).natAbs) = false := by
    simp [month, day, year]
    omega
  have sameDay {k : Nat} (inDay : k < 86400) : (d * 86400 + k - 0 * 60).fdiv 86400 = d := by
    rw [Int.fdiv_eq_ediv_of_nonneg _ (by decide)]
    omega
  simp only [ofFields?, accepted, daysFromCivil_civilFromDays d, Bool.false_eq_true, if_false]
  -- A leap second is held as the last second of the minute with a second more of fraction.
  by_cases leap : second = 60
  · simp only [leap, if_true]
    rw [sameDay (by omega), if_pos year, Int.zero_mul, Int.sub_zero]
  · simp only [leap, if_false]
    rw [sameDay (by omega), if_pos year, Int.zero_mul, Int.sub_zero]

/-- The text of a time from the number of its day and the second of the day. This takes the
divisions out of the way that follow. -/
theorem written_eq {t : Timestamp} {d : Int} {n leap nanos : Nat}
    (day : t.seconds.fdiv 86400 = d) (time : t.seconds - d * 86400 = n)
    (parts : (if 1000000000 ≤ t.nanos then (1, t.nanos - 1000000000) else (0, t.nanos))
      = (leap, nanos)) :
    t.written = writtenYear (civilFromDays d).1 ++ "-" ++ digits 2 (civilFromDays d).2.1 ++ "-"
      ++ digits 2 (civilFromDays d).2.2 ++ "T" ++ digits 2 (n / 3600) ++ ":"
      ++ digits 2 (n / 60 % 60) ++ ":" ++ digits 2 (n % 60 + leap) ++ writtenFraction nanos
      ++ "Z" := by
  simp only [written, day, time, parts, Int.toNat_natCast]

/-- **Times are read back.** Whatever is written of a valid time is read as the same time, with
leap seconds and years outside four digits included. -/
theorem read_written {t : Timestamp} (valid : t.Valid) : read t.written = some t := by
  obtain ⟨year, nanos⟩ := valid
  generalize number : t.seconds.fdiv 86400 = d at year
  obtain ⟨n, inDay, time⟩ : ∃ n : Nat, n < 86400 ∧ t.seconds - d * 86400 = n := by
    rw [Int.fdiv_eq_ediv_of_nonneg _ (by decide)] at number
    exact ⟨(t.seconds - d * 86400).toNat, by omega, by omega⟩
  obtain ⟨-, month, -, day⟩ := civilFromDays_date d
  have day := day.trans (daysInMonth_le _ _)
  -- A fraction of a second or more marks a leap second.
  by_cases common : t.nanos < 1000000000
  · rw [written_eq number time (if_neg (by omega)),
      read_parts _ (by omega) (by omega) (by omega) (by omega) (by omega) common,
      ofFields?_civilFromDays year (by omega) (by omega) (by omega), if_neg (by omega)]
    congr
    omega
  · obtain ⟨room, last⟩ := nanos.resolve_left common
    rw [Int.fmod_eq_emod_of_nonneg _ (by decide)] at last
    rw [written_eq number time (if_pos (by omega)),
      read_parts _ (by omega) (by omega) (by omega) (by omega) (by omega) (by omega),
      ofFields?_civilFromDays year (by omega) (by omega) (by omega), if_pos (by omega)]
    congr <;> omega

end InstallMatrix.Timestamp
