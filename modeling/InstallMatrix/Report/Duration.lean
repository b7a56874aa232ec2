import InstallMatrix.Text.Basic

/-!
# `InstallMatrix.Report.Duration`: running times in reports

Times from a minute on are shown in minutes and seconds. Shorter ones are shown
in seconds with one decimal, rounded from the binary number of 53 bits closest to
the time in seconds; a tie goes to the even digit. So 250 ms, which the binary
number hits exactly, reads `0.2s`, and 350 ms, where it lies below, reads `0.3s`.

Definitions: `nearestEven`, `binarySeconds`, `durationText`.
-/

set_option autoImplicit false

namespace InstallMatrix.Report

/-- The natural number closest to `a / b`, the even one of two at the same
distance. -/
def nearestEven (a b : Nat) : Nat :=
  let q := a / b
  let r := a % b
  if 2 * r < b then q else if b < 2 * r then q + 1 else q + q % 2

/-- The binary number of 53 bits closest to `ms / 1000`: its significand and how
many of its bits stand after the point. -/
def binarySeconds (ms : Nat) : Nat × Nat :=
  let places := 61 - Nat.log2 ms
  let places := if ms * Nat.pow 2 places < 1000 * Nat.pow 2 52 then places + 1 else places
  (nearestEven (ms * Nat.pow 2 places) 1000, places)

/-- The running time in tenths of a second. -/
def tenths (ms : Nat) : Nat :=
  let (significand, places) := binarySeconds ms
  nearestEven (10 * significand) (Nat.pow 2 places)

/-- A running time as shown in reports. -/
def durationText (ms : Nat) : String :=
  if 60000 ≤ ms then
    toString (ms / 60000) ++ "m" ++ Text.twoDigits (ms % 60000 / 1000) ++ "s"
  else toString (tenths ms / 10) ++ "." ++ toString (tenths ms % 10) ++ "s"

end InstallMatrix.Report
