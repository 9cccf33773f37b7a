/-!
# Durations

Time is counted in whole milliseconds.

* `Millis`, `Millis.ofSeconds`;
* `Millis.text`: the largest unit that is not empty, with the fraction it needs.
-/

namespace PathSession

/-- A duration or a point in time, in milliseconds. -/
abbrev Millis := Nat

namespace Millis

/-- Whole seconds. -/
def ofSeconds (s : Nat) : Millis := s * 1000

/-- The decimals of a number of thousandths, without trailing zeros. -/
def thousandths (n : Nat) : String :=
  if n = 0 then ""
  else if n % 100 = 0 then s!".{n / 100}"
  else if n % 10 = 0 then "." ++ (if n < 100 then "0" else "") ++ s!"{n / 10}"
  else "." ++ (if n < 10 then "00" else if n < 100 then "0" else "") ++ s!"{n}"

/-- A duration with its unit: seconds from one second on, else milliseconds. -/
def text (d : Millis) : String :=
  if 1000 ≤ d then s!"{d / 1000}{thousandths (d % 1000)}s"
  else if 0 < d then s!"{d}ms"
  else "0ns"

end Millis

end PathSession
