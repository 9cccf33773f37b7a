import PathSession.Binary64.Basic

/-!
# Decimal texts of binary numbers

* `Decimal`, `Decimal.text`: decimal numbers and how they are written;
* `Binary64.shortest`: the decimal number with the fewest digits that is nearer to a binary number
  than to any other one;
* `Binary64.text`: that number in digits.
-/

namespace PathSession

/-- The number `digits / 10 ^ places`. -/
structure Decimal where
  digits : Nat
  places : Nat
  deriving DecidableEq, Repr

/-- A decimal number without trailing zeros behind the point, and without a point if nothing is
behind it. -/
def Decimal.text (d : Decimal) : String :=
  let unit := Binary64.tenTo d.places
  let behind := Nat.toDigits 10 (d.digits % unit)
  let padded := List.replicate (d.places - behind.length) '0' ++ behind
  let shown := (padded.reverse.dropWhile (· = '0')).reverse
  let whole := toString (d.digits / unit)
  if d.places = 0 ∨ shown.isEmpty then whole else whole ++ "." ++ String.ofList shown

namespace Binary64

/-- What is rounded to a number that is not 0: the quotients from `low / unit` to `high / unit`
around `value / unit`, with both ends if `closed`. -/
structure Basin where
  low : Nat
  value : Nat
  high : Nat
  unit : Nat
  closed : Bool
  deriving DecidableEq, Repr

/-- What is rounded to `mantissa * 2 ^ exponent`.  Below a power of two numbers lie closer. -/
def basin (mantissa : Nat) (exponent : Int) : Basin :=
  let below := if mantissa * 2 = mantissaLimit ∧ lowest < exponent then 1 else 2
  let (factor, unit) := quotient 1 (exponent - 2)
  { low := (4 * mantissa - below) * factor
    value := 4 * mantissa * factor
    high := (4 * mantissa + 2) * factor
    unit
    closed := mantissa % 2 = 0 }

namespace Basin

/-- Whether `n * num / den` is in the basin. -/
def holds (b : Basin) (num den n : Nat) : Bool :=
  let x := n * num * b.unit
  if b.closed then b.low * den ≤ x && x ≤ b.high * den else b.low * den < x && x < b.high * den

/-- The multiple of `num / den` in the basin that is nearest to the value, the upper one of two
that are as near. -/
def nearest? (b : Basin) (num den : Nat) : Option Nat :=
  let down := b.value * den / (num * b.unit)
  let rest := 2 * (b.value * den % (num * b.unit))
  match b.holds num den down, b.holds num den (down + 1) with
  | true, true => some (if rest < num * b.unit then down else down + 1)
  | true, false => some down
  | false, true => some (down + 1)
  | false, false => none

/-- The number of digits in front of the point of the value, less those that are zero behind it. -/
def magnitude (b : Basin) : Int :=
  ((Nat.toDigits 10 (b.value * tenTo 400 / b.unit)).length : Int) - 400

/-- The decimal number of so many digits that is nearest to the value, if it is in the basin. -/
def decimal? (b : Basin) (digits : Nat) : Option Decimal :=
  let last := b.magnitude - digits
  if 0 ≤ last then
    (b.nearest? (tenTo last.toNat) 1).map fun n => ⟨n * tenTo last.toNat, 0⟩
  else
    (b.nearest? 1 (tenTo (-last).toNat)).map fun n => ⟨n, (-last).toNat⟩

end Basin

/-- The decimal number with the fewest digits that is rounded to a number; 17 digits are always
enough. -/
def shortest (mantissa : Nat) (exponent : Int) : Decimal :=
  if mantissa = 0 then
    ⟨0, 0⟩
  else
    ((List.range 17).findSome? fun n => (basin mantissa exponent).decimal? (n + 1)).getD ⟨0, 0⟩

/-- A number in digits. -/
def text : Binary64 → String
  | finite negative m e => (if negative then "-" else "") ++ (shortest m e).text
  | infinite negative => if negative then "-inf" else "inf"
  | undefined => "NaN"

end Binary64

end PathSession
