/-!
# Binary numbers of 64 bits

Real numbers as they are kept in 64 bits: a sign, 53 binary digits and an exponent.

* `Binary64`: such a number, or what stands beyond them;
* `Binary64.nearest`: the number next to a quotient;
* `Binary64.ofNat`, `Binary64.times`, `Binary64.dividedBy`: conversion and arithmetic, each with one
  rounding;
* `Binary64.roundNat`: the nearest whole number.

A quotient halfway between two numbers goes to the one whose last binary digit is 0.
-/

namespace PathSession

/-- A binary number of 64 bits. -/
inductive Binary64
  /-- `mantissa * 2 ^ exponent`, below zero if it is negative -/
  | finite (negative : Bool) (mantissa : Nat) (exponent : Int)
  | infinite (negative : Bool)
  /-- no number at all -/
  | undefined
  deriving DecidableEq, Repr

namespace Binary64

/-- Mantissas are below this. -/
def mantissaLimit : Nat := 9007199254740992

/-- The least exponent. -/
def lowest : Int := -1074

/-- The greatest exponent. -/
def highest : Int := 971

/-- A power of two. -/
def twoTo (n : Nat) : Nat := Nat.pow 2 n

/-- A power of ten. -/
def tenTo (n : Nat) : Nat := Nat.pow 10 n

/-- The whole number next to a quotient, the even one of two that are as near. -/
def nearestNat (num den : Nat) : Nat :=
  let down := num / den
  let rest := 2 * (num % den)
  if den < rest ∨ (rest = den ∧ down % 2 = 1) then down + 1 else down

/-- A quotient in units of a power of two. -/
def inUnits (num den : Nat) (exponent : Int) : Nat × Nat :=
  if 0 ≤ exponent then (num, den * twoTo exponent.toNat) else (num * twoTo (-exponent).toNat, den)

/-- The exponent with which a quotient, which is not 0, has a mantissa of 53 binary digits, or the
least one. -/
def exponentOf (num den : Nat) : Int :=
  let guess : Int := (Nat.log2 num : Int) - Nat.log2 den - 53
  let (a, b) := inUnits num den guess
  max (if a < mantissaLimit * b then guess else guess + 1) lowest

/-- Zero with a sign. -/
def zero (negative : Bool) : Binary64 := finite negative 0 lowest

/-- The number next to a quotient. -/
def nearest (negative : Bool) (num den : Nat) : Binary64 :=
  if num = 0 then
    zero negative
  else
    let exponent := exponentOf num den
    let (a, b) := inUnits num den exponent
    let mantissa := nearestNat a b
    let (mantissa, exponent) :=
      if mantissa = mantissaLimit then (mantissa / 2, exponent + 1) else (mantissa, exponent)
    if highest < exponent then infinite negative else finite negative mantissa exponent

/-- The number next to a whole number. -/
def ofNat (n : Nat) : Binary64 := nearest false n 1

/-- The size of a finite number as a quotient. -/
def quotient (mantissa : Nat) (exponent : Int) : Nat × Nat :=
  if 0 ≤ exponent then (mantissa * twoTo exponent.toNat, 1)
  else (mantissa, twoTo (-exponent).toNat)

/-- The size of a number times a quotient. -/
def scale (x : Binary64) (num den : Nat) : Binary64 :=
  match x with
  | finite negative m e =>
    let (a, b) := quotient m e
    nearest negative (a * num) (b * den)
  | x => x

/-- The product of two numbers, of which the second is finite and positive. -/
def times (x y : Binary64) : Binary64 :=
  match y with
  | finite _ m e => x.scale (quotient m e).1 (quotient m e).2
  | _ => undefined

/-- The quotient of two numbers, of which the second is finite and positive. -/
def dividedBy (x y : Binary64) : Binary64 :=
  match y with
  | finite _ m e => x.scale (quotient m e).2 (quotient m e).1
  | _ => undefined

/-- The number with the given sign. -/
def withSign (negative : Bool) : Binary64 → Binary64
  | finite _ m e => finite negative m e
  | infinite _ => infinite negative
  | undefined => undefined

/-- Whether a number is zero, of either sign. -/
def isZero : Binary64 → Bool
  | finite _ m _ => m = 0
  | _ => false

/-- Whether a number is finite. -/
def isFinite : Binary64 → Bool
  | finite _ _ _ => true
  | _ => false

/-- The nearest whole number that is not negative and not above a bound; a half is rounded up, and
what is no number counts as 0. -/
def roundNat (bound : Nat) : Binary64 → Nat
  | finite negative m e =>
    let (num, den) := quotient m e
    if negative then 0 else min ((2 * num + den) / (2 * den)) bound
  | infinite negative => if negative then 0 else bound
  | undefined => 0

/-- The number next to a decimal one, `digits * 10 ^ exponent`. -/
def ofDecimal (negative : Bool) (digits : Nat) (exponent : Int) : Binary64 :=
  let magnitude : Int := (Nat.toDigits 10 digits).length + exponent
  if digits = 0 ∨ magnitude < -330 then zero negative
  else if 330 < magnitude then infinite negative
  else if 0 ≤ exponent then nearest negative (digits * tenTo exponent.toNat) 1
  else nearest negative digits (tenTo (-exponent).toNat)

end Binary64

end PathSession
