/-!
# Numbers in configuration files

The text of a number, split off the front of a text.

* `NumberText.span`: digits, with a point and an exponent if there are any;
* `NumberText.isWellFormed`: whether they are written as they should be;
* `NumberText.digitsValue`, `NumberText.power`: the values of the parts.
-/

namespace PathSession

/-- The parts of a number as it is written. -/
structure NumberText where
  negative : Bool
  whole : List Char
  /-- the digits behind the point, if there is one -/
  fraction : Option (List Char)
  /-- the exponent with its sign, if there is one -/
  exponent : Option (Bool × List Char)
  deriving DecidableEq, Repr

namespace NumberText

/-- The value of a decimal digit. -/
def digitValue (c : Char) : Nat := c.toNat - 48

/-- The value of decimal digits. -/
def digitsValue (cs : List Char) : Nat := cs.foldl (fun n c => n * 10 + digitValue c) 0

/-- Split a sign off. -/
def sign : List Char → Bool × List Char
  | '-' :: rest => (true, rest)
  | '+' :: rest => (false, rest)
  | cs => (false, cs)

/-- Split the digits behind a point off. -/
def spanFraction : List Char → Option (List Char) × List Char
  | '.' :: rest => (some (rest.takeWhile Char.isDigit), rest.dropWhile Char.isDigit)
  | cs => (none, cs)

/-- Split an exponent off. -/
def spanExponent : List Char → Option (Bool × List Char) × List Char
  | 'e' :: rest | 'E' :: rest =>
    let (negative, cs) := sign rest
    (some (negative, cs.takeWhile Char.isDigit), cs.dropWhile Char.isDigit)
  | cs => (none, cs)

/-- Split a number without its sign off the front of a text. -/
def span (negative : Bool) (cs : List Char) : NumberText × List Char :=
  let (fraction, rest) := spanFraction (cs.dropWhile Char.isDigit)
  let (exponent, rest) := spanExponent rest
  ({ negative, whole := cs.takeWhile Char.isDigit, fraction, exponent }, rest)

/-- Whether a number is written as it should be: no part is empty, and a whole part of several
digits does not start with 0. -/
def isWellFormed (n : NumberText) : Bool :=
  !n.whole.isEmpty && (n.whole.length = 1 || n.whole.head? ≠ some '0')
    && n.fraction.all (!·.isEmpty) && n.exponent.all (!·.2.isEmpty)

/-- Whether a number has neither a point nor an exponent. -/
def isWhole (n : NumberText) : Bool := n.fraction.isNone && n.exponent.isNone

/-- The exponent of a number, 0 if there is none. -/
def power (n : NumberText) : Int :=
  match n.exponent with
  | some (true, e) => -(digitsValue e : Int)
  | some (false, e) => digitsValue e
  | none => 0

end NumberText

end PathSession
