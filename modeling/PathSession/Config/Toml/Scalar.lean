import PathSession.Config.Toml.Moment
import PathSession.Config.Toml.Text

/-!
# Numbers, truth values and moments in TOML

* `Toml.number?`: a number, whole or not;
* `Toml.scalar?`: whatever stands for itself.

An underscore may separate two digits.  Whole numbers fit into 64 bits with a sign, and may be
hexadecimal, octal or binary.
-/

namespace PathSession

namespace Toml

/-- Read the digits behind a first one. -/
def moreDigits? (isDigit : Char → Bool) : List Char → Option (List Char × List Char)
  | '_' :: c :: rest =>
    if isDigit c then (moreDigits? isDigit rest).map fun (ds, rest) => (c :: ds, rest) else none
  | ['_'] => none
  | c :: rest =>
    if isDigit c then (moreDigits? isDigit rest).map fun (ds, rest) => (c :: ds, rest)
    else some ([], c :: rest)
  | [] => some ([], [])

/-- Read digits, at least one. -/
def digits? (isDigit : Char → Bool) : List Char → Option (List Char × List Char)
  | c :: rest =>
    if isDigit c then (moreDigits? isDigit rest).map fun (ds, rest) => (c :: ds, rest) else none
  | [] => none

/-- Read the digits in front of a point; a zero stands alone. -/
def whole? : List Char → Option (List Char × List Char)
  | '0' :: rest => some (['0'], rest)
  | cs => digits? Char.isDigit cs

/-- A whole number, if it fits into 64 bits with a sign. -/
def int? (n : Int) : Option ConfigValue :=
  if -ConfigValue.signedLimit ≤ n ∧ n < ConfigValue.signedLimit then some (.int n) else none

/-- Read the digits of a base. -/
def based? (base : Nat) (cs : List Char) : Option (ConfigValue × List Char) :=
  let value (c : Char) := (Json.hexDigit? c).getD base
  (digits? (fun c => value c < base) cs).bind fun (ds, rest) =>
    (int? (ds.foldl (fun n c => n * base + value c) 0 : Nat)).map fun v => (v, rest)

/-- Read the digits behind a point, if there is one. -/
def fraction? : List Char → Option (List Char × List Char)
  | '.' :: rest => digits? Char.isDigit rest
  | cs => some ([], cs)

/-- Read an exponent, if there is one. -/
def exponent? : List Char → Option (Int × List Char)
  | 'e' :: rest | 'E' :: rest =>
    let (negative, rest) := NumberText.sign rest
    (digits? Char.isDigit rest).map fun (ds, rest) =>
      let e : Int := NumberText.digitsValue ds
      (if negative then -e else e, rest)
  | cs => some (0, cs)

/-- Whether a text goes on with a point or an exponent. -/
def goesOn : List Char → Bool
  | c :: _ => c = '.' || c = 'e' || c = 'E'
  | [] => false

/-- A binary number.  One that is too large is none, but below zero it is taken as infinite. -/
def real? : Binary64 → Option ConfigValue
  | .infinite false => none
  | x => some (.real x)

/-- Read a decimal number behind its sign. -/
def decimal? (negative : Bool) (cs : List Char) : Option (ConfigValue × List Char) := do
  let (whole, rest) ← whole? cs
  if goesOn rest then
    let (behind, rest) ← fraction? rest
    let (e, rest) ← exponent? rest
    let x := Binary64.ofDecimal negative (NumberText.digitsValue (whole ++ behind))
      (e - behind.length)
    (real? x).map fun v => (v, rest)
  else
    let n : Int := NumberText.digitsValue whole
    (int? (if negative then -n else n)).map fun v => (v, rest)

/-- Read a number behind its sign. -/
def unsigned? (negative : Bool) (cs : List Char) : Option (ConfigValue × List Char) :=
  match cs with
  | 'i' :: 'n' :: 'f' :: rest => some (.real (.infinite negative), rest)
  | 'n' :: 'a' :: 'n' :: rest => some (.real .undefined, rest)
  | cs => decimal? negative cs

/-- Read a number. -/
def number? (cs : List Char) : Option (ConfigValue × List Char) :=
  match cs with
  | '0' :: 'x' :: rest => based? 16 rest
  | '0' :: 'o' :: rest => based? 8 rest
  | '0' :: 'b' :: rest => based? 2 rest
  | '+' :: rest => unsigned? false rest
  | '-' :: rest => unsigned? true rest
  | cs => unsigned? false cs

/-- Read a value that is neither a string nor made of other values. -/
def scalar? (cs : List Char) : Option (ConfigValue × List Char) :=
  match cs with
  | 't' :: 'r' :: 'u' :: 'e' :: rest => some (.bool true, rest)
  | 'f' :: 'a' :: 'l' :: 's' :: 'e' :: rest => some (.bool false, rest)
  | cs =>
    match Moment.read cs with
    | .wrong => none
    | .found m rest => some (.text m.text, rest)
    | .absent => number? cs

end Toml

end PathSession
