import PathSession.Config.Number
import PathSession.Config.Value

/-!
# Configuration in JSON

Reading a JSON text.

* `Json.number?`: the value of a number;
* `Json.read?`: the value of a whole text.

Whole numbers are kept exactly if they fit into 64 bits with a sign.  Others are binary numbers,
found in two steps: the leading digits are taken as long as they stay below 2 ^ 64, and the number
next to them is multiplied by the power of ten that is left, or divided by it.
-/

namespace PathSession

namespace Json

/-- Skip blanks. -/
def skip (cs : List Char) : List Char :=
  cs.dropWhile fun c => c = ' ' || c = '\t' || c = '\n' || c = '\r'

/-- The value of a hexadecimal digit. -/
def hexDigit? (c : Char) : Option Nat :=
  if '0' ≤ c ∧ c ≤ '9' then some (c.toNat - 48)
  else if 'a' ≤ c ∧ c ≤ 'f' then some (c.toNat - 87)
  else if 'A' ≤ c ∧ c ≤ 'F' then some (c.toNat - 55)
  else none

/-- The value of four hexadecimal digits. -/
def unit? (a b c d : Char) : Option Nat := do
  let a ← hexDigit? a
  let b ← hexDigit? b
  let c ← hexDigit? c
  let d ← hexDigit? d
  some (((a * 16 + b) * 16 + c) * 16 + d)

/-- The character of two units that form a pair. -/
def pair? (high low : Nat) : Option Char :=
  if 0xd800 ≤ high ∧ high < 0xdc00 ∧ 0xdc00 ≤ low ∧ low < 0xe000 then
    some (Char.ofNat (0x10000 + (high - 0xd800) * 0x400 + (low - 0xdc00)))
  else
    none

/-- The character behind a backslash, apart from those given by number. -/
def escape? : Char → Option Char
  | '"' => some '"'
  | '\\' => some '\\'
  | '/' => some '/'
  | 'b' => some '\x08'
  | 'f' => some '\x0c'
  | 'n' => some '\n'
  | 'r' => some '\r'
  | 't' => some '\t'
  | _ => none

/-- Read the rest of a string behind its opening quote.  `acc` holds what was read, last first. -/
def string? (acc : List Char) : List Char → Option (String × List Char)
  | '"' :: rest => some (String.ofList acc.reverse, rest)
  | '\\' :: 'u' :: a :: b :: c :: d :: '\\' :: 'u' :: e :: f :: g :: h :: rest =>
    match unit? a b c d, unit? e f g h with
    | some high, some low =>
      match pair? high low with
      | some ch => string? (ch :: acc) rest
      | none =>
        if 0xd800 ≤ high ∧ high < 0xe000 then none
        else string? (Char.ofNat high :: acc) ('\\' :: 'u' :: e :: f :: g :: h :: rest)
    | _, _ => none
  | '\\' :: 'u' :: a :: b :: c :: d :: rest =>
    match unit? a b c d with
    | some n => if 0xd800 ≤ n ∧ n < 0xe000 then none else string? (Char.ofNat n :: acc) rest
    | none => none
  | '\\' :: c :: rest => (escape? c).bind fun c => string? (c :: acc) rest
  | c :: rest => if c.toNat < 0x20 then none else string? (c :: acc) rest
  | [] => none
termination_by cs => cs.length

/-! ## Numbers -/

/-- Take digits into a number as long as it stays below 2 ^ 64; the others are handed back. -/
def takeDigits (n : Nat) : List Char → Nat × List Char
  | [] => (n, [])
  | c :: rest =>
    let next := n * 10 + NumberText.digitValue c
    if next < UInt64.size then takeDigits next rest else (n, c :: rest)

/-- The greatest power of ten that is a number. -/
def greatestPower : Nat := 308

/-- A power of ten. -/
def power (e : Nat) : Binary64 := .ofDecimal false 1 e

/-- Divide a number by a power of ten, at most by the greatest one at a time. -/
def divide (x : Binary64) (e : Nat) : Binary64 :=
  if _h : e ≤ greatestPower then x.dividedBy (power e)
  else if x.isZero then x
  else divide (x.dividedBy (power greatestPower)) (e - greatestPower)
termination_by e
decreasing_by
  simp only [greatestPower] at *
  omega

/-- Multiply a number by a power of ten; the result may be too large. -/
def multiply? (x : Binary64) (e : Nat) : Option Binary64 :=
  if e ≤ greatestPower then some (x.times (power e)) |>.filter Binary64.isFinite
  else if x.isZero then some x
  else none

/-- The binary number of a text. -/
def real? (n : NumberText) : Option Binary64 :=
  let behind := n.fraction.getD []
  let (leading, left) := takeDigits 0 n.whole
  let (leading, unused) := takeDigits leading behind
  let e : Int := n.power + left.length - (behind.length - unused.length : Nat)
  let x := Binary64.ofNat leading
  (if 0 ≤ e then multiply? x e.toNat else some (divide x (-e).toNat)).map
    (Binary64.withSign n.negative)

/-- The value of a number.  Zero with a minus sign is not a whole number. -/
def number? (n : NumberText) : Option ConfigValue :=
  let value : Int := NumberText.digitsValue n.whole
  if !n.isWellFormed then none
  else if n.isWhole ∧ !n.negative ∧ value < ConfigValue.signedLimit then some (.int value)
  else if n.isWhole ∧ n.negative ∧ 0 < value ∧ value ≤ ConfigValue.signedLimit then
    some (.int (-value))
  else (real? n).map .real

/-! ## Values -/

/-- The words of JSON, and a number. -/
def atom? (cs : List Char) : Option (ConfigValue × List Char) :=
  let word := String.ofList (cs.takeWhile Char.isAlpha)
  let rest := cs.dropWhile Char.isAlpha
  match word with
  | "null" => some (.null, rest)
  | "true" => some (.bool true, rest)
  | "false" => some (.bool false, rest)
  | "" =>
    let (negative, cs) := match cs with
      | '-' :: cs => (true, cs)
      | cs => (false, cs)
    let (n, rest) := NumberText.span negative cs
    (number? n).map fun v => (v, rest)
  | _ => none

mutual

/-- Read a value with at most `depth` values around each other; `n` bounds the number of steps. -/
def value? (depth : Nat) : Nat → List Char → Option (ConfigValue × List Char)
  | 0, _ => none
  | n + 1, cs =>
    match skip cs, depth with
    | '"' :: rest, _ => (string? [] rest).map fun (s, rest) => (.text s, rest)
    | '[' :: rest, depth + 1 =>
      match skip rest with
      | ']' :: rest => some (.list [], rest)
      | rest => (items? depth n [] rest).map fun (vs, rest) => (.list vs, rest)
    | '\x7b' :: rest, depth + 1 =>
      match skip rest with
      | '\x7d' :: rest => some (.table [], rest)
      | rest => (members? depth n [] rest).map fun (es, rest) => (.table es, rest)
    | rest, _ => atom? rest

/-- Read the items of a list up to its end. -/
def items? (depth : Nat) :
    Nat → List ConfigValue → List Char → Option (List ConfigValue × List Char)
  | 0, _, _ => none
  | n + 1, acc, cs =>
    match value? depth n cs with
    | none => none
    | some (v, rest) =>
      match skip rest with
      | ',' :: rest => items? depth n (v :: acc) rest
      | ']' :: rest => some ((v :: acc).reverse, rest)
      | _ => none

/-- Read the members of an object up to its end; of two with one name the later counts. -/
def members? (depth : Nat) :
    Nat → ConfigValue.Entries → List Char → Option (ConfigValue.Entries × List Char)
  | 0, _, _ => none
  | n + 1, acc, cs =>
    match skip cs with
    | '"' :: rest =>
      match string? [] rest with
      | none => none
      | some (key, rest) =>
        match skip rest with
        | ':' :: rest =>
          match value? depth n rest with
          | none => none
          | some (v, rest) =>
            match skip rest with
            | ',' :: rest => members? depth n (ConfigValue.put acc key v) rest
            | '\x7d' :: rest => some (ConfigValue.put acc key v, rest)
            | _ => none
        | _ => none
    | _ => none

end

/-- Lists and objects lie at most this deep in each other. -/
def deepest : Nat := 127

/-- The value of a whole text. -/
def read? (text : String) : Option ConfigValue :=
  match value? deepest (text.length + 1) text.toList with
  | some (v, rest) => if (skip rest).isEmpty then some v else none
  | none => none

end Json

end PathSession
