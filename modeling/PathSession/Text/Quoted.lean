import PathSession.Text.Hidden
import PathSession.Wire.Octets

/-!
# Quoted text

Text and octets between quotes, with escapes for what would not show.

* `Quoted.text`: a string;
* `Quoted.octets`: a string of octets.
-/

namespace PathSession

namespace Quoted

/-- The digit for a value below 16. -/
def hexDigit (n : Nat) : Char :=
  if n < 10 then Char.ofNat (48 + n) else Char.ofNat (87 + n)

/-- The hexadecimal digits of a number, without leading zeros. -/
def hex (n : Nat) : List Char := Nat.toDigits 16 n

/-- A character between double quotes. -/
def char (c : Char) : List Char :=
  match c with
  | '\x00' => ['\\', '0']
  | '\t' => ['\\', 't']
  | '\n' => ['\\', 'n']
  | '\r' => ['\\', 'r']
  | '"' => ['\\', '"']
  | '\\' => ['\\', '\\']
  | c =>
    if CharSet.hidden.contains c then
      ['\\', 'u', '\x7b'] ++ hex c.toNat ++ ['\x7d']
    else
      [c]

/-- A string between double quotes. -/
def text (s : String) : String := "\"" ++ String.ofList (s.toList.flatMap char) ++ "\""

/-- An octet between double quotes: printable ASCII stands for itself. -/
def octet (b : UInt8) : List Char :=
  if b = 0 then ['\\', '0']
  else if b = 9 then ['\\', 't']
  else if b = 10 then ['\\', 'n']
  else if b = 13 then ['\\', 'r']
  else if b = 34 ∨ b = 92 then ['\\', Char.ofNat b.toNat]
  else if 32 ≤ b ∧ b < 127 then [Char.ofNat b.toNat]
  else ['\\', 'x', hexDigit (b.toNat / 16), hexDigit (b.toNat % 16)]

/-- A string of octets between double quotes. -/
def octets (data : Octets) : String := "b\"" ++ String.ofList (data.flatMap octet) ++ "\""

end Quoted

end PathSession
