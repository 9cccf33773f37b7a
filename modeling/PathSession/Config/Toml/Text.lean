import PathSession.Config.Json

/-!
# Texts and keys in TOML

* `Toml.skip`, `Toml.skipLines`, `Toml.endLine?`: blanks, comments and line ends;
* `Toml.string?`: strings of all four kinds;
* `Toml.key?`: keys, whose steps are separated by points.

A string stands between double quotes, where a backslash escapes, or between single quotes, where
everything stands for itself.  Between three quotes of either kind it may take several lines.
-/

namespace PathSession

namespace Toml

/-- Whether a character is a blank within a line. -/
def isBlank (c : Char) : Bool := c = ' ' || c = '\t'

/-- Skip blanks within a line. -/
def skip (cs : List Char) : List Char := cs.dropWhile isBlank

/-- Whether a character may stand in a comment or a string. -/
def isShown (c : Char) : Bool := c = '\t' || (0x20 ≤ c.toNat && c.toNat ≠ 0x7f)

/-- Skip a comment up to the end of its line. -/
def skipComment : List Char → List Char
  | '#' :: rest => rest.dropWhile isShown
  | cs => cs

/-- Skip one line end, if there is one. -/
def newline? : List Char → Option (List Char)
  | '\n' :: rest => some rest
  | '\r' :: '\n' :: rest => some rest
  | _ => none

/-- Skip blanks, comments and line ends, as within a list; `n` bounds the number of lines. -/
def skipLines : Nat → List Char → List Char
  | 0, cs => cs
  | n + 1, cs =>
    let cs := skipComment (skip cs)
    match newline? cs with
    | some rest => skipLines n rest
    | none => cs

/-- Skip blanks and line ends; `n` bounds the number of lines. -/
def skipBlankLines : Nat → List Char → List Char
  | 0, cs => cs
  | n + 1, cs =>
    match newline? (skip cs) with
    | some rest => skipBlankLines n rest
    | none => skip cs

/-- Skip the rest of a line, which holds at most a comment. -/
def endLine? (cs : List Char) : Option (List Char) :=
  match skipComment (skip cs) with
  | [] => some []
  | cs => newline? cs

/-! ## Strings -/

/-- The value of hexadecimal digits. -/
def hexValue? (cs : List Char) : Option Nat :=
  cs.foldlM (fun n c => (Json.hexDigit? c).map fun d => n * 16 + d) 0

/-- The character with a number, if there is one. -/
def char? (n : Nat) : Option Char := if n.isValidChar then some (Char.ofNat n) else none

/-- What is escaped behind a backslash. -/
def escape? : List Char → Option (Char × List Char)
  | 'u' :: a :: b :: c :: d :: rest =>
    ((hexValue? [a, b, c, d]).bind char?).map fun ch => (ch, rest)
  | 'U' :: a :: b :: c :: d :: e :: f :: g :: h :: rest =>
    ((hexValue? [a, b, c, d, e, f, g, h]).bind char?).map fun ch => (ch, rest)
  | '/' :: _ => none
  | c :: rest => (Json.escape? c).map fun ch => (ch, rest)
  | [] => none

/-- The number of quotes at the front of a text. -/
def quotes (quote : Char) (cs : List Char) : Nat := (cs.takeWhile (· = quote)).length

/-- Read the rest of a string between double quotes.  `acc` holds what was read, last first, and
`n` bounds the number of characters. -/
def basic? : Nat → List Char → List Char → Option (String × List Char)
  | 0, _, _ => none
  | n + 1, acc, cs =>
    match cs with
    | [] => none
    | '"' :: rest => some (String.ofList acc.reverse, rest)
    | '\\' :: rest => (escape? rest).bind fun (ch, rest) => basic? n (ch :: acc) rest
    | c :: rest => if isShown c then basic? n (c :: acc) rest else none

/-- Read the rest of a string between single quotes. -/
def literal? (cs : List Char) : Option (String × List Char) :=
  match cs.dropWhile fun c => isShown c && c ≠ '\'' with
  | '\'' :: rest => some (String.ofList (cs.takeWhile fun c => isShown c && c ≠ '\''), rest)
  | _ => none

/-- The end of a string between three quotes, in front of which `acc` was read: of more than three
quotes up to two belong to the string. -/
def close (quote : Char) (acc cs : List Char) : String × List Char :=
  let kept := min (quotes quote cs - 3) 2
  (String.ofList (acc.reverse ++ List.replicate kept quote), cs.drop (kept + 3))

/-- Read the rest of a string of several lines; escapes count if `escapes` is set, and a backslash
at the end of a line joins it with what comes next. -/
def lines? (quote : Char) (escapes : Bool) :
    Nat → List Char → List Char → Option (String × List Char)
  | 0, _, _ => none
  | n + 1, acc, cs =>
    match newline? cs with
    | some rest => lines? quote escapes n ('\n' :: acc) rest
    | none =>
      match cs with
      | [] => none
      | c :: rest =>
        if c = quote then
          if 3 ≤ quotes quote cs then some (close quote acc cs)
          else lines? quote escapes n (c :: acc) rest
        else if c = '\\' ∧ escapes then
          match newline? (skip rest) with
          | some rest => lines? quote escapes n acc (skipBlankLines rest.length rest)
          | none =>
            (escape? rest).bind fun (ch, rest) => lines? quote escapes n (ch :: acc) rest
        else if isShown c then
          lines? quote escapes n (c :: acc) rest
        else
          none

/-- Read a string.  The line end right behind three opening quotes does not count. -/
def string? (cs : List Char) : Option (String × List Char) :=
  match cs with
  | '"' :: '"' :: '"' :: rest =>
    lines? '"' true (rest.length + 1) [] ((newline? rest).getD rest)
  | '\'' :: '\'' :: '\'' :: rest =>
    lines? '\'' false (rest.length + 1) [] ((newline? rest).getD rest)
  | '"' :: rest => basic? (rest.length + 1) [] rest
  | '\'' :: rest => literal? rest
  | _ => none

/-! ## Keys -/

/-- Whether a character may stand in a bare key. -/
def isBare (c : Char) : Bool := c.isAlphanum || c = '_' || c = '-'

/-- Read one step of a key. -/
def step? : List Char → Option (String × List Char)
  | '"' :: rest => basic? (rest.length + 1) [] rest
  | '\'' :: rest => literal? rest
  | cs =>
    let bare := cs.takeWhile isBare
    if bare.isEmpty then none else some (String.ofList bare, cs.dropWhile isBare)

/-- Read the steps of a key with the blanks around them; `n` bounds their number. -/
def steps? : Nat → List Char → Option (List String × List Char)
  | 0, _ => none
  | n + 1, cs =>
    match step? (skip cs) with
    | none => none
    | some (s, rest) =>
      match skip rest with
      | '.' :: rest => (steps? n rest).map fun (steps, rest) => (s :: steps, rest)
      | rest => some ([s], rest)

/-- Keys have fewer steps than this, and values lie less deep in each other. -/
def limit : Nat := 80

/-- Read a key with the blanks around it. -/
def key? (cs : List Char) : Option (List String × List Char) := steps? (limit - 1) cs

end Toml

end PathSession
