import PathSession.Binary64.Shortest

/-!
# Values of a configuration file

What a configuration file holds, whatever its format, and how its values are read.

* `ConfigValue`;
* `ConfigValue.asNat?`, `ConfigValue.asBool?`, `ConfigValue.asText?`, `ConfigValue.asTexts?`: a
  value read as a number below some size, a truth value, a text or a list of texts;
* `ConfigValue.fields?`: the values of a section's fields.

Reading is lenient: truth values may be written as words, numbers as texts, and texts as numbers.
-/

namespace PathSession

/-- A value of a configuration file. -/
inductive ConfigValue
  | null
  | bool (b : Bool)
  | int (n : Int)
  | real (x : Binary64)
  | text (s : String)
  | list (items : List ConfigValue)
  | table (entries : List (String × ConfigValue))

namespace ConfigValue

/-- The entries of a table. -/
abbrev Entries := List (String × ConfigValue)

instance : Inhabited ConfigValue := ⟨null⟩

/-- Every width holds at most this many values. -/
def widest : Nat := UInt64.size

/-- A signed number of 64 bits is below this, and not below its negative. -/
def signedLimit : Int := 9223372036854775808

/-- A text in lower case.  Letters outside of ASCII stay as they are, but for the Kelvin sign: the
letter that it stands for is part of names. -/
def lower (s : String) : String :=
  String.ofList (s.toList.map fun c => if c = '\u212a' then 'k' else c.toLower)

/-! ## Single values -/

/-- The number that a text of decimal digits stands for; a plus sign may go in front. -/
def digits? (s : String) : Option Nat :=
  let digits := match s.toList with
    | '+' :: rest => rest
    | cs => cs
  if digits ≠ [] ∧ digits.all Char.isDigit then
    some (digits.foldl (fun n c => n * 10 + (c.toNat - 48)) 0)
  else
    none

/-- The truth value that a word stands for, in any case. -/
def word? (s : String) : Option Bool :=
  let s := lower s
  if ["true", "on", "yes"].contains s then some true
  else if ["false", "off", "no"].contains s then some false
  else none

/-- A value as a number that is not negative. -/
def number? : ConfigValue → Option Nat
  | int n => if n < 0 then none else some n.toNat
  | real x => some (x.roundNat (widest - 1))
  | bool b => some b.toNat
  | text s =>
    match word? s with
    | some b => some b.toNat
    | none => digits? s
  | _ => none

/-- A value as one of the numbers below the given size. -/
def asNat? (size : Nat) (v : ConfigValue) : Option Nat := v.number?.filter (· < size)

/-- A value as a truth value. -/
def asBool? : ConfigValue → Option Bool
  | bool b => some b
  | int n => some (n ≠ 0)
  | real x => some !x.isZero
  | text "1" => some true
  | text "0" => some false
  | text s => word? s
  | _ => none

/-- A value as a text. -/
def asText? : ConfigValue → Option String
  | text s => some s
  | int n => some (toString n)
  | real x => some x.text
  | bool b => some (if b then "true" else "false")
  | _ => none

/-- A value as a list of texts. -/
def asTexts? : ConfigValue → Option (List String)
  | list items => items.mapM asText?
  | _ => none

/-- The word that a value names an alternative by: a text, or the only key of a table. -/
def asName? : ConfigValue → Option String
  | text s => some (lower s)
  | table [(key, _)] => some (lower key)
  | _ => none

/-! ## Tables and lists -/

/-- The entries of a table; what is none has no entries. -/
def entries : ConfigValue → Entries
  | table es => es
  | _ => []

/-- The items of a list; what is none has no items. -/
def items : ConfigValue → List ConfigValue
  | list vs => vs
  | _ => []

/-- Put a value under a key, in place of the one that was there. -/
def put : Entries → String → ConfigValue → Entries
  | [], key, v => [(key, v)]
  | (k, old) :: rest, key, v =>
    if k = key then (key, v) :: rest else (k, old) :: put rest key v

/-- The values of the named fields of a section: of a table by name, of a list by place. -/
def fields? (names : List String) : ConfigValue → Option (List (Option ConfigValue))
  | table entries => some (names.map fun name => entries.lookup name)
  | list items => some (names.zipIdx.map fun (_, i) => items[i]?)
  | _ => none

end ConfigValue

end PathSession
