import PathSession.Journal
import PathSession.Text.Alphanumeric

/-!
# Filters of the journal

Which entries are shown, by the level of an entry, the place in the program it comes from, and the
names of its values.

* `Level.rank`: levels from the gravest on;
* `LogFilter.ofText`: the filter that a text describes, such as `info` or
  `node::session=debug,warn`;
* `LogFilter.allows`: whether an entry is shown.

Of the rules that speak of an entry the one with the longest place counts, and of those for one
place the one that asks for a value.  Without any rule only errors are shown.
-/

namespace PathSession

/-- The place of a level, the gravest first. -/
def Level.rank : Level → Nat
  | error => 1
  | warn => 2
  | info => 3
  | debug => 4
  | trace => 5

/-- A rule of a filter: entries are shown up to a rank if they come from a place whose name starts
with a text, and have a value of some name if one is given. -/
structure LogRule where
  place : String
  value : Option String
  rank : Nat
  deriving DecidableEq, Repr

namespace LogRule

/-- Whether a rule speaks of an entry from a place with the given names of values. -/
def concerns (r : LogRule) (place : String) (names : List String) : Bool :=
  place.startsWith r.place && r.value.all names.contains

/-- Whether a rule gives way to another one that speaks of the same entries.  Of two values the
one whose name comes last in the alphabet counts, and of two equal rules the later one. -/
def yields (r other : LogRule) : Bool :=
  if r.place.length = other.place.length then
    match r.value, other.value with
    | some v, some w => !(w < v)
    | some _, none => false
    | none, _ => true
  else
    r.place.length < other.place.length

end LogRule

/-- Which entries are shown. -/
structure LogFilter where
  rules : List LogRule
  deriving DecidableEq, Repr

namespace LogFilter

/-- The number that digits stand for; a plus sign may go in front. -/
def number? (word : String) : Option Nat :=
  let digits := match word.toList with
    | '+' :: rest => rest
    | cs => cs
  if digits ≠ [] ∧ digits.all Char.isDigit then
    some (digits.foldl (fun n c => n * 10 + (c.toNat - 48)) 0)
  else
    none

/-- The rank that a word stands for: its name in any case, or its number; 0 shows nothing. -/
def rank? (word : String) : Option Nat :=
  match number? word with
  | some n => if n ≤ 5 then some n else none
  | none =>
    match word.toLower with
    | "off" => some 0
    | "error" => some 1
    | "warn" => some 2
    | "info" => some 3
    | "debug" => some 4
    | "trace" => some 5
    | _ => none

/-- The rank behind a place: everything is shown if none is given. -/
def rankBehind? : List Char → Option Nat
  | [] => some Level.trace.rank
  | ['='] => some Level.trace.rank
  | '=' :: word => rank? (String.ofList word)
  | _ => none

/-- What one part of the text of a filter says. -/
inductive Part
  | rule (r : LogRule)
  /-- something about spans, of which entries know nothing -/
  | spans
  deriving DecidableEq, Repr

/-- What is said behind a place and an opening bracket: the name of a span, and in braces the name
of a value, which may be followed by the value itself. -/
def bracketed? (place : String) (cs : List Char) : Option Part :=
  let isName (c : Char) := c ≠ ']' && c ≠ '\x7b'
  match cs.dropWhile isName with
  | ']' :: rest => (rankBehind? rest).map fun _ => .spans
  | '\x7b' :: rest =>
    let value := rest.takeWhile (· ≠ '\x7d')
    match rest.dropWhile (· ≠ '\x7d') with
    | '\x7d' :: ']' :: rest =>
      if value.isEmpty then
        none
      else
        (rankBehind? rest).map fun rank =>
          if cs.head? = some '\x7b' ∧ !value.contains '=' then
            .rule { place, value := some (String.ofList value), rank }
          else
            .spans
    | _ => none
  | _ => none

/-- What one part of the text of a filter says: a level, a place, or both. -/
def part? (text : String) : Option Part :=
  let cs := text.toList
  let isPlace (c : Char) := c ≠ '=' && c ≠ '['
  match cs with
  | [] => none
  | '[' :: rest => bracketed? "" rest
  | c :: _ =>
    if CharSet.alphanumeric.contains c || ['-', ':', '_'].contains c then
      let place := String.ofList (cs.takeWhile isPlace)
      match cs.dropWhile isPlace with
      | [] =>
        match rank? place with
        | some rank => some (.rule { place := "", value := none, rank })
        | none => some (.rule { place, value := none, rank := Level.trace.rank })
      | '[' :: rest => bracketed? place rest
      | rest => (rankBehind? rest).map fun rank => .rule { place, value := none, rank }
    else
      none

/-- The rule of a part, if it is one. -/
def Part.rule? : Part → Option LogRule
  | rule r => some r
  | spans => none

/-- The filter that a text describes.  Parts that make no sense are left out. -/
def ofText (text : String) : LogFilter :=
  match (text.splitOn ",").filterMap part? with
  | [] => ⟨[{ place := "", value := none, rank := Level.error.rank }]⟩
  | parts => ⟨parts.filterMap Part.rule?⟩

/-- The one of two rules that counts, the later one being `rule`. -/
def stronger (best : Option LogRule) (rule : LogRule) : Option LogRule :=
  match best with
  | none => some rule
  | some b => if b.yields rule then some rule else best

/-- Whether an entry from a place with the given names of values is shown. -/
def allows (f : LogFilter) (place : String) (names : List String) (level : Level) : Bool :=
  match (f.rules.filter (·.concerns place names)).foldl stronger none with
  | none => false
  | some r => level.rank ≤ r.rank

end LogFilter

end PathSession
