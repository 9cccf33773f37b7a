/-!
# Sets of characters

* `CharSet`, `CharSet.contains`: a set of characters by the numbers in it;
* `CharSet.blank`: the blanks of all scripts;
* `CharSet.trimEnd`, `CharSet.trim`: a text without the blanks at its ends.
-/

namespace PathSession

/-- A set of characters: ranges of numbers, both ends included. -/
structure CharSet where
  ranges : List (Nat × Nat)
  deriving DecidableEq, Repr

namespace CharSet

/-- Whether a character is in a set. -/
def contains (s : CharSet) (c : Char) : Bool :=
  s.ranges.any fun (low, high) => low ≤ c.toNat && c.toNat ≤ high

/-- The blanks: what separates words or lines. -/
def blank : CharSet := ⟨
  [(0x9, 0xd), (0x20, 0x20), (0x85, 0x85), (0xa0, 0xa0), (0x1680, 0x1680), (0x2000, 0x200a),
    (0x2028, 0x2029), (0x202f, 0x202f), (0x205f, 0x205f), (0x3000, 0x3000)]⟩

/-- A text without the blanks at its end. -/
def trimEnd (cs : List Char) : List Char := (cs.reverse.dropWhile blank.contains).reverse

/-- A text without the blanks at its front. -/
def trimStart (cs : List Char) : List Char := cs.dropWhile blank.contains

/-- A text without the blanks at its ends. -/
def trim (cs : List Char) : List Char := trimEnd (trimStart cs)

end CharSet

end PathSession
