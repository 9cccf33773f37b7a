import PathSession.Session.State

/-!
# Session ids and timer tokens

The numbers that a node hands out.

* `SessionIds`: session ids go round 1 to 255, and 0 is never used;
* `TimerToken.first`: timer tokens count up and are never used twice.
-/

namespace PathSession

/-- The session ids of one node, by the one that is next. -/
structure SessionIds where
  next : UInt8
  deriving DecidableEq, Repr

namespace SessionIds

/-- The ids from the given one on; 0 stands for 1. -/
def startingAt (first : UInt8) : SessionIds := ⟨max first 1⟩

/-- The id after a given one. -/
def successor (id : UInt8) : UInt8 := if id = 255 then 1 else id + 1

/-- Draw an id. -/
def draw (ids : SessionIds) : UInt8 × SessionIds := (ids.next, ⟨successor ids.next⟩)

/-- Draw several ids, in order. -/
def drawMany (ids : SessionIds) : Nat → List UInt8
  | 0 => []
  | n + 1 =>
    let (id, rest) := ids.draw
    id :: rest.drawMany n

@[simp] theorem length_drawMany (ids : SessionIds) (n : Nat) : (ids.drawMany n).length = n := by
  induction n generalizing ids with
  | zero => rfl
  | succ n ih => simp [drawMany, ih]

end SessionIds

namespace TimerToken

/-- The token of the first timer. -/
def first : TimerToken := 1

/-- The first tokens, in the order in which they are handed out. -/
def sequence (count : Nat) : List TimerToken := List.range' first count

end TimerToken

end PathSession
