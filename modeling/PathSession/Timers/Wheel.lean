import PathSession.Duration

/-!
# The wheel behind the schedule

How far ahead timers can be armed, and which of two with one deadline expires first, depends on
when the queue of timers was last looked at.  A wheel tells that.

* `Wheel`: how far a queue was turned, and when it is looked at next;
* `Wheel.level`, `Wheel.slotStart`: the slot that a deadline falls into;
* `Wheel.reaches`: whether a deadline is near enough;
* `Wheel.expect`, `Wheel.forget`, `Wheel.fire`, `Wheel.wait`: what an alarm that is armed,
  cancelled or due, and time that passes, do to the wheel.

A wheel has six levels, and a slot of a level is as long as the 64 slots of the level below.  A
deadline falls into the lowest level that tells it from the time the wheel was turned to.  The
queue is looked at when the slot of the first deadline begins, and its wheel is turned to that
time; from slot to slot the first deadline comes down to the lowest level, where it is exact.
-/

namespace PathSession

/-- How a queue of timers follows the clock. -/
structure Wheel where
  /-- the time it was turned to -/
  turned : Millis := 0
  /-- the time it was last looked at for -/
  looked : Millis := 0
  /-- when it is looked at next -/
  nextLook : Option Millis := none
  deriving DecidableEq, Repr

namespace Wheel

/-- The highest level. -/
def top : Nat := 5

/-- The length of a slot. -/
def slot (level : Nat) : Millis := Nat.pow 64 level

/-- The level of a deadline: the lowest one of whose whole turns the same one holds the deadline
and the time the wheel was turned to. -/
def level (w : Wheel) (deadline : Millis) : Nat :=
  ((List.range top).find? fun l =>
    decide (w.turned / slot (l + 1) = deadline / slot (l + 1))).getD top

/-- The beginning of the slot of a deadline. -/
def slotStart (w : Wheel) (deadline : Millis) : Millis :=
  deadline - deadline % slot (w.level deadline)

/-- The wheel reaches this far ahead: one less than `2 ^ 36` milliseconds, a little over two
years. -/
def reach : Millis := 68719476735

/-- Whether a deadline is within reach. -/
def reaches (w : Wheel) (deadline : Millis) : Bool := deadline - w.turned ≤ reach

/-- The wheel when an alarm is armed. -/
def expect (w : Wheel) (deadline : Millis) : Wheel :=
  { w with nextLook := some (min ((w.nextLook).getD deadline) deadline) }

/-- The wheel when an alarm was cancelled, with the first deadline before and after that. -/
def forget (w : Wheel) (before after : Option Millis) : Wheel :=
  match after with
  | none => { w with turned := max w.turned w.looked, nextLook := none }
  | some deadline =>
    if before.map w.slotStart = some (w.slotStart deadline) then w
    else { w with nextLook := some (w.slotStart deadline) }

/-- The wheel when the first alarm is due, with the deadline of the next one.  It was looked at
before if something else had been expected earlier. -/
def fire (w : Wheel) (deadline : Millis) (next : Option Millis) : Wheel :=
  let before := (w.nextLook.filter (· < deadline)).getD 0
  let turned := max (max w.turned before) (deadline - deadline % slot 1)
  match next with
  | none => { turned := max turned deadline, looked := deadline, nextLook := none }
  | some following =>
    let w : Wheel := { turned, looked := deadline }
    { w with nextLook := some (w.slotStart following) }

/-- The wheel after a look at a time at which nothing is due, with the first deadline. -/
def look (w : Wheel) (first : Option Millis) (time : Millis) : Wheel :=
  let w : Wheel := { turned := max w.turned time, looked := time }
  { w with nextLook := first.map w.slotStart }

/-- The wheel after at most `n` looks up to a time. -/
def looks (first : Option Millis) (horizon : Millis) : Nat → Wheel → Wheel
  | 0, w => w
  | n + 1, w =>
    match w.nextLook with
    | some time => if time ≤ horizon then looks first horizon n (w.look first time) else w
    | none => w

/-- The wheel after time passed without anything due, with the first deadline.  It is looked at
once for what was expected, and once for each level above the lowest. -/
def wait (w : Wheel) (first : Option Millis) (horizon : Millis) : Wheel :=
  looks first horizon (top + 1) w

end Wheel

end PathSession
