import PathSession.Table
import PathSession.Timers.Queue

/-!
# The schedule of timers

All timers of a node wait in one queue, ordered by deadline.  An index leads from a token to its
place in the queue, so that a timer can be cancelled by its token.

* `TimerRequest`, `Schedule`;
* `Schedule.arm`, `Schedule.cancel`, `Schedule.apply`: what is asked of it;
* `Schedule.expire?`: the soonest alarm, if it is due;
* `Schedule.advance`: every alarm that is due after some time.

A timer that is armed further ahead than the queue takes breaks the schedule: all alarms are
lost, and nothing can be armed any more.  If a token is armed twice, the index keeps the later
place only: cancelling reaches that one, and the expiry of either forgets the token.
-/

namespace PathSession

/-- What is asked of the timers. -/
inductive TimerRequest
  | arm (peer : PeerAddress) (kind : TimerKind) (token : TimerToken) (after : Millis)
  | cancel (token : TimerToken)
  deriving DecidableEq, Repr

/-- The waiting alarms, and the place of every token that can be cancelled. -/
structure Schedule (Q : Type) where
  now : Millis
  alarms : Q
  places : Table TimerToken Nat
  /-- a timer was armed too far ahead -/
  broken : Bool

namespace Schedule

variable {Q : Type} [AlarmQueue Q]

/-- No alarm at all, at time 0. -/
def empty : Schedule Q :=
  { now := 0, alarms := AlarmQueue.empty, places := .empty, broken := false }

/-- The waiting alarms, soonest first. -/
def queue (s : Schedule Q) : List Alarm := AlarmQueue.toList s.alarms

/-- Arm a timer. -/
def arm (s : Schedule Q) (peer : PeerAddress) (kind : TimerKind) (token : TimerToken)
    (after : Millis) : Schedule Q :=
  if s.broken then
    s
  else
    match AlarmQueue.insert? s.alarms (s.now + after) { peer, kind, token } with
    | some (place, alarms) => { s with alarms, places := s.places.insert token place }
    | none => { s with alarms := AlarmQueue.empty, places := .empty, broken := true }

/-- Cancel the timer a token was last armed for; a token that has none changes nothing. -/
def cancel (s : Schedule Q) (token : TimerToken) : Schedule Q :=
  match s.places.get? token with
  | none => s
  | some place =>
    { s with alarms := AlarmQueue.remove s.alarms place, places := s.places.erase token }

/-- Do what is asked. -/
def apply (s : Schedule Q) : TimerRequest → Schedule Q
  | .arm peer kind token after => s.arm peer kind token after
  | .cancel token => s.cancel token

/-- Take the soonest alarm out of the queue if its deadline is not after the given time.  The
clock moves on to the deadline. -/
def expire? (s : Schedule Q) (horizon : Millis) : Option (Alarm × Schedule Q) :=
  match AlarmQueue.next? s.alarms horizon with
  | none => none
  | some (a, alarms) =>
    some (a, { s with now := max s.now a.deadline, alarms, places := s.places.erase a.token })

/-- Move the clock to a time before which nothing is due. -/
def rest (s : Schedule Q) (horizon : Millis) : Schedule Q :=
  { s with now := horizon, alarms := AlarmQueue.wait s.alarms horizon }

/-- Take out up to `n` alarms that are due at a time, soonest first, and move the clock there. -/
def drain (horizon : Millis) : Nat → Schedule Q → List Alarm × Schedule Q
  | 0, s => ([], s.rest horizon)
  | n + 1, s =>
    match s.expire? horizon with
    | none => ([], s.rest horizon)
    | some (a, s) =>
      let (due, s) := drain horizon n s
      (a :: due, s)

/-- Take out every alarm that is due at the given time, soonest first, and move the clock there. -/
def advanceTo (s : Schedule Q) (horizon : Millis) : List Alarm × Schedule Q :=
  drain horizon s.queue.length s

/-- Let time pass. -/
def advance (s : Schedule Q) (time : Millis) : List Alarm × Schedule Q := s.advanceTo (s.now + time)

end Schedule

end PathSession
