import PathSession.Engine.Handler

/-!
# Sessions on a clock

The handler together with the schedule of timers.  Every event is handled at the instant at which
it comes, and every expiry at its deadline.

* `ClockedEngine`: the handler and the schedule;
* `ClockedEngine.take`: one event, now;
* `ClockedEngine.runTo`: every expiry up to a time;
* `Record`: what happened meanwhile, each with its time.
-/

namespace PathSession

/-- What happened, in order. -/
structure Record where
  effects : List (Millis × Effect)
  expired : List Alarm
  journal : Journal

namespace Record

/-- Nothing happened. -/
def none : Record := { effects := [], expired := [], journal := [] }

/-- One record after the other. -/
def append (r₁ r₂ : Record) : Record :=
  { effects := r₁.effects ++ r₂.effects
    expired := r₁.expired ++ r₂.expired
    journal := r₁.journal ++ r₂.journal }

instance : Append Record := ⟨Record.append⟩

/-- What a handled event shows, at a time. -/
def ofHandled (now : Millis) (h : Handled) : Record :=
  { effects := h.effects.map fun e => (now, e), expired := [], journal := h.journal }

/-- The commands among the effects. -/
def commands (r : Record) : List (Millis × Command) :=
  r.effects.filterMap fun
    | (t, .command c) => some (t, c)
    | _ => .none

/-- The timer requests among the effects. -/
def timers (r : Record) : List (Millis × TimerRequest) :=
  r.effects.filterMap fun
    | (t, .timer q) => some (t, q)
    | _ => .none

/-- The callbacks among the effects. -/
def notices (r : Record) : List (Millis × Notice) :=
  r.effects.filterMap fun
    | (t, .notice n) => some (t, n)
    | _ => .none

end Record

/-- The sessions of a node and their timers. -/
structure ClockedEngine (Q : Type) where
  handler : Handler
  schedule : Schedule Q

namespace ClockedEngine

variable {Q : Type} [AlarmQueue Q]

/-- An engine without sessions at time 0. -/
def init (h : Handler) : ClockedEngine Q := { handler := h, schedule := .empty }

/-- Ask the timers what an effect asks of them. -/
def schedule? (s : Schedule Q) : Effect → Schedule Q
  | .timer r => s.apply r
  | _ => s

/-- Handle one event now. -/
def take (e : ClockedEngine Q) (peer : PeerAddress) (event : SessionEvent) :
    ClockedEngine Q × Record :=
  let h := e.handler.process peer event
  ({ handler := h.next, schedule := h.effects.foldl schedule? e.schedule },
    .ofHandled e.schedule.now h)

/-- Handle the soonest expiry if it is not after the given time. -/
def expireNext? (e : ClockedEngine Q) (horizon : Millis) : Option (ClockedEngine Q × Record) :=
  match e.schedule.expire? horizon with
  | none => none
  | some (a, schedule) =>
    let (e, record) := { e with schedule }.take a.peer (.timerExpired a.kind a.token)
    some (e, { record with expired := a :: record.expired })

/-- Handle up to `n` expiries that are not after the given time. -/
def expireUpTo (horizon : Millis) : Nat → ClockedEngine Q → ClockedEngine Q × Record
  | 0, e => (e, .none)
  | n + 1, e =>
    match e.expireNext? horizon with
    | none => (e, .none)
    | some (e, first) =>
      let (e, more) := expireUpTo horizon n e
      (e, first ++ more)

/-- A number of expiries that can not be exceeded up to the given time.  An alarm is followed by at
most one of its kind: a keepalive at least a second later, a connect until the retries are used
up. -/
def expiryBound (e : ClockedEngine Q) (horizon : Millis) : Nat :=
  e.schedule.queue.length *
    (horizon - e.schedule.now + e.handler.settings.maxConnectRetries.toNat + 2)

/-- Let the clock run to the given time and handle every expiry at its deadline. -/
def runTo (e : ClockedEngine Q) (horizon : Millis) : ClockedEngine Q × Record :=
  let (e, record) := expireUpTo horizon (e.expiryBound horizon) e
  ({ e with schedule := e.schedule.rest horizon }, record)

/-- Handle one event now, and what expires at once. -/
def submit (e : ClockedEngine Q) (peer : PeerAddress) (event : SessionEvent) :
    ClockedEngine Q × Record :=
  let (e, first) := e.take peer event
  let (e, more) := e.runTo e.schedule.now
  (e, first ++ more)

/-- Let time pass. -/
def advance (e : ClockedEngine Q) (time : Millis) : ClockedEngine Q × Record :=
  e.runTo (e.schedule.now + time)

end ClockedEngine

end PathSession
