import PathSession.Fault
import PathSession.Journal
import PathSession.Timers.Schedule

/-!
# The timer service

A schedule that runs until the node shuts down, or until it is asked for more than it can hold, and
hands each expiry to a receiver.

* `TimerService`: the schedule, whether it runs, and whether anyone receives its expiries;
* `TimerService.request`, `TimerService.advance`, `TimerService.shutdown`;
* `TimerRequest.undelivered`: what is remarked on a request that comes after the end.
-/

namespace PathSession

/-- What names an alarm in the journal. -/
def Alarm.fields (a : Alarm) : List (String × String) :=
  [("peer", a.peer.text), ("kind", a.kind.title), ("token", toString a.token)]

/-- The remark on a request that reaches no timer service. -/
def TimerRequest.undelivered : TimerRequest → Entry
  | .arm peer kind _ _ =>
    ⟨.debug, "timer service stopped, arm dropped", [("peer", peer.text), ("kind", kind.title)]⟩
  | .cancel token =>
    ⟨.debug, "timer service stopped, cancel dropped", [("token", toString token)]⟩

/-- A schedule at work.  Its alarms hang on a wheel unless another queue is named. -/
structure TimerService (Q : Type := WheelQueue) where
  schedule : Schedule Q
  running : Bool
  /-- whether there is a receiver for expiries -/
  attended : Bool

namespace TimerService

variable {Q : Type} [AlarmQueue Q]

/-- A service that has just started. -/
def start : TimerService Q := { schedule := .empty, running := true, attended := true }

/-- What a running service remarks on a request. -/
def remark (s : Schedule Q) : TimerRequest → Journal
  | .arm peer kind token after =>
    [⟨.trace, s!"timer armed for {Millis.text after}",
      [("peer", peer.text), ("kind", kind.title), ("token", toString token)]⟩]
  | .cancel token =>
    if s.places.contains token then
      [⟨.trace, "timer cancelled", [("token", toString token)]⟩]
    else
      []

/-- What is remarked on an expiry. -/
def expiryRemarks (attended : Bool) (a : Alarm) : Journal :=
  ⟨.trace, "timer expired", a.fields⟩ ::
    if attended then
      []
    else
      [⟨.warn, s!"failed to deliver timer expiry: {ClosedChannel.events.fault.message}",
        [("peer", a.peer.text), ("kind", a.kind.title)]⟩]

/-- Let time pass.  Yields the expiries that are received. -/
def advance (t : TimerService Q) (time : Millis) : TimerService Q × List Alarm × Journal :=
  if t.running then
    let (due, schedule) := t.schedule.advance time
    ({ t with schedule }, if t.attended then due else [],
      due.flatMap (expiryRemarks t.attended))
  else
    (t, [], [])

/-- Do what is asked; a timer that is due at once expires in the same step.  If that breaks the
schedule, the service breaks off without a word. -/
def request (t : TimerService Q) (r : TimerRequest) : TimerService Q × List Alarm × Journal :=
  if t.running then
    let schedule := t.schedule.apply r
    if schedule.broken then
      ({ t with schedule, running := false }, [], [])
    else
      let (next, due, journal) := { t with schedule }.advance 0
      (next, due, remark t.schedule r ++ journal)
  else
    (t, [], [r.undelivered])

/-- The receiver of expiries goes away. -/
def detach (t : TimerService Q) : TimerService Q := { t with attended := false }

/-- End the service. -/
def shutdown (t : TimerService Q) : TimerService Q × Journal :=
  if t.running then
    ({ t with running := false },
      [⟨.debug, "timer service received shutdown signal", []⟩,
        ⟨.debug, "timer service exiting", [("pending", toString t.schedule.places.size)]⟩])
  else
    (t, [])

end TimerService

end PathSession
