import PathSession.Engine.Calls
import PathSession.Engine.Clocked
import PathSession.Session.Script
import PathSession.Timers.Service
import PathSession.Wire.Reassembly
import PathSession.Workers.Pool

/-!
# An engine under a script

The sessions of a node with their timers and workers on a clock, while the connections are
replaced by the steps of a script.

* `Bench`: the engine, and what a script may speak of;
* `Bench.play`, `Bench.receive`, `Bench.advance`, `Bench.shutdown`: the steps.

After the shutdown signal no timer is armed and none expires, and so it is after a timer that
breaks the schedule.  A worker that the monitor replaced after the signal still handles
events, all others have gone.
-/

namespace PathSession

/-- An engine under a script. -/
structure Bench where
  engine : ClockedEngine WheelQueue
  /-- only shows which workers are there -/
  pool : Pool Unit
  reassembly : Reassembly
  /-- the timer service runs -/
  timed : Bool
  lastArmed : Table PeerAddress TimerSlots

namespace Bench

/-- The workers of an engine are looked after every five seconds, each for 200 ms. -/
def workers (count : Nat) : Pool Unit := .init count 1024 (Millis.ofSeconds 5) 200

/-- An engine whose session ids count from 1. -/
def init (role : Role) (settings : Settings) (workerCount limit : Nat) : Bench :=
  { engine := .init (.init role settings 1)
    pool := workers workerCount
    reassembly := .init limit
    timed := true
    lastArmed := .empty }

/-- The time. -/
def now (b : Bench) : Millis := b.engine.schedule.now

/-- Note the tokens that a step armed. -/
def noteArmed (armed : Table PeerAddress TimerSlots) : Millis × TimerRequest →
    Table PeerAddress TimerSlots
  | (_, .arm peer kind token _) =>
    armed.insert peer (((armed.get? peer).getD {}).set kind (some token))
  | (_, .cancel _) => armed

/-- The bench after something happened. -/
def after (b : Bench) (engine : ClockedEngine WheelQueue) (record : Record) : Bench × Record :=
  ({ b with
      engine
      timed := b.timed && !engine.schedule.broken
      lastArmed := record.timers.foldl noteArmed b.lastArmed }, record)

/-- Whether the worker of a peer is there. -/
def isServed (b : Bench) (peer : PeerAddress) : Bool :=
  b.pool.isServed (peer.channel b.pool.channels.length)

/-- One event for a peer. -/
def submit (b : Bench) (peer : PeerAddress) (event : SessionEvent) : Bench × Record :=
  if !b.isServed peer then
    (b, .none)
  else if b.timed then
    let (engine, record) := b.engine.submit peer event
    b.after engine record
  else
    let h := b.engine.handler.process peer event
    let record := Record.ofHandled b.now h
    b.after { b.engine with handler := h.next }
      { record with
        journal := record.journal ++ record.timers.map fun (_, r) => r.undelivered }

/-- The event a stimulus stands for; a session of its own accord neither starts nor is released. -/
def event? (b : Bench) (peer : PeerAddress) : Stimulus → Option SessionEvent
  | .event e => some e
  | .lastExpiry kind =>
    let slots := (b.lastArmed.get? peer).getD {}
    some (.timerExpired kind ((slots.get kind).getD 0))
  | .start => none
  | .release => none

/-- One stimulus for a peer. -/
def play (b : Bench) (peer : PeerAddress) (s : Stimulus) : Bench × Record :=
  match b.event? peer s with
  | some e => b.submit peer e
  | none => (b, .none)

/-- Several events for a peer. -/
def submitAll (b : Bench) (peer : PeerAddress) : List SessionEvent → Bench × Record
  | [] => (b, .none)
  | e :: rest =>
    let (b, first) := b.submit peer e
    let (b, more) := b.submitAll peer rest
    (b, first ++ more)

/-- Octets of a peer, and the error in their framing, if any. -/
def receive (b : Bench) (peer : PeerAddress) (data : Octets) :
    Bench × Record × Option FrameError :=
  let fed := b.reassembly.feed peer data
  let b := { b with reassembly := fed.next }
  match fed.result with
  | .ok messages =>
    let (b, record) := b.submitAll peer (messages.map .network)
    (b, record, none)
  | .error e =>
    let (b, record) := b.submit peer .framingFailed
    (b, record, some e)

/-- Change the registry. -/
def withRegistry (b : Bench) (registry : Registry) : Bench :=
  { b with engine := { b.engine with handler := { b.engine.handler with registry } } }

/-- The registry. -/
def registry (b : Bench) : Registry := b.engine.handler.registry

/-- Reserve a peer; tells whether that was possible. -/
def reserve (b : Bench) (peer : PeerAddress) : Bench × Bool :=
  match b.registry.reserve? peer with
  | some registry => (b.withRegistry registry, true)
  | none => (b, false)

/-- Drop the reservation of a peer. -/
def release (b : Bench) (peer : PeerAddress) : Bench :=
  b.withRegistry (b.registry.release peer)

/-- Let time pass. -/
def advance (b : Bench) (time : Millis) : Bench × Record :=
  let b := { b with pool := b.pool.advance time }
  if b.timed then
    let (engine, record) := b.engine.advance time
    b.after engine record
  else
    let schedule := { b.engine.schedule with now := b.now + time }
    ({ b with engine := { b.engine with schedule } }, .none)

/-- Give the shutdown signal. -/
def shutdown (b : Bench) : Bench := { b with pool := b.pool.shutdown, timed := false }

end Bench

end PathSession
