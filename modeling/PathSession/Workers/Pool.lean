import PathSession.Duration
import PathSession.Fault
import PathSession.Journal

/-!
# The worker pool

A fixed number of channels, each drained by one worker.  A worker handles the tasks of its channel
one at a time and in order.  A channel holds a limited number of tasks, and who sends one more
waits until there is room.  A monitor looks after the workers: at regular times it waits on each
of them in turn, and replaces one that has ended.  Tasks left in the channel wait for the
replacement.

* `Job`: a task and what handling it takes;
* `Channel`, `Monitor`, `Pool`: the state;
* `Pool.send`, `Pool.advance`, `Pool.shutdown`: what may happen to it.

The shutdown signal reaches those that wait for it when it is given, in the order in which they
began to wait: idle workers, and the monitor between two rounds.  A worker that starts later does
not see the signal.
-/

namespace PathSession

/-- What handling a task comes to. -/
inductive Effort
  /-- it is done after some time -/
  | takes (time : Millis)
  /-- the worker fails at once, with a message or without one -/
  | fails (message : Option String)
  deriving DecidableEq, Repr

/-- A task and what handling it comes to. -/
structure Job (α : Type) where
  task : α
  effort : Effort
  deriving Repr

/-- What the worker of a channel does. -/
inductive WorkerState (α : Type)
  /-- spawned, but it has not run yet -/
  | spawned
  /-- waits for a task or the shutdown signal -/
  | idle
  /-- handles a task until a time; the shutdown signal may have come meanwhile -/
  | busy (task : α) (done : Millis) (signalled : Bool)
  | failed (message : Option String)
  | finished
  deriving Repr

/-- A channel: the tasks that wait, and its worker. -/
structure Channel (α : Type) where
  waiting : List (Job α)
  worker : WorkerState α
  deriving Repr

/-- A busy worker will find the shutdown signal when it is done. -/
def Channel.signalBusy {α : Type} (c : Channel α) : Channel α :=
  match c.worker with
  | .busy task done _ => { c with worker := .busy task done true }
  | _ => c

/-- What the monitor does.  Its rounds are due at fixed times; one that comes late starts at
once. -/
inductive Monitor
  /-- waits for its next round -/
  | resting (due : Millis)
  /-- waits on a worker up to a time, the round after this one being due at the given time -/
  | watching (worker : Nat) (deadline nextDue : Millis)
  | stopped
  deriving DecidableEq, Repr

/-- Those who wait for the shutdown signal. -/
inductive Waiter
  | worker (index : Nat)
  | monitor
  deriving DecidableEq, Repr

/-- A worker pool. -/
structure Pool (α : Type) where
  now : Millis
  /-- how many tasks may wait in a channel -/
  capacity : Nat
  interval : Millis
  checkTimeout : Millis
  channels : List (Channel α)
  monitor : Monitor
  /-- those who wait for the shutdown signal, longest first -/
  waiters : List Waiter
  /-- the signal was given, so that the monitor stops after its round -/
  signalled : Bool
  /-- what was handled, with the time at which it was done -/
  handled : List (Millis × α)
  journal : Journal
  deriving Repr

namespace Pool

variable {α : Type}

/-- The type of a failure's payload that is no message. -/
def payloadType : String := "alloc::boxed::Box<dyn core::any::Any + core::marker::Send>"

/-- Make a remark. -/
def remark (p : Pool α) (level : Level) (text : String) : Pool α :=
  { p with journal := p.journal ++ [⟨level, text, []⟩] }

/-- The worker of a channel. -/
def worker? (p : Pool α) (i : Nat) : Option (WorkerState α) :=
  p.channels[i]?.map Channel.worker

/-- Change what the worker of a channel does. -/
def setWorker (p : Pool α) (i : Nat) (w : WorkerState α) : Pool α :=
  { p with channels := p.channels.modify i fun c => { c with worker := w } }

/-- Begin to wait for the shutdown signal, behind all others. -/
def await (p : Pool α) (w : Waiter) : Pool α :=
  { p with waiters := p.waiters.filter (· ≠ w) ++ [w] }

/-- No longer wait for the shutdown signal. -/
def unawait (p : Pool α) (w : Waiter) : Pool α :=
  { p with waiters := p.waiters.filter (· ≠ w) }

/-- What is remarked on a worker that has ended, if it has. -/
def ending? (i : Nat) : WorkerState α → Option Entry
  | .failed (some message) => some ⟨.error, s!"session worker {i} panicked: {message}", []⟩
  | .failed none =>
    some ⟨.error, s!"session worker {i} panicked with a {payloadType} payload", []⟩
  | .finished => some ⟨.warn, s!"session worker {i} completed unexpectedly", []⟩
  | _ => none

/-- An idle worker takes the waiting tasks one after the other, until one of them keeps it busy or
makes it fail. -/
def drain (p : Pool α) (i : Nat) : List (Job α) → Pool α
  | [] =>
    ({ p with channels := p.channels.modify i fun c => { c with waiting := [], worker := .idle } }
      : Pool α).await (.worker i)
  | job :: rest =>
    let keep (w : WorkerState α) : Pool α :=
      ({ p with
        channels := p.channels.modify i fun c => { c with waiting := rest, worker := w } }
        : Pool α).unawait (.worker i)
    match job.effort with
    | .fails message => keep (.failed message)
    | .takes 0 => drain { p with handled := p.handled ++ [(p.now, job.task)] } i rest
    | .takes time => keep (.busy job.task (p.now + time) false)

/-- Let the worker of a channel do what it can do now. -/
def runWorker (p : Pool α) (i : Nat) : Pool α :=
  match p.channels[i]? with
  | none => p
  | some c =>
    match c.worker with
    | .spawned => (p.remark .debug s!"session worker {i} started").drain i c.waiting
    | .idle => if c.waiting.isEmpty then p else p.drain i c.waiting
    | .busy task done signalled =>
      if done ≤ p.now then
        let p : Pool α := { p with handled := p.handled ++ [(p.now, task)] }
        if signalled && c.waiting.isEmpty then
          (p.setWorker i .finished).remark .debug s!"session worker {i} shutting down"
        else
          p.drain i c.waiting
      else
        p
    | .failed _ => p
    | .finished => p

/-- Let every worker do what it can do now. -/
def runWorkers (p : Pool α) : Pool α := (List.range p.channels.length).foldl runWorker p

/-- A round of the monitor is over. -/
def rest (p : Pool α) (due : Millis) : Pool α :=
  if p.signalled then
    (({ p with monitor := .stopped }.remark .debug "worker monitor received shutdown signal").remark
      .debug "worker monitor exiting")
  else
    { p with monitor := .resting due }.await .monitor

/-- The monitor turns to a worker, or rests if there is none. -/
def watch (p : Pool α) (i : Nat) (nextDue : Millis) : Pool α :=
  if i < p.channels.length then
    { p with monitor := .watching i (p.now + p.checkTimeout) nextDue }
  else
    p.rest nextDue

/-- Let the monitor take its next step, if there is one it can take now. -/
def stepMonitor? (p : Pool α) : Option (Pool α) :=
  match p.monitor with
  | .stopped => none
  | .resting due =>
    if due ≤ p.now then some ((p.unawait .monitor).watch 0 (due + p.interval)) else none
  | .watching i deadline nextDue =>
    match (p.worker? i).bind (ending? i) with
    | some entry =>
      let p : Pool α := { p with journal := p.journal ++ [entry] }
      some (((p.setWorker i .spawned).remark .warn s!"session worker {i} restarted").watch (i + 1)
        nextDue)
    | none =>
      if deadline ≤ p.now then
        some ((p.remark .trace s!"session worker {i} is running").watch (i + 1) nextDue)
      else
        none

/-- Let the monitor take up to `n` steps. -/
def runMonitor : Nat → Pool α → Pool α
  | 0, p => p
  | n + 1, p =>
    match p.stepMonitor? with
    | none => p
    | some p => runMonitor n p

/-- Whether a worker has been spawned that has not run yet. -/
def hasSpawned (p : Pool α) : Bool :=
  p.channels.any fun c => match c.worker with
    | .spawned => true
    | _ => false

/-- Let the workers and the monitor do what they can do now, up to `n` times in turn. -/
def settle : Nat → Pool α → Pool α
  | 0, p => p
  | n + 1, p =>
    let p := p.runWorkers.runMonitor (p.channels.length + 2)
    if p.hasSpawned then settle n p else p

/-- The number of tasks that wait. -/
def backlog (p : Pool α) : Nat := p.channels.foldl (fun n c => n + c.waiting.length) 0

/-- A number of turns that suffices to settle: each but the last starts a worker, and a worker that
ends in the same instant used up a task. -/
def turns (p : Pool α) : Nat := 2 * p.channels.length + p.backlog + 2

/-- The times that workers and the monitor wait for. -/
def times (p : Pool α) : List Millis :=
  let workers := p.channels.filterMap fun c => match c.worker with
    | .busy _ done _ => some done
    | _ => none
  let monitor := match p.monitor with
    | .resting due => [due]
    | .watching _ deadline _ => [deadline]
    | .stopped => []
  workers ++ monitor

/-- The time at which something happens next by itself. -/
def nextTime? (p : Pool α) : Option Millis := p.times.min?

/-- Let time pass up to the given time, in up to `n` steps. -/
def runTo (horizon : Millis) : Nat → Pool α → Pool α
  | 0, p => p
  | n + 1, p =>
    match p.nextTime? with
    | none => p
    | some t =>
      if t ≤ horizon then
        let p : Pool α := { p with now := max p.now t }
        runTo horizon n (p.settle p.turns)
      else
        p

/-- A number of steps that suffices to reach the given time: a round has a step for each worker,
and rounds are due at distinct times. -/
def steps (p : Pool α) (horizon : Millis) : Nat :=
  (horizon + 2) * (p.channels.length + 2) + p.backlog

/-- A pool with the given number of channels, at least one, and their capacity.  Without an
interval there is no monitor. -/
def init (channels capacity : Nat) (interval checkTimeout : Millis) : Pool α :=
  let count := max channels 1
  let p : Pool α :=
    { now := 0
      capacity
      interval
      checkTimeout
      channels := List.replicate count { waiting := [], worker := .spawned }
      monitor := if interval = 0 then .stopped else .resting 0
      waiters := []
      signalled := false
      handled := []
      journal := [] }
  p.settle p.turns

/-- Whether the worker of a channel is there to handle tasks. -/
def isServed (p : Pool α) (i : Nat) : Bool :=
  match p.worker? i with
  | some (.failed _) | some .finished | none => false
  | _ => true

/-- Whether there is room for one more task in a channel. -/
def hasRoom (p : Pool α) (i : Nat) : Bool :=
  match p.channels[i]? with
  | some c => c.waiting.length < p.capacity
  | none => false

/-- Let time pass until there is room in a channel, in up to `n` steps. -/
def awaitRoom (i : Nat) : Nat → Pool α → Pool α
  | 0, p => p
  | n + 1, p =>
    if p.hasRoom i then
      p
    else
      match p.nextTime? with
      | none => p
      | some t =>
        let p : Pool α := { p with now := max p.now t }
        awaitRoom i n (p.settle p.turns)

/-- A time by which there is room again in a channel: a busy worker is done, and one that has ended
was replaced in this round of the monitor or in the next one. -/
def roomBy (p : Pool α) : Millis :=
  p.times.foldl max p.now + p.interval + 2 * (p.channels.length + 1) * p.checkTimeout

/-- Queue a task on a channel, once there is room. -/
def send (p : Pool α) (i : Nat) (job : Job α) : Except Fault (Pool α) :=
  if i < p.channels.length then
    let p := awaitRoom i (p.steps p.roomBy) p
    let p : Pool α :=
      { p with channels := p.channels.modify i fun c => { c with waiting := c.waiting ++ [job] } }
    .ok (p.settle p.turns)
  else
    .error (.invalidValue s!"channel {i} out of range, pool has {p.channels.length}")

/-- Let time pass. -/
def advance (p : Pool α) (time : Millis) : Pool α :=
  let horizon := p.now + time
  { runTo horizon (p.steps horizon) p with now := horizon }

/-- One that waits for the shutdown signal gets it. -/
def signal (p : Pool α) : Waiter → Pool α
  | .worker i => (p.setWorker i .finished).remark .debug s!"session worker {i} shutting down"
  | .monitor =>
    ({ p with monitor := .stopped }.remark .debug "worker monitor received shutdown signal").remark
      .debug "worker monitor exiting"

/-- Give the shutdown signal. -/
def shutdown (p : Pool α) : Pool α :=
  let p := p.waiters.foldl signal
    { p with waiters := [], signalled := true, channels := p.channels.map Channel.signalBusy }
  p.settle p.turns

end Pool

end PathSession
