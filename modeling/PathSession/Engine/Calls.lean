import PathSession.Engine.Registry
import PathSession.Fault
import PathSession.Network.IoFault
import PathSession.Session.Basic

/-!
# Calls of collaborators

What a collaborator may ask of a running engine.  A call only checks the registry and queues an
event for the worker of the peer; the session itself is created and changed by that worker.

* `PeerAddress.channel`: the worker of a peer, by some number of the peer;
* `Desk`: what calls see of an engine;
* `Desk.submit`, `Desk.register`, `Desk.deliver`, `Desk.close`: the calls.

Registering takes the reservation first and gives it back if the event can not be queued.
-/

namespace PathSession

namespace PeerAddress

/-- A number of an endpoint that spreads the endpoints over the workers well enough, where no other
is given. -/
def key : PeerAddress → Nat
  | v4 a p => ((a.a.toNat * 31 + a.b.toNat) * 31 + a.c.toNat) * 31 + a.d.toNat + p.toNat
  | v6 a zone p => a.groups.toList.foldl (fun n g => n * 31 + g.toNat) (zone.toNat + p.toNat)

/-- The worker that handles all events of a peer, by the number that a key gives the peer. -/
def channel (peer : PeerAddress) (count : Nat) (key : PeerAddress → Nat := PeerAddress.key) : Nat :=
  key peer % count

end PeerAddress

/-- One event on its way to the worker that owns the peer's session. -/
structure Task where
  peer : PeerAddress
  event : SessionEvent
  deriving DecidableEq, Repr

/-- The queue of one worker. -/
structure WorkerQueue where
  tasks : List Task
  /-- whether it still takes tasks -/
  accepts : Bool
  deriving Repr

/-- What calls see of an engine: its role, its registry and the queues of its workers. -/
structure Desk where
  role : Role
  registry : Registry
  queues : List WorkerQueue
  /-- the number of a peer that its worker is found by; any other would do -/
  key : PeerAddress → Nat := PeerAddress.key

namespace Desk

/-- An engine that has just started, with at least one worker. -/
def init (role : Role) (workers : Nat) (key : PeerAddress → Nat := PeerAddress.key) : Desk :=
  { role
    registry := .empty
    queues := List.replicate (max workers 1) { tasks := [], accepts := true }
    key }

/-- A server that can not listen does not start. -/
def bindFailure (address : String) (cause : IoFault) : Fault :=
  .ioDetail s!"failed to bind listener to {address}: {cause.text}"

/-- Start an engine.  Only a server listens, and its address may be taken. -/
def start (role : Role) (workers : Nat) (address : String) (taken : Bool) : Except Fault Desk :=
  if role = .server ∧ taken then
    .error (bindFailure address .addressInUse)
  else
    .ok (init role workers)

/-- Whether an engine of a role listens. -/
def listens (d : Desk) : Bool := d.role = .server

/-- The worker of a peer. -/
def channelOf (d : Desk) (peer : PeerAddress) : Nat := peer.channel d.queues.length d.key

/-- Queue an event for the worker of its peer. -/
def submit (d : Desk) (t : Task) : Except Fault Desk :=
  match d.queues[d.channelOf t.peer]? with
  | none =>
    .error (.invalidValue
      s!"channel {d.channelOf t.peer} out of range, pool has {d.queues.length}")
  | some q =>
    if q.accepts then
      .ok { d with
        queues := d.queues.set (d.channelOf t.peer) { q with tasks := q.tasks ++ [t] } }
    else
      .error ClosedChannel.tasks.fault

/-- The engine after a call, and whether the call succeeded. -/
abbrev Reply := Desk × Except Fault Unit

/-- The engine after queueing an event, or as it was before. -/
def submitOr (d before : Desk) (t : Task) : Reply :=
  match d.submit t with
  | .ok d => (d, .ok ())
  | .error f => (before, .error f)

/-- Ask for a session to a peer.  Only a client initiates sessions. -/
def register (d : Desk) (peer : PeerAddress) : Reply :=
  if d.role = .client then
    match d.registry.reserve? peer with
    | none => (d, .error (.sessionExists peer))
    | some registry =>
      let reserved := { d with registry }
      reserved.submitOr { reserved with registry := registry.release peer }
        ⟨peer, .connectRequested⟩
  else
    (d, .error (.invalidOperation s!"a {d.role.title} node does not initiate sessions"))

/-- Hand over a data message for a peer. -/
def deliver (d : Desk) (peer : PeerAddress) (kind : MessageKind) (body : Octets) : Reply :=
  match Message.make? kind body with
  | .error o => (d, .error o.fault)
  | .ok m =>
    if d.registry.contains peer then
      d.submitOr d ⟨peer, .fromLocal m⟩
    else
      (d, .error (.unknownPeer peer))

/-- Ask for the end of a peer's session. -/
def close (d : Desk) (peer : PeerAddress) : Reply :=
  if d.registry.contains peer then
    d.submitOr d ⟨peer, .closeRequested⟩
  else
    (d, .error (.unknownPeer peer))

end Desk

end PathSession
