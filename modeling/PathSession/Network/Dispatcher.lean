import PathSession.Network.Command
import PathSession.Network.Link
import PathSession.Session.Basic
import PathSession.Wire.Reassembly

/-!
# The dispatcher

The dispatcher owns every connection.  It accepts and opens connections, hands out what sessions
send, turns octets that were read into messages and tells the sessions what happened.  It decides
nothing about a session.

* `Deed`: what it does to a socket, to an attempt or to a session;
* `Dispatcher`: which peer has a connection, or an attempt to open one;
* `Dispatcher.accept`, `Dispatcher.command`, `Dispatcher.report`, `Dispatcher.attempted`: what it
  does about each occurrence;
* `Occurrence`, `Dispatcher.step`: the same as one step function.

A peer has at most one connection.  Connections and attempts share one count of numbers, and an
occurrence that bears a number other than the peer's present one concerns nobody.
-/

namespace PathSession

/-- What the dispatcher does. -/
inductive Deed
  /-- put the socket at hand to work as a connection of a peer -/
  | register (id : Nat) (peer : PeerAddress)
  /-- close the socket at hand -/
  | refuse (peer : PeerAddress)
  /-- start to open a connection -/
  | attempt (id : Nat) (peer : PeerAddress)
  /-- give up opening a connection -/
  | abandon (id : Nat)
  /-- hand octets to the writer of a connection -/
  | write (id : Nat) (data : Octets)
  | stopReading (id : Nat)
  | drop (id : Nat)
  /-- tell a session -/
  | submit (peer : PeerAddress) (event : SessionEvent)
  | remark (entry : Entry)
  deriving DecidableEq, Repr

/-- The owner of the connections. -/
structure Dispatcher where
  /-- how many connections there may be -/
  limit : Nat
  connections : Table PeerAddress Nat
  connecting : Table PeerAddress Nat
  /-- connections whose stream could not be framed; what they read is ignored -/
  halted : List Nat
  reassembly : Reassembly
  /-- the number of the next connection or attempt.  An occurrence takes one at most, so that the
  count stays within 64 bits for longer than any node runs (`nextId_run_le`). -/
  nextId : Nat
  deriving Repr

/-- Something that happens to the dispatcher. -/
inductive Occurrence
  /-- a peer has connected -/
  | accepted (peer : PeerAddress)
  | command (c : Command)
  /-- a connection reports -/
  | report (peer : PeerAddress) (id : Nat) (r : Report)
  /-- an attempt to open a connection has ended -/
  | attempted (peer : PeerAddress) (id : Nat) (result : Except IoFault Unit)

namespace Loss

/-- The remark on a loss. -/
def entry (loss : Loss) (fields : List (String × String)) : Entry :=
  match loss with
  | endOfStream => ⟨.info, "peer closed the connection", fields⟩
  | anomalous => ⟨.warn, "connection stopped yielding data", fields⟩
  | failed fault => ⟨.warn, s!"connection failed: {fault.text}", fields⟩

end Loss

namespace Dispatcher

/-- A dispatcher without connections. -/
def init (maxConnection maxPackageSize : Nat) : Dispatcher :=
  { limit := maxConnection, connections := .empty, connecting := .empty, halted := []
    reassembly := .init maxPackageSize, nextId := 1 }

/-- The values that go with a remark on a peer. -/
def about (peer : PeerAddress) : List (String × String) := [("peer", peer.text)]

/-- The values that go with a remark on a connection. -/
def aboutLink (peer : PeerAddress) (id : Nat) : List (String × String) :=
  [("peer", peer.text), ("connection_id", toString id)]

/-- Whether there is room for a further connection. -/
def hasRoom (d : Dispatcher) : Bool := d.connections.size < d.limit

/-- A peer has connected.  It is turned away if it has a connection or an attempt, or if there are
too many connections. -/
def accept (d : Dispatcher) (peer : PeerAddress) : Dispatcher × List Deed :=
  if d.connections.contains peer || d.connecting.contains peer then
    (d, [.remark ⟨.warn, "peer already has a connection, rejecting", about peer⟩, .refuse peer])
  else if d.hasRoom then
    ({ d with connections := d.connections.insert peer d.nextId, nextId := d.nextId + 1 },
      [.register d.nextId peer,
        .remark ⟨.info, "accepted connection", aboutLink peer d.nextId⟩,
        .submit peer .accepted])
  else
    (d, [.remark ⟨.warn, "connection limit reached, rejecting",
      about peer ++ [("limit", toString d.limit)]⟩, .refuse peer])

/-- Open a connection to a peer.  An attempt that is still under way is replaced. -/
def connect (d : Dispatcher) (peer : PeerAddress) : Dispatcher × List Deed :=
  if d.connections.contains peer then
    (d, [.remark ⟨.warn, "already connected, ignoring connect", about peer⟩])
  else
    ({ d with connecting := d.connecting.insert peer d.nextId, nextId := d.nextId + 1 },
      .attempt d.nextId peer :: (d.connecting.get? peer).toList.map .abandon ++
        [.remark ⟨.debug, "connecting", about peer ++ [("attempt", toString d.nextId)]⟩])

/-- Write to a peer. -/
def send (d : Dispatcher) (peer : PeerAddress) (data : Octets) : Dispatcher × List Deed :=
  match d.connections.get? peer with
  | some id => (d, [.write id data])
  | none => (d, [.remark ⟨.trace, "no connection, message dropped", about peer⟩])

/-- Forget the connection of a peer, and what it had read. -/
def forget (d : Dispatcher) (peer : PeerAddress) : Dispatcher :=
  { d with
    connections := d.connections.erase peer
    halted := d.halted.filter fun id => d.connections.get? peer ≠ some id
    reassembly := d.reassembly.remove peer }

/-- Close the connection of a peer and give up opening one. -/
def close (d : Dispatcher) (peer : PeerAddress) : Dispatcher × List Deed :=
  let dropped : List Deed := match d.connections.get? peer with
    | some id => [.remark ⟨.debug, "closing connection", aboutLink peer id⟩, .drop id]
    | none => []
  ({ d.forget peer with connecting := d.connecting.erase peer },
    (d.connecting.get? peer).toList.map .abandon ++ dropped)

/-- A command of a session. -/
def command (d : Dispatcher) : Command → Dispatcher × List Deed
  | .connect peer => d.connect peer
  | .send peer data => d.send peer data
  | .close peer => d.close peer

/-- Octets were read.  Once they can not be framed the connection is read no further; it stays
until its session closes it. -/
def receive (d : Dispatcher) (peer : PeerAddress) (id : Nat) (data : Octets) :
    Dispatcher × List Deed :=
  let fed := d.reassembly.feed peer data
  let d := { d with reassembly := fed.next }
  match fed.result with
  | .ok messages =>
    (d, (Reassembly.feedJournal peer data fed).map .remark ++
      messages.map fun m => .submit peer (.network m))
  | .error e =>
    ({ d with halted := id :: d.halted },
      [.remark ⟨.warn, s!"framing failed: {e.fault.message}", aboutLink peer id⟩,
        .stopReading id, .submit peer .framingFailed])

/-- A connection reports.  Only the peer's present connection is heard. -/
def report (d : Dispatcher) (peer : PeerAddress) (id : Nat) (r : Report) :
    Dispatcher × List Deed :=
  if d.connections.get? peer ≠ some id then
    (d, [.remark ⟨.trace, "event of a closed connection ignored", aboutLink peer id⟩])
  else
    match r with
    | .data data => if d.halted.contains id then (d, []) else d.receive peer id data
    | .lost loss =>
      (d.forget peer,
        [.remark (loss.entry (aboutLink peer id)), .drop id, .submit peer .connectionLost])

/-- An attempt to open a connection has ended.  Only the peer's present attempt counts. -/
def attempted (d : Dispatcher) (peer : PeerAddress) (id : Nat) (result : Except IoFault Unit) :
    Dispatcher × List Deed :=
  if d.connecting.get? peer ≠ some id then
    (d, [.remark ⟨.trace, "stale connect result dropped",
      about peer ++ [("attempt", toString id)]⟩, .refuse peer])
  else
    let d := { d with connecting := d.connecting.erase peer }
    match result with
    | .error fault =>
      (d, [.remark ⟨.info, s!"connect failed: {fault.text}", about peer⟩,
        .submit peer .transportFailed])
    | .ok _ =>
      if d.hasRoom then
        ({ d with connections := d.connections.insert peer id },
          [.register id peer, .remark ⟨.info, "connected", aboutLink peer id⟩,
            .submit peer .transportUp])
      else
        (d, [.remark ⟨.warn, "connection limit reached, dropping outbound connection",
          about peer⟩, .submit peer .transportFailed, .refuse peer])

/-- What the dispatcher does about an occurrence. -/
def step (d : Dispatcher) : Occurrence → Dispatcher × List Deed
  | .accepted peer => d.accept peer
  | .command c => d.command c
  | .report peer id r => d.report peer id r
  | .attempted peer id result => d.attempted peer id result

/-- The dispatcher stops: every connection is dropped and every attempt given up. -/
def stop (d : Dispatcher) : List Deed :=
  .remark ⟨.debug, "dispatcher received shutdown signal", []⟩ ::
    d.connecting.entries.map (fun (_, id) => .abandon id) ++
    [.remark ⟨.debug, "dispatcher exiting, closing connections",
      [("connections", toString d.connections.size)]⟩] ++
    d.connections.entries.map fun (_, id) => .drop id

end Dispatcher

end PathSession
