import PathSession.Config.Basic
import PathSession.Engine.Calls
import PathSession.Engine.Handler
import PathSession.Network.Fabric
import PathSession.Wire.Content

/-!
# A node among hosts

A whole node, its sessions and its dispatcher, on a network in memory where some addresses take
connections and greet whoever connects.

* `NodeConfig.startable`: whether a node of a configuration starts;
* `Octets.withoutSessionIds`: a stream in which the ids that a node draws at random are blanked;
* `Node`, `Node.settle`: the node, until nobody has anything left to say;
* `Node.interrupt`: the end of the node.

No time passes: the hosts answer at once, and every timer of a session runs for seconds.
-/

namespace PathSession

/-- Whether an address belongs to the machine itself. -/
def Ipv4.isOwn (a : Ipv4) : Bool := a.a = 127 || a = ⟨0, 0, 0, 0⟩

/-- A node with a configured peer that is no address does not start, and neither does a server
that is to listen on an address of another machine. -/
def NodeConfig.startable (c : NodeConfig) : Except Fault Unit := do
  let _ ← c.general.peerAddresses
  let address := c.network.listenAddress
  match c.general.role, PeerAddress.ofText? address with
  | .server, some (.v4 a _) =>
    if a.isOwn then .ok () else .error (Desk.bindFailure address .addressNotAvailable)
  | _, _ => .ok ()

/-! ## Session ids -/

namespace Message

/-- Set the last octet of a message to 0. -/
def blankLast (m : Message) : Message := { m with body := m.body.dropLast ++ [0] }

/-- The message without the session id it proposes: the last octet of an OPEN, and of an ERROR
with a counter proposal. -/
def withoutSessionId (m : Message) : Message :=
  match m.content with
  | .ok (.opening _) => m.blankLast
  | .ok (.error _ (some _)) => m.blankLast
  | _ => m

end Message

/-- A stream whose messages propose no session ids. -/
def Octets.withoutSessionIds (stream : Octets) : Octets :=
  let parsed := Frame.parseAll Message.maxSize stream
  (parsed.messages.flatMap fun m => m.withoutSessionId.encode) ++ parsed.rest

/-! ## The node -/

/-- An address that takes connections, and what it writes on each. -/
structure GreetingHost where
  peer : PeerAddress
  greeting : Octets

namespace GreetingHost

/-- The name of a host on the network. -/
def name (h : GreetingHost) : String := h.peer.text

end GreetingHost

/-- A node on a network of hosts. -/
structure Node where
  handler : Handler
  fabric : Fabric
  hosts : List GreetingHost
  /-- how many connections of hosts have been greeted -/
  greeted : Nat
  received : Table String Octets
  notices : List Notice

namespace Node

/-- A node that has just started. -/
def init (c : NodeConfig) (hosts : List GreetingHost) : Node :=
  let n := c.network
  let reader := Reader.new n.readBufferSize.toNat n.maxEmptyReads
  let d := Dispatcher.init n.maxConnection.toNat n.maxPackageSize.toNat
  let f := Fabric.init d reader (c.general.role = .server) true
  { handler := .init c.general.role c.session.settings 1
    fabric := hosts.foldl (fun f h => f.host h.name h.peer) f
    hosts, greeted := 0, received := .empty, notices := [] }

/-- Give an event to the session of a peer. -/
def submit (n : Node) (peer : PeerAddress) (event : SessionEvent) : Node :=
  let h := n.handler.process peer event
  let commands := h.effects.filterMap fun
    | .command c => some c
    | _ => none
  let notices := h.effects.filterMap fun
    | .notice x => some x
    | _ => none
  { n with
    handler := h.next, fabric := n.fabric.order commands, notices := n.notices ++ notices }

/-- Open a session to a peer that has none. -/
def register (n : Node) (peer : PeerAddress) : Node :=
  match n.handler.registry.reserve? peer with
  | none => n
  | some registry => { n with handler := { n.handler with registry } }.submit peer .connectRequested

/-- Every connection of a host that was not greeted yet is. -/
def greet (n : Node) : Node :=
  let fresh := n.fabric.sockets.drop n.greeted
  let fabric := fresh.foldl
    (fun f s => (n.hosts.find? (·.name = s.name)).elim f fun h => f.transmit s.name h.greeting)
    n.fabric
  { n with fabric, greeted := n.greeted + fresh.length }

/-- Keep what hosts have read. -/
def keep (n : Node) (received : Table String Octets) : Node :=
  { n with
    received := received.entries.foldl
      (fun t (name, data) => t.insert name ((t.get? name).getD [] ++ data)) n.received }

/-- Let the network settle, the sessions hear of it and the hosts greet. -/
def round (n : Node) : Node :=
  let (fabric, shown) := n.fabric.settle.look
  let n := ({ n with fabric } : Node).keep shown.received
  (shown.events.foldl (fun n (peer, e) => n.submit peer e) n).greet

/-- Whether nothing is on its way. -/
def isQuiet (n : Node) : Bool := n.fabric.commands.isEmpty && n.fabric.errands.isEmpty

/-- Go on for at most so many rounds, until nothing is on its way. -/
def settleIn : Nat → Node → Node
  | 0, n => n
  | k + 1, n => if n.isQuiet then n else settleIn k n.round

/-- The rounds after which a node is quiet: one for each attempt to connect, and then those in
which a session is opened and closed again. -/
def roundBound (n : Node) : Nat := n.handler.settings.maxConnectRetries.toNat + 8

/-- Go on until nothing is on its way. -/
def settle (n : Node) : Node := settleIn n.roundBound n

/-- A client opens sessions to its configured peers; a server ignores them. -/
def openSessions (n : Node) (peers : List PeerAddress) : Node :=
  match n.handler.role with
  | .client => (peers.foldl register n).settle
  | .server => n

/-- The node is told to stop: every session is closed. -/
def interrupt (n : Node) : Node :=
  (n.handler.registry.peers.foldl (fun n peer => n.submit peer .closeRequested) n).settle

/-- A node of a configuration, from its start to its end among hosts. -/
def live (c : NodeConfig) (hosts : List GreetingHost) : Node × Except Fault Unit :=
  let n := init c hosts
  match c.startable, c.general.peerAddresses with
  | .ok _, .ok peers => ((n.openSessions peers).interrupt, .ok ())
  | .error f, _ => (n, .error f)
  | _, .error f => (n, .error f)

/-- How many connections a host took. -/
def connectionsOf (n : Node) (h : GreetingHost) : Nat :=
  (n.fabric.sockets.filter (·.name = h.name)).length

/-- What a host received, without session ids. -/
def receivedBy (n : Node) (h : GreetingHost) : Octets :=
  ((n.received.get? h.name).getD []).withoutSessionIds

/-- The callbacks about a peer. -/
def noticesOf (n : Node) (peer : PeerAddress) : List Notice :=
  n.notices.filter (·.peer = peer)

/-- The peers that callbacks were about. -/
def noticedPeers (n : Node) : List PeerAddress := (n.notices.map Notice.peer).eraseDups

end Node

end PathSession
