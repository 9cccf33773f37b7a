import PathSession.Network.Fabric
import PathSession.Network.Places

/-!
# A network under a script

A dispatcher among remotes that a script names.

* `FabricStep`: what a script may ask;
* `Stage`: a network whose remotes have names;
* `Stage.play`: one step, after which everything settles;
* `Stage.look`: what the step showed.
-/

namespace PathSession

/-- What the sessions ask of the network, by the name of the remote. -/
inductive NamedCommand
  | connect (name : String)
  | send (name : String) (data : Octets)
  | close (name : String)

/-- What a script asks of a network. -/
inductive FabricStep
  /-- connect to the dispatcher from a new address, or from that of another remote -/
  | dial (name : String) (source : Option String)
  /-- take connections at a new address -/
  | host (name : String)
  | unhost (name : String)
  | order (commands : List NamedCommand)
  | transmit (name : String) (data : Octets)
  | hangUp (name : String)
  /-- close and leave unread what the dispatcher is given to send -/
  | reset (name : String) (data : Octets)
  | deafen (name : String)
  | failAccepts (count : Nat)
  | advance (time : Millis)
  | detach
  | shutdown

/-- A network whose remotes have names. -/
structure Stage where
  fabric : Fabric
  places : Places

/-- What a step of a script shows. -/
structure StageShown where
  events : List (String × SessionEvent)
  received : Table String Octets
  closed : List String
  openNames : List String
  running : Bool
  journal : Journal

namespace Stage

/-- A network around a new dispatcher. -/
def init (d : Dispatcher) (reader : Reader) (listening reachable : Bool) : Stage :=
  let f := Fabric.init d reader listening reachable
  { fabric :=
      if listening then
        f.note [⟨.info, s!"dispatcher listening on {Places.listening.text}", []⟩]
      else
        f
    places := .empty }

/-- A name comes up. -/
def mention (s : Stage) (name : String) : Stage := { s with places := s.places.mention name }

/-- A name moves to a new address, or to that of another. -/
def move (s : Stage) (name : String) (source : Option String) : Stage :=
  { s with places := source.elim (s.places.settle name) (s.places.share name) }

/-- The name of a command comes up; the command for its address. -/
def resolve (s : Stage) (c : NamedCommand) : Stage × Command :=
  match c with
  | .connect name => let s := s.mention name; (s, .connect (s.places.address name))
  | .send name data => let s := s.mention name; (s, .send (s.places.address name) data)
  | .close name => let s := s.mention name; (s, .close (s.places.address name))

/-- The sessions give commands. -/
def order (s : Stage) : List NamedCommand → Stage
  | [] => s
  | c :: rest =>
    let (s, command) := s.resolve c
    { s with fabric := s.fabric.order [command] }.order rest

/-- Change the network. -/
def onFabric (s : Stage) (change : Fabric → Fabric) : Stage :=
  { s with fabric := change s.fabric }

/-- The remote of a name does something. -/
def act (s : Stage) (name : String) (change : Fabric → PeerAddress → Fabric) : Stage :=
  let s := s.mention name
  s.onFabric fun f => change f (s.places.address name)

/-- What a step does before everything settles. -/
def begin (s : Stage) : FabricStep → Except Fault Stage
  | .dial name source =>
    let s := s.move name source
    (s.fabric.dial name (s.places.address name)).map fun fabric => { s with fabric }
  | .host name => .ok ((s.move name none).act name fun f peer => f.host name peer)
  | .unhost name => .ok (s.act name fun f peer => f.unhost peer)
  | .order commands => .ok (s.order commands)
  | .transmit name data => .ok (s.act name fun f _ => f.transmit name data)
  | .hangUp name => .ok (s.act name fun f _ => f.hangUp name false)
  | .reset name data =>
    .ok ((s.order [.send name data]).onFabric fun f =>
      let (f, unread) := f.settle.withhold name
      f.hangUp name unread)
  | .deafen name => .ok (s.act name fun f _ => f.deafen name)
  | .failAccepts count => .ok (s.onFabric fun f => { f with acceptFaults := count })
  | .advance time => .ok (s.onFabric fun f => f.advance time)
  | .detach => .ok (s.onFabric Fabric.detach)
  | .shutdown => .ok (s.onFabric Fabric.shutdown)

/-- One step. -/
def play (s : Stage) (step : FabricStep) : Except Fault Stage :=
  (s.begin step).map fun s => s.onFabric Fabric.settle

/-- What was seen since the last look. -/
def look (s : Stage) : Stage × StageShown :=
  let (fabric, shown) := s.fabric.look
  ({ s with fabric },
    { events := shown.events.map fun (peer, e) => ((s.places.resident peer).getD "", e)
      received := shown.received
      closed := shown.closed
      openNames := fabric.openNames
      running := fabric.running
      journal := shown.journal })

end Stage

end PathSession
