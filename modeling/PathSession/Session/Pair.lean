import PathSession.Session.Script
import PathSession.Wire.Reassembly

/-!
# Two sessions over two wires

Each side writes what it sends to its own wire, first in first out, and reads the wire of the
other side in pieces of any size through a reassembly of its own.

* `Endpoint`, `Endpoint.play`, `Endpoint.receive`: one side;
* `Pair`, `Pair.play`, `Pair.read`: both.
-/

namespace PathSession

/-- One side of a pair: its session, its reassembly, and what it wrote that is still unread. -/
structure Endpoint where
  rig : Rig
  reassembly : Reassembly
  wire : Octets

/-- The octets that a list of actions writes. -/
def Action.written (actions : List Action) : Octets :=
  actions.flatMap fun
    | .send m => m.encode
    | _ => []

namespace Endpoint

/-- A side whose session has not started. -/
def init (s : Session) : Endpoint :=
  { rig := .init s, reassembly := .init 65535, wire := [] }

/-- Play stimuli, writing what the session sends. -/
def playAll (e : Endpoint) (stimuli : List Stimulus) : Endpoint × Response :=
  let (rig, response) := e.rig.playAll stimuli
  ({ e with rig, wire := e.wire ++ Action.written response.actions }, response)

/-- What a side's session is told of octets that it read. -/
def stimuli : Except FrameError (List Message) → List Stimulus
  | .ok messages => messages.map fun m => .event (.network m)
  | .error _ => [.event .framingFailed]

/-- Read octets of the other side. -/
def receive (e : Endpoint) (data : Octets) : Endpoint × Response :=
  let peer := e.rig.session.peer
  let fed := e.reassembly.feed peer data
  let (e, response) := { e with reassembly := fed.next }.playAll (stimuli fed.result)
  (e, { response with journal := Reassembly.feedJournal peer data fed ++ response.journal })

/-- The number of octets waiting for the rest of their message. -/
def pendingSize (e : Endpoint) : Nat :=
  (e.reassembly.pendingOf e.rig.session.peer).length

end Endpoint

/-- A side of a pair. -/
inductive Side
  | a
  | b
  deriving DecidableEq, Repr

/-- The other side. -/
def Side.other : Side → Side
  | a => b
  | b => a

/-- Two sessions and the wires between them. -/
structure Pair where
  a : Endpoint
  b : Endpoint

namespace Pair

/-- One side. -/
def get (p : Pair) : Side → Endpoint
  | .a => p.a
  | .b => p.b

/-- Change one side. -/
def set (p : Pair) (s : Side) (e : Endpoint) : Pair :=
  match s with
  | .a => { p with a := e }
  | .b => { p with b := e }

/-- One stimulus for the session of a side. -/
def play (p : Pair) (s : Side) (stimulus : Stimulus) : Pair × Response :=
  let (e, response) := (p.get s).playAll [stimulus]
  (p.set s e, response)

/-- A side reads up to `n` octets of the other side's wire, or all of it. -/
def read (p : Pair) (s : Side) (n : Option Nat) : Pair × Response :=
  let other := p.get s.other
  let count := n.getD other.wire.length
  let p := p.set s.other { other with wire := other.wire.drop count }
  let (e, response) := (p.get s).receive (other.wire.take count)
  (p.set s e, response)

end Pair

end PathSession
