import PathSession.Journal
import PathSession.PeerAddress.Printer
import PathSession.Session.State
import PathSession.Wire.Message

/-!
# Listeners

What a collaborator is told about the sessions of a node.

* `Notice`: one callback;
* `Listener`, `Listener.take`: the kinds of listener and what they do with a callback.
-/

namespace PathSession

/-- What a collaborator is told. -/
inductive Notice
  /-- a session came up -/
  | established (peer : PeerAddress)
  /-- a data message that passed role routing -/
  | message (peer : PeerAddress) (m : Message)
  /-- a session is gone, its connection closed or about to be -/
  | closed (peer : PeerAddress) (reason : CloseReason)
  deriving DecidableEq, Repr

namespace Notice

/-- The peer a callback is about. -/
def peer : Notice → PeerAddress
  | established p => p
  | message p _ => p
  | closed p _ => p

/-- A callback as the journal shows it. -/
def inspect : Notice → String
  | established p => s!"Established({p.text})"
  | message p m => s!"Message({p.text}, {m.inspect})"
  | closed p reason => s!"Closed({p.text}, {reason.title})"

/-- The entry that traces a callback. -/
def trace : Notice → Entry
  | established p => ⟨.info, "session established", [("peer", p.text)]⟩
  | message p m => ⟨.debug, s!"inbound {m.inspect}", [("peer", p.text)]⟩
  | closed p reason =>
    ⟨.info, "session closed", [("peer", p.text), ("reason", reason.title)]⟩

end Notice

/-- What a listener does with its callbacks. -/
inductive Listener
  /-- traces them, as a standalone node does -/
  | logging
  /-- passes them on, as long as someone receives them -/
  | forwarding (attended : Bool)
  /-- does nothing -/
  | silent
  deriving DecidableEq, Repr

namespace Listener

/-- What a listener passes on of a callback, and what it remarks. -/
def take (l : Listener) (n : Notice) : List Notice × Journal :=
  match l with
  | logging => ([], [n.trace])
  | forwarding true => ([n], [])
  | forwarding false =>
    ([], [⟨.debug, s!"listener receiver dropped, discarding {n.inspect}", []⟩])
  | silent => ([], [])

/-- The receiver of a forwarding listener goes away. -/
def detach : Listener → Listener
  | forwarding _ => forwarding false
  | l => l

end Listener

end PathSession
