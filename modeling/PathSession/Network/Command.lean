import PathSession.Journal
import PathSession.PeerAddress.Printer
import PathSession.Text.Quoted

/-!
# Commands to the network side

What sessions ask of the connections to their peers.
-/

namespace PathSession

/-- What a session asks of the network side.  Commands name the peer, not a connection. -/
inductive Command
  /-- open a connection -/
  | connect (peer : PeerAddress)
  /-- write an encoded message -/
  | send (peer : PeerAddress) (data : Octets)
  /-- close the connection, or give up opening one -/
  | close (peer : PeerAddress)
  deriving DecidableEq, Repr

namespace Command

/-- The peer a command is about. -/
def peer : Command → PeerAddress
  | connect p => p
  | send p _ => p
  | close p => p

/-- A command as the journal shows it. -/
def inspect : Command → String
  | connect p => s!"Connect({p.text})"
  | send p data => s!"Send({p.text}, {Quoted.octets data})"
  | close p => s!"Close({p.text})"

/-- The remark on a command that comes after the network side has stopped. -/
def undelivered (c : Command) : Entry :=
  ⟨.debug, s!"dispatcher stopped, dropping {c.inspect}", []⟩

end Command

end PathSession
