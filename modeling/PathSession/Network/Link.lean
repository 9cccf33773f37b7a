import PathSession.Journal
import PathSession.Network.Reader
import PathSession.PeerAddress.Printer

/-!
# A connection and its remote end

Both ends of one connection: the reader and the writer on this side, and what the remote end does
with its side.

* `Report`: what a connection tells its owner;
* `Link`: the connection;
* `Link.transmit`, `Link.hangUp`, `Link.deafen`: what the remote end does;
* `Link.wake`, `Link.flush`: the reader and the writer at work;
* `Link.send`, `Link.stopReading`, `Link.drop`: what the owner does.
-/

namespace PathSession

/-- What a connection tells its owner. -/
inductive Report
  | data (octets : Octets)
  | lost (loss : Loss)
  deriving DecidableEq, Repr

/-- What the remote end does with the octets it is sent. -/
inductive Remote
  | listening
  /-- it takes nothing more, but may still write -/
  | deaf
  /-- it has closed -/
  | gone
  deriving DecidableEq, Repr

/-- A connection and its remote end. -/
structure Link where
  /-- the number of the connection -/
  id : Nat
  peer : PeerAddress
  /-- the reading half, until it stops -/
  reader : Option Reader
  inbound : Inbound
  /-- the writing half is there -/
  writing : Bool
  /-- handed to the writing half and not yet written -/
  queued : Octets
  /-- the owner has let go of the connection -/
  dropped : Bool
  /-- someone receives the reports -/
  attended : Bool
  remote : Remote

/-- What one half of a connection did: the connection afterwards, its reports, the octets that
reached the remote end and the remarks. -/
structure LinkTurn where
  link : Link
  reports : List Report
  received : Octets
  /-- the remote end sees the end of its stream -/
  closed : Bool
  journal : Journal

namespace Link

/-- A connection whose halves are not at work yet. -/
def waiting (peer : PeerAddress) : Link :=
  { id := 0, peer, reader := none, inbound := .empty, writing := false, queued := []
    dropped := false, attended := true, remote := .listening }

/-- Put both halves to work under a number. -/
def start (l : Link) (id : Nat) (reader : Reader) : Link :=
  { l with id, reader := some reader, writing := true }

/-- The values that go with every remark on a connection. -/
def fields (l : Link) : List (String × String) :=
  [("peer", l.peer.text), ("connection_id", toString l.id)]

/-! ### The remote end -/

/-- Whether the remote end still has its socket and this side has not closed it. -/
def isOpen (l : Link) : Bool :=
  match l.remote with
  | .listening => !l.dropped
  | .deaf => true
  | .gone => false

/-- The remote end writes. -/
def transmit (l : Link) (data : Octets) : Link :=
  if l.remote = .gone ∨ l.dropped then
    l
  else
    { l with inbound := { l.inbound with pending := l.inbound.pending ++ data } }

/-- The remote end closes, with or without having read all it was sent. -/
def hangUp (l : Link) (unread : Bool) : Link :=
  if l.remote = .gone then
    l
  else
    let ending := if unread then .reset else .closed
    { l with remote := .gone, inbound := { l.inbound with ending } }

/-- The remote end stops taking octets. -/
def deafen (l : Link) : Link :=
  if l.remote = .gone ∨ l.dropped then l else { l with remote := .deaf }

/-- The next `n` reads yield nothing. -/
def stall (l : Link) (n : Nat) : Link := { l with inbound := { l.inbound with stalls := n } }

/-! ### The halves at work -/

/-- Nothing happened. -/
def idle (l : Link) : LinkTurn :=
  { link := l, reports := [], received := [], closed := false, journal := [] }

/-- The remark on a read. -/
def readEntry (l : Link) (data : Octets) : Entry :=
  ⟨.trace, s!"read {data.length} bytes", [("peer", l.peer.text)]⟩

/-- The remark on the end of the reading. -/
def stopEntry (l : Link) (loss : Loss) : Entry :=
  ⟨.debug, s!"reader stopped: {loss.inspect}", l.fields⟩

/-- The reader wakes and reads all it can.  Without someone to report to it stops after the first
piece. -/
def wake (l : Link) : LinkTurn :=
  match l.reader with
  | none => l.idle
  | some r =>
    if !l.inbound.isReadable then
      l.idle
    else
      let d := r.drain l.inbound
      match l.attended, d.pieces with
      | false, data :: _ =>
        { l.idle with
          link := { l with reader := none, inbound := d.rest }
          journal := [l.readEntry data] }
      | attended, pieces =>
        let link :=
          { l with reader := if d.loss.isSome then none else some d.reader, inbound := d.rest }
        { l.idle with
          link
          reports :=
            if attended then pieces.map .data ++ (d.loss.map .lost).toList else []
          journal := pieces.map l.readEntry ++ (d.loss.map l.stopEntry).toList }

/-- What the writer does with the octets it was handed. -/
def write (l : Link) : LinkTurn :=
  if !l.writing || l.queued.isEmpty then
    { l.idle with link := { l with queued := [] } }
  else if l.remote = .listening then
    { l.idle with link := { l with queued := [] }, received := l.queued }
  else
    { l.idle with
      link := { l with queued := [], writing := false }
      reports := if l.attended then [.lost (.failed .brokenPipe)] else []
      journal := [⟨.warn, s!"write failed: {IoFault.brokenPipe.text}", l.fields⟩] }

/-- The writer writes what it was handed.  Once the connection is dropped it then shuts the socket
and stops. -/
def flush (l : Link) : LinkTurn :=
  let t := l.write
  if t.link.writing && t.link.dropped then
    { t with
      link := { t.link with writing := false }
      closed := t.link.remote = .listening
      journal := t.journal ++ [⟨.debug, "writer stopped", l.fields⟩] }
  else
    t

/-! ### The owner -/

/-- Hand octets to the writer; tells whether it is there. -/
def send (l : Link) (data : Octets) : Link × Bool :=
  if l.writing then ({ l with queued := l.queued ++ data }, true) else (l, false)

/-- Stop the reader. -/
def stopReading (l : Link) : Link := { l with reader := none }

/-- Let go of the connection: the reader stops, the writer still writes what it was handed. -/
def drop (l : Link) : Link := { l with reader := none, dropped := true }

/-- The remark on letting go. -/
def dropEntry (l : Link) : Entry := ⟨.debug, "connection dropped", l.fields⟩

/-- The receiver of the reports goes away. -/
def detach (l : Link) : Link := { l with attended := false }

end Link

end PathSession
