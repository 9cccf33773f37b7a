import PathSession.Network.Link

/-!
# A connection under a script

One connection, driven step by step from both of its ends.

* `LinkStep`: the steps;
* `LinkShown`: what a step shows;
* `Link.play`: one step.
-/

namespace PathSession

/-- A step of a connection under a script. -/
inductive LinkStep
  /-- the remote end writes -/
  | transmit (data : Octets)
  /-- the next reads yield nothing -/
  | stall (n : Nat)
  | hangUp
  | deafen
  /-- the remote end closes and leaves unread what the connection is given to send -/
  | reset (data : Octets)
  | send (data : Octets)
  | stopReading
  | drop
  | detach

/-- What a step shows. -/
structure LinkShown where
  /-- whether the octets to send were taken, where there is a connection to take them -/
  taken : Option Bool
  reports : List Report
  received : Octets
  closed : Bool
  journal : Journal

namespace LinkShown

/-- What the turn of one half shows. -/
def ofTurn (t : LinkTurn) : LinkShown :=
  { taken := none, reports := t.reports, received := t.received, closed := t.closed
    journal := t.journal }

/-- One after the other. -/
def append (a b : LinkShown) : LinkShown :=
  { taken := a.taken, reports := a.reports ++ b.reports, received := a.received ++ b.received
    closed := a.closed || b.closed, journal := a.journal ++ b.journal }

instance : Append LinkShown := ⟨LinkShown.append⟩

end LinkShown

namespace Report

/-- Pieces of data that follow each other as one. -/
def joined : List Report → List Report
  | .data a :: rest =>
    match joined rest with
    | .data b :: more => .data (a ++ b) :: more
    | more => .data a :: more
  | .lost loss :: rest => .lost loss :: joined rest
  | [] => []

end Report

namespace Link

/-- A connection at work. -/
def opened (peer : PeerAddress) (id bufferSize : Nat) (maxEmptyReads : UInt32) : Link :=
  (waiting peer).start id (.new bufferSize maxEmptyReads)

/-- Let the reader work. -/
def read (l : Link) : Link × LinkShown := (l.wake.link, .ofTurn l.wake)

/-- Let the writer work. -/
def written (l : Link) : Link × LinkShown := (l.flush.link, .ofTurn l.flush)

/-- Hand octets to the writer and let it work. -/
def sendNow (l : Link) (data : Octets) : Link × LinkShown :=
  if l.dropped then
    (l, .ofTurn l.idle)
  else
    let (l, taken) := l.send data
    let (l, shown) := l.written
    (l, { shown with taken := some taken })

/-- One step. -/
def play (l : Link) : LinkStep → Link × LinkShown
  | .transmit data => if data.isEmpty then (l, .ofTurn l.idle) else (l.transmit data).read
  | .stall n => (l.stall n, .ofTurn l.idle)
  | .hangUp => (l.hangUp false).read
  | .deafen => (l.deafen, .ofTurn l.idle)
  | .reset data =>
    let (l, sent) := l.sendNow data
    let (l, ended) := (l.hangUp !sent.received.isEmpty).read
    (l, { sent with received := [] } ++ ended)
  | .send data => l.sendNow data
  | .stopReading => (l.stopReading, .ofTurn l.idle)
  | .drop =>
    if l.dropped then
      (l, .ofTurn l.idle)
    else
      let (l', shown) := l.drop.written
      (l', { shown with journal := l.dropEntry :: shown.journal })
  | .detach => (l.detach, .ofTurn l.idle)

end Link

end PathSession
