import PathSession.Session.Basic
import PathSession.Table

/-!
# The registry of sessions

All live sessions by peer.  A peer whose session was asked for but not yet created is reserved, so
that messages handed over in between wait behind the request instead of being refused.

* `Registry.contains`, `Registry.reserve?`, `Registry.release`: reservations;
* `Registry.snapshot?`, `Registry.peers`, `Registry.size`: views.
-/

namespace PathSession

/-- The sessions and the reservations of a node. -/
structure Registry where
  sessions : Table PeerAddress Session
  reserved : List PeerAddress
  deriving Repr

namespace Registry

/-- No session and no reservation. -/
def empty : Registry := { sessions := .empty, reserved := [] }

/-- Whether a peer has a session or a reservation. -/
def contains (r : Registry) (peer : PeerAddress) : Bool :=
  r.sessions.contains peer || r.reserved.contains peer

/-- Reserve a peer, unless it has a session or a reservation. -/
def reserve? (r : Registry) (peer : PeerAddress) : Option Registry :=
  if r.contains peer then none else some { r with reserved := r.reserved ++ [peer] }

/-- Drop the reservation of a peer. -/
def release (r : Registry) (peer : PeerAddress) : Registry :=
  { r with reserved := r.reserved.filter (· ≠ peer) }

/-- The view of a peer's session. -/
def snapshot? (r : Registry) (peer : PeerAddress) : Option Session.Snapshot :=
  (r.sessions.get? peer).map Session.snapshot

/-- The peers that have a session, oldest session first. -/
def peers (r : Registry) : List PeerAddress := r.sessions.keys

/-- The number of sessions. -/
def size (r : Registry) : Nat := r.sessions.size

/-- Keep a peer's session. -/
def put (r : Registry) (peer : PeerAddress) (s : Session) : Registry :=
  { r with sessions := r.sessions.insert peer s }

/-- Forget a peer's session. -/
def remove (r : Registry) (peer : PeerAddress) : Registry :=
  { r with sessions := r.sessions.erase peer }

end Registry

end PathSession
