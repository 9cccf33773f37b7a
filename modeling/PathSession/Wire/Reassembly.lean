import PathSession.Fault
import PathSession.Journal
import PathSession.Table

/-!
# Reassembly

The byte stream of each peer becomes discrete messages.  What is left of a peer's stream waits
until more of it arrives; it never starts with a complete message.

* `Reassembly`: the pending octets of every peer;
* `Reassembly.feed`: more octets of a peer, and the messages they complete;
* `Reassembly.remove`: forget what is pending for a peer.
-/

namespace PathSession

/-- The pending octets of every peer, and the largest message that is let through. -/
structure Reassembly where
  limit : Nat
  pending : Table PeerAddress Octets
  deriving Repr

namespace Reassembly

/-- Nothing pending. -/
def init (limit : Nat) : Reassembly := { limit, pending := .empty }

/-- The octets waiting for the rest of their message. -/
def pendingOf (r : Reassembly) (peer : PeerAddress) : Octets :=
  (r.pending.get? peer).getD []

/-- Keep the given octets for a peer; a peer without octets has no entry. -/
def keep (r : Reassembly) (peer : PeerAddress) (rest : Octets) : Reassembly :=
  if rest.isEmpty then
    { r with pending := r.pending.erase peer }
  else
    { r with pending := r.pending.insert peer rest }

/-- Forget what is pending for a peer. -/
def remove (r : Reassembly) (peer : PeerAddress) : Reassembly :=
  { r with pending := r.pending.erase peer }

/-- The outcome of feeding octets. -/
structure Fed where
  next : Reassembly
  result : Except FrameError (List Message)

/-- Append octets to what is pending for a peer and take every complete message.  No octets at all
change nothing.  After a framing error the peer's octets are dropped, since the stream can not be
resynchronised, and so are the messages in front of the error. -/
def feed (r : Reassembly) (peer : PeerAddress) (data : Octets) : Fed :=
  if data.isEmpty then
    { next := r, result := .ok [] }
  else
    let parsed := Frame.parseAll r.limit (r.pendingOf peer ++ data)
    match parsed.error with
    | some e => { next := r.remove peer, result := .error e }
    | none => { next := r.keep peer parsed.rest, result := .ok parsed.messages }

/-- What is remarked on feeding octets: that a partial message is carried over. -/
def feedJournal (peer : PeerAddress) (data : Octets) (fed : Fed) : Journal :=
  match fed.result with
  | .error _ => []
  | .ok _ =>
    let left := fed.next.pendingOf peer
    if data.isEmpty || left.isEmpty then
      []
    else
      [⟨.trace, "partial message carried over",
        [("peer", peer.text), ("pending", toString left.length)]⟩]

end Reassembly

end PathSession
