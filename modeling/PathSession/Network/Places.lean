import PathSession.PeerAddress.Basic
import PathSession.Table

/-!
# Places on a network

Remotes are known by name.  Each name has an address, and may be given another one later.

* `Places.settle`, `Places.mention`, `Places.share`: a name is given an address;
* `Places.address`: the address that a name has now;
* `Places.resident`: the first name that an address was given to.
-/

namespace PathSession

/-- The port of every place. -/
def Places.port : UInt16 := 4189

/-- Names and their addresses. -/
structure Places where
  /-- the address that each name was given last -/
  addresses : Table String PeerAddress
  /-- the name that each address was given to first -/
  residents : Table PeerAddress String

namespace Places

/-- No name has come up. -/
def empty : Places := { addresses := .empty, residents := .empty }

/-- The n-th address of the network. -/
def nth (n : Nat) : PeerAddress := .v4 ⟨10, 0, 0, UInt8.ofNat n⟩ port

/-- The address at which a dispatcher listens. -/
def listening : PeerAddress := nth 254

/-- The address to be given out next: there is one for each known name before it. -/
def next (p : Places) : PeerAddress := nth (p.addresses.size + 1)

/-- Give an address to a name. -/
def give (p : Places) (name : String) (peer : PeerAddress) : Places :=
  { addresses := p.addresses.insert name peer
    residents := if p.residents.contains peer then p.residents else p.residents.insert peer name }

/-- A name moves to the next address. -/
def settle (p : Places) (name : String) : Places := p.give name p.next

/-- A name comes up; one that has no address is given the next. -/
def mention (p : Places) (name : String) : Places :=
  if p.addresses.contains name then p else p.settle name

/-- The address of a name, or the one that it would be given. -/
def address (p : Places) (name : String) : PeerAddress := (p.addresses.get? name).getD p.next

/-- A name moves to the address of another. -/
def share (p : Places) (name other : String) : Places :=
  let p := p.mention other
  p.give name (p.address other)

/-- The name that an address was given to first. -/
def resident (p : Places) (peer : PeerAddress) : Option String := p.residents.get? peer

end Places

end PathSession
