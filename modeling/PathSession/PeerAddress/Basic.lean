/-!
# Peer addresses

A remote endpoint: an IPv4 or IPv6 address with a port.  Sessions and connections are keyed by it.
-/

namespace PathSession

/-- The four octets of an IPv4 address. -/
structure Ipv4 where
  a : UInt8
  b : UInt8
  c : UInt8
  d : UInt8
  deriving DecidableEq, Repr

/-- The eight 16 bit groups of an IPv6 address. -/
structure Ipv6 where
  groups : Vector UInt16 8
  deriving DecidableEq, Repr

/-- A remote endpoint. -/
inductive PeerAddress
  | v4 (address : Ipv4) (port : UInt16)
  /-- with the zone the address belongs to, 0 for none -/
  | v6 (address : Ipv6) (zone : UInt32) (port : UInt16)
  deriving DecidableEq, Repr

end PathSession
