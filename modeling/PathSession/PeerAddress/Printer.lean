import PathSession.PeerAddress.Basic

/-!
# Printing addresses

IPv4 addresses are dotted decimals.  IPv6 addresses are printed in the compressed form: groups in
lower case hexadecimal without leading zeros, the first longest run of at least two zero groups
as `::`, and addresses mapped from IPv4 with a dotted tail.

* `Ipv4.text`, `Ipv6.text`, `PeerAddress.text`.
-/

namespace PathSession

/-- Four decimals with dots between. -/
def Ipv4.text (ip : Ipv4) : String :=
  s!"{ip.a.toNat}.{ip.b.toNat}.{ip.c.toNat}.{ip.d.toNat}"

namespace Ipv6

/-- A group in lower case hexadecimal. -/
def groupText (g : UInt16) : String :=
  String.ofList (Nat.toDigits 16 g.toNat)

/-- Groups with colons between. -/
def groupsText (gs : List UInt16) : String :=
  String.intercalate ":" (gs.map groupText)

/-- The number of zero groups at the front. -/
def zeroRun (gs : List UInt16) : Nat :=
  (gs.takeWhile (· == 0)).length

/-- The first longest run of zero groups, as its start and length. -/
def longestZeroRun (gs : List UInt16) : Nat × Nat :=
  (List.range gs.length).foldl
    (fun best start =>
      let run := zeroRun (gs.drop start)
      if best.2 < run then (start, run) else best)
    (0, 0)

/-- The IPv4 address that an IPv6 address is mapped from. -/
def mapped? (ip : Ipv6) : Option Ipv4 :=
  match ip.groups.toList with
  | [0, 0, 0, 0, 0, 0xffff, hi, lo] =>
    some ⟨(hi / 256).toUInt8, (hi % 256).toUInt8, (lo / 256).toUInt8, (lo % 256).toUInt8⟩
  | _ => none

/-- The compressed form. -/
def text (ip : Ipv6) : String :=
  match ip.mapped? with
  | some v4 => "::ffff:" ++ v4.text
  | none =>
    let gs := ip.groups.toList
    let (start, run) := longestZeroRun gs
    if 1 < run then
      groupsText (gs.take start) ++ "::" ++ groupsText (gs.drop (start + run))
    else
      groupsText gs

end Ipv6

namespace PeerAddress

/-- An endpoint as `address:port`, IPv6 addresses in brackets with their zone if they have one. -/
def text : PeerAddress → String
  | v4 ip port => s!"{ip.text}:{port.toNat}"
  | v6 ip zone port =>
    if zone = 0 then
      s!"[{ip.text}]:{port.toNat}"
    else
      s!"[{ip.text}%{zone.toNat}]:{port.toNat}"

instance : ToString PeerAddress := ⟨text⟩

end PeerAddress

end PathSession
