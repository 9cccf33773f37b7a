import PathSession.PeerAddress.Basic

/-!
# Reading addresses

A reader takes what it recognises off the front of a character list, and refuses by giving
nothing.  An IPv4 address has four decimals of at most three digits and without leading zeros.  An
IPv6 address has eight groups of at most four hexadecimal digits; one run of groups may be left
out as `::`, and the last two groups may be written as an IPv4 address.

* `PeerAddress.ofText?`: the endpoint that a whole text names.
-/

namespace PathSession

namespace AddressReader

/-- A reader of `α`: the value and the characters behind it. -/
abbrev Reader (α : Type) := List Char → Option (α × List Char)

/-- Take one given character. -/
def char (c : Char) : Reader Unit
  | c' :: rest => if c' = c then some ((), rest) else none
  | [] => none

/-- The value of a digit below the given radix. -/
def digit? (radix : Nat) (c : Char) : Option Nat :=
  let value :=
    if '0' ≤ c ∧ c ≤ '9' then some (c.toNat - 48)
    else if 'a' ≤ c ∧ c ≤ 'z' then some (c.toNat - 87)
    else if 'A' ≤ c ∧ c ≤ 'Z' then some (c.toNat - 55)
    else none
  value.filter (· < radix)

/-- The digits at the front. -/
def digits (radix : Nat) : List Char → List Nat × List Char
  | [] => ([], [])
  | c :: rest =>
    match digit? radix c with
    | none => ([], c :: rest)
    | some d =>
      let (ds, rest') := digits radix rest
      (d :: ds, rest')

/-- A number of all digits at the front, below `bound`, with at most `maxDigits` of them if that
is given, and a leading zero only where allowed. -/
def number (radix bound : Nat) (maxDigits : Option Nat) (leadingZero : Bool) : Reader Nat :=
  fun cs =>
    let (ds, rest) := digits radix cs
    let value := ds.foldl (fun acc d => acc * radix + d) 0
    let tooMany := match maxDigits with
      | some m => m < ds.length
      | none => false
    if ds.isEmpty || tooMany || bound ≤ value then
      none
    else if !leadingZero && ds.head? == some 0 && 1 < ds.length then
      none
    else
      some (value, rest)

/-- A reader behind a separator. -/
def behind (sep : Char) {α : Type} (r : Reader α) : Reader α := fun cs =>
  char sep cs >>= fun (_, rest) => r rest

/-- One decimal of an IPv4 address. -/
def decimalOctet : Reader UInt8 := fun cs =>
  (number 10 256 (some 3) false cs).map fun (n, rest) => (n.toUInt8, rest)

/-- An IPv4 address. -/
def ipv4 : Reader Ipv4 := fun cs => do
  let (a, cs) ← decimalOctet cs
  let (b, cs) ← behind '.' decimalOctet cs
  let (c, cs) ← behind '.' decimalOctet cs
  let (d, cs) ← behind '.' decimalOctet cs
  some (⟨a, b, c, d⟩, cs)

/-- One group of an IPv6 address. -/
def group : Reader UInt16 := fun cs =>
  (number 16 65536 (some 4) true cs).map fun (n, rest) => (n.toUInt16, rest)

/-- The two groups an IPv4 address fills. -/
def ipv4Groups (ip : Ipv4) : List UInt16 :=
  [UInt16.ofNat (ip.a.toNat * 256 + ip.b.toNat), UInt16.ofNat (ip.c.toNat * 256 + ip.d.toNat)]

/-- What a run of groups was read as. -/
structure Groups where
  groups : List UInt16
  /-- whether the last two groups were written as an IPv4 address -/
  dotted : Bool
  rest : List Char

/-- As many groups as there are, at most `room`.  While room for two is left, an IPv4 address may
end the run. -/
def groups (first : Bool) : (room : Nat) → List Char → Groups
  | 0, cs => ⟨[], false, cs⟩
  | room + 1, cs =>
    let separated {α : Type} (r : Reader α) : Reader α := if first then r else behind ':' r
    match (if 0 < room then separated ipv4 cs else none) with
    | some (ip, rest) => ⟨ipv4Groups ip, true, rest⟩
    | none =>
      match separated group cs with
      | some (g, rest) =>
        let more := groups false room rest
        { more with groups := g :: more.groups }
      | none => ⟨[], false, cs⟩

/-- The address of a list of eight groups. -/
def ofGroups? (gs : List UInt16) : Option Ipv6 :=
  if h : gs.toArray.size = 8 then some ⟨⟨gs.toArray, h⟩⟩ else none

/-- An IPv6 address.  A run of groups that is left out stands for at least one group. -/
def ipv6 : Reader Ipv6 := fun cs =>
  let head := groups true 8 cs
  if head.groups.length = 8 then
    (ofGroups? head.groups).map (·, head.rest)
  else if head.dotted then
    none
  else do
    let (_, rest) ← char ':' head.rest
    let (_, rest) ← char ':' rest
    let tail := groups true (7 - head.groups.length) rest
    let gap := List.replicate (8 - head.groups.length - tail.groups.length) 0
    let ip ← ofGroups? (head.groups ++ gap ++ tail.groups)
    some (ip, tail.rest)

/-- A port behind its colon. -/
def port : Reader UInt16 := fun cs =>
  (behind ':' (number 10 65536 none true) cs).map fun (n, rest) => (n.toUInt16, rest)

/-- The zone of an IPv6 address behind a percent sign, 0 if none is given. -/
def zone : Reader UInt32 := fun cs =>
  match behind '%' (number 10 4294967296 none true) cs with
  | some (n, rest) => some (n.toUInt32, rest)
  | none => some (0, cs)

/-- An IPv4 endpoint. -/
def endpointV4 : Reader PeerAddress := fun cs => do
  let (ip, cs) ← ipv4 cs
  let (p, cs) ← port cs
  some (.v4 ip p, cs)

/-- An IPv6 endpoint. -/
def endpointV6 : Reader PeerAddress := fun cs => do
  let (_, cs) ← char '[' cs
  let (ip, cs) ← ipv6 cs
  let (z, cs) ← zone cs
  let (_, cs) ← char ']' cs
  let (p, cs) ← port cs
  some (.v6 ip z p, cs)

/-- An endpoint of either family. -/
def endpoint : Reader PeerAddress := fun cs =>
  (endpointV4 cs).orElse fun _ => endpointV6 cs

end AddressReader

/-- The endpoint that a whole text names. -/
def PeerAddress.ofText? (s : String) : Option PeerAddress :=
  match AddressReader.endpoint s.toList with
  | some (p, []) => some p
  | _ => none

end PathSession
