import PathSession.Network.EmptyReads
import PathSession.Network.IoFault
import PathSession.Wire.Octets

/-!
# Reading a stream

A reader takes octets from its end of a connection in pieces of limited size, until nothing is
left or the stream is at an end.

* `Loss`: why a stream yields no more octets;
* `Inbound`, `Inbound.read`: the stream from the remote end, and one read of it;
* `Reader`, `Reader.drain`: the reader, and all the reads it makes once it was woken.
-/

namespace PathSession

/-- Why a connection stopped delivering octets. -/
inductive Loss
  /-- the remote end closed its side -/
  | endOfStream
  /-- reads kept yielding nothing -/
  | anomalous
  /-- a read or a write failed -/
  | failed (fault : IoFault)
  deriving DecidableEq, Repr

/-- A loss as the journal shows it. -/
def Loss.inspect : Loss → String
  | endOfStream => "EndOfStream"
  | anomalous => "Anomalous"
  | failed fault => s!"Failed({fault.inspect})"

/-- How a stream goes on after the octets that are waiting. -/
inductive Ending
  /-- more may come -/
  | undecided
  /-- the remote end has closed -/
  | closed
  /-- the remote end has closed without reading all it was sent -/
  | reset
  deriving DecidableEq, Repr

/-- The stream from a remote end. -/
structure Inbound where
  pending : Octets
  ending : Ending
  /-- how many of the next reads yield nothing, whatever is waiting -/
  stalls : Nat
  deriving DecidableEq, Repr

/-- What a read yields. -/
inductive Reading
  | octets (data : Octets)
  | nothing
  | ended (loss : Loss)
  deriving DecidableEq, Repr

namespace Inbound

/-- A stream without octets. -/
def empty : Inbound := { pending := [], ending := .undecided, stalls := 0 }

/-- Whether a reader has reason to read. -/
def isReadable (i : Inbound) : Bool := !i.pending.isEmpty || i.ending != .undecided

/-- One read of at most `room` octets. -/
def read (i : Inbound) (room : Nat) : Reading × Inbound :=
  if 0 < i.stalls then
    (.nothing, { i with stalls := i.stalls - 1 })
  else if i.pending.isEmpty then
    match i.ending with
    | .undecided => (.nothing, i)
    | .closed => (.ended .endOfStream, i)
    | .reset => (.ended (.failed .connectionReset), i)
  else
    (.octets (i.pending.take room), { i with pending := i.pending.drop room })

/-- What is still to be read. -/
def size (i : Inbound) : Nat := i.pending.length + i.stalls

theorem size_lt_of_octets {i j : Inbound} {room : Nat} {data : Octets} (hr : 0 < room)
    (h : i.read room = (.octets data, j)) : j.size < i.size := by
  unfold read at h
  split at h
  · cases h
  · split at h
    · split at h <;> cases h
    · rename_i hs hp
      cases h
      cases hq : i.pending with
      | nil => simp [hq] at hp
      | cons b rest => simp [size, hq]; omega

theorem size_lt_of_nothing {i j : Inbound} {room : Nat} (he : i.ending ≠ .undecided)
    (h : i.read room = (.nothing, j)) : j.size < i.size := by
  unfold read at h
  split at h
  · rename_i hs
    cases h
    simp [size]
    omega
  · split at h
    · split at h
      · contradiction
      · cases h
      · cases h
    · cases h

end Inbound

/-- The reading half of a connection. -/
structure Reader where
  bufferSize : Nat
  /-- what the last read left free in the buffer -/
  left : Nat
  emptyReads : EmptyReads
  deriving DecidableEq, Repr

namespace Reader

/-- A reader with an empty buffer. -/
def new (bufferSize : Nat) (maxEmptyReads : UInt32) : Reader :=
  { bufferSize, left := bufferSize, emptyReads := .new maxEmptyReads }

/-- The buffer that is given to a reader whose own size is zero. -/
def smallBuffer : Nat := 64

/-- The room for the next read.  A buffer with less than its full size free is replaced; one of
size zero is used up to its last octet. -/
def room (r : Reader) : Nat :=
  if r.left < r.bufferSize then r.bufferSize else if r.left = 0 then smallBuffer else r.left

theorem room_pos (r : Reader) : 0 < r.room := by
  unfold room smallBuffer
  split
  · omega
  · split <;> omega

/-- What a woken reader did: the reader afterwards, what is left of the stream, the pieces read and
the loss that ended the reading, if any. -/
structure Drained where
  reader : Reader
  rest : Inbound
  pieces : List Octets
  loss : Option Loss

/-- Put a piece in front. -/
def Drained.cons (data : Octets) (d : Drained) : Drained :=
  { d with pieces := data :: d.pieces }

/-- Read until nothing is left.  While the remote end may still write, a read that yields nothing
sends the reader to sleep; once it has closed there is always reason to read on. -/
def drain (r : Reader) (i : Inbound) : Drained :=
  match h : i.read r.room with
  | (.ended loss, rest) => { reader := r, rest, pieces := [], loss := some loss }
  | (.octets data, rest) =>
    have := Inbound.size_lt_of_octets r.room_pos h
    let r := { r with left := r.room - data.length, emptyReads := r.emptyReads.dataRead }
    (drain r rest).cons data
  | (.nothing, rest) =>
    let (emptyReads, exhausted) := r.emptyReads.wouldBlock
    let r' := { r with emptyReads }
    if exhausted then
      { reader := r', rest, pieces := [], loss := some .anomalous }
    else if he : i.ending = .undecided then
      { reader := r', rest, pieces := [], loss := none }
    else
      have := Inbound.size_lt_of_nothing he h
      drain r' rest
termination_by i.size

end Reader

end PathSession
