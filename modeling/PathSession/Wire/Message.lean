import PathSession.Wire.Header

/-!
# Messages

A message is the header fields that it keeps and an opaque body.

* `Message`, `Message.encode`: a message and its octets on the wire;
* `Message.make`: an outgoing message, of any size;
* `Message.make?`: the same for bodies handed in from outside, which must fit the length field;
* `Message.inspect`: the text that shows a message in the journal.
-/

namespace PathSession

/-- One framed message. -/
structure Message where
  version : UInt8
  flags : UInt8
  code : UInt8
  body : Octets
  deriving DecidableEq, Repr

/-- A body that does not fit the length field of the header. -/
structure Oversize where
  kind : MessageKind
  bodySize : Nat
  deriving DecidableEq, Repr

/-- What is said about a body that is too large. -/
def Oversize.text (o : Oversize) : String :=
  s!"{o.kind.label} body of {o.bodySize} bytes"

namespace Message

/-- The largest message that the 16 bit length field can describe. -/
def maxSize : Nat := 65535

/-- An outgoing message of this protocol version without flags. -/
def make (kind : MessageKind) (body : Octets) : Message :=
  { version := protocolVersion, flags := 0, code := kind.code, body }

/-- An outgoing message whose body may be too large. -/
def make? (kind : MessageKind) (body : Octets) : Except Oversize Message :=
  if body.length + Header.size > maxSize then
    .error ⟨kind, body.length⟩
  else
    .ok (make kind body)

/-- The message a received header and body stand for. -/
def ofParts (h : Header) (body : Octets) : Message :=
  { version := h.version, flags := h.flags, code := h.code, body }

/-- The type of a message, if its code is known. -/
def kind? (m : Message) : Option MessageKind := MessageKind.ofCode? m.code

/-- Octets of the whole message. -/
def size (m : Message) : Nat := Header.size + m.body.length

/-- The header written in front of the body; the length field keeps the low 16 bits of the size. -/
def header (m : Message) : Header :=
  { version := m.version, flags := m.flags, code := m.code, length := UInt16.ofNat m.size }

/-- The message on the wire. -/
def encode (m : Message) : Octets := m.header.octets ++ m.body

/-- A message as the journal shows it: its type, or the bare code of an unknown one, its version
and the size of its body. -/
def inspect (m : Message) : String :=
  let kind := match m.kind? with
    | some k => k.title
    | none => toString m.code.toNat
  s!"PcepMessage \x7b type: {kind}, version: {m.version.toNat}, body_len: {m.body.length} \x7d"

@[simp] theorem kind?_make (k : MessageKind) (b : Octets) : (make k b).kind? = some k :=
  MessageKind.ofCode?_code k

@[simp] theorem length_encode (m : Message) : m.encode.length = m.size := by
  simp [encode, size]

end Message

end PathSession
