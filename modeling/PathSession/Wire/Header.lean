import PathSession.Wire.Octets

/-!
# The common header

Every message starts with four octets:

    | Ver |  Flags  |  Message-Type |        Message-Length         |

The length counts the whole message, header included.

* `MessageKind`: the seven message types, their codes and names;
* `Header`, `Header.octets`, `Header.read?`: the header, its writer and its reader.
-/

namespace PathSession

/-- The only protocol version this engine speaks. -/
def protocolVersion : UInt8 := 1

/-- The message types. -/
inductive MessageKind
  | opening
  | keepalive
  | request
  | response
  | notification
  | error
  | close
  deriving DecidableEq, Repr

namespace MessageKind

/-- The code of a type in the common header. -/
def code : MessageKind → UInt8
  | opening => 1
  | keepalive => 2
  | request => 3
  | response => 4
  | notification => 5
  | error => 6
  | close => 7

/-- The type with the given code; codes outside 1..7 have none. -/
def ofCode? : UInt8 → Option MessageKind
  | 1 => some opening
  | 2 => some keepalive
  | 3 => some request
  | 4 => some response
  | 5 => some notification
  | 6 => some error
  | 7 => some close
  | _ => none

/-- The name used in protocol texts. -/
def label : MessageKind → String
  | opening => "OPEN"
  | keepalive => "KEEPALIVE"
  | request => "REQUEST"
  | response => "RESPONSE"
  | notification => "NOTIFICATION"
  | error => "ERROR"
  | close => "CLOSE"

/-- The name used when a message is shown for inspection. -/
def title : MessageKind → String
  | opening => "Open"
  | keepalive => "Keepalive"
  | request => "Request"
  | response => "Response"
  | notification => "Notification"
  | error => "Error"
  | close => "Close"

@[simp] theorem ofCode?_code (k : MessageKind) : ofCode? k.code = some k := by
  cases k <;> rfl

end MessageKind

/-- The fixed four octets in front of every message. -/
structure Header where
  version : UInt8
  flags : UInt8
  code : UInt8
  length : UInt16
  deriving DecidableEq, Repr

namespace Header

/-- Octets of a header. -/
def size : Nat := 4

/-- The header as written: only three bits of the version and five of the flags fit. -/
def octets (h : Header) : Octets :=
  Octets.packed h.version h.flags :: h.code :: Octets.ofWord h.length

/-- Look at the header in front of an octet string, if four octets are there. -/
def read? : Octets → Option Header
  | b :: c :: hi :: lo :: _ =>
    some
      { version := Octets.upper3 b
        flags := Octets.lower5 b
        code := c
        length := Octets.toWord hi lo }
  | _ => none

@[simp] theorem length_octets (h : Header) : h.octets.length = size := rfl

end Header

end PathSession
