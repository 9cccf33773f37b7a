import PathSession.Wire.Object

/-!
# The content of a message

`Message.content` validates a received message and extracts what the session acts on: the
language of accepted messages.
-/

namespace PathSession

/-- What a session needs to know about a well-formed message. -/
inductive Content
  | opening (o : OpenObject)
  | keepalive
  /-- with the counter proposal attached to it, if any -/
  | error (e : ErrorObject) (proposal : Option OpenObject)
  | close (o : CloseObject)
  /-- REQUEST, RESPONSE or NOTIFICATION, the body is left to collaborators -/
  | data (kind : MessageKind)
  deriving DecidableEq, Repr

namespace Content

/-- The content of an OPEN message: exactly one OPEN object, of this protocol version. -/
def ofOpening : List WireObject → Except FormatError Content
  | [.opening o] =>
    if o.version = protocolVersion then .ok (.opening o) else .error (.openVersion o.version)
  | objects => .error (.openObjects objects.length)

/-- The content of an ERROR message: a PCEP-ERROR object first, the first OPEN object behind it
being the counter proposal. -/
def ofError : List WireObject → Except FormatError Content
  | .error e :: objects => .ok (.error e (objects.findSome? WireObject.opening?))
  | _ => .error .errorWithoutObject

/-- The content of a CLOSE message: its first CLOSE object. -/
def ofClose (objects : List WireObject) : Except FormatError Content :=
  match objects.findSome? WireObject.close? with
  | some o => .ok (.close o)
  | none => .error .closeWithoutObject

/-- The content of a message of the given type. -/
def ofBody : MessageKind → Octets → Except FormatError Content
  | .opening, body => WireObject.readAll body >>= ofOpening
  | .error, body => WireObject.readAll body >>= ofError
  | .close, body => WireObject.readAll body >>= ofClose
  | .keepalive, _ => .ok .keepalive
  | .request, _ => .ok (.data .request)
  | .response, _ => .ok (.data .response)
  | .notification, _ => .ok (.data .notification)

end Content

namespace Message

/-- The type of a message, or the complaint about its code. -/
def kind (m : Message) : Except FormatError MessageKind :=
  match m.kind? with
  | some k => .ok k
  | none => .error (.unknownKind m.code)

/-- Validate a message; other header versions and unknown types are format errors. -/
def content (m : Message) : Except FormatError Content :=
  if m.version ≠ protocolVersion then
    .error (.unsupportedVersion m.version)
  else
    m.kind >>= fun k => Content.ofBody k m.body

end Message

end PathSession
