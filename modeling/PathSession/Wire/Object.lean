import PathSession.Wire.FormatError
import PathSession.Wire.Message

/-!
# Objects

The body of OPEN, ERROR and CLOSE messages is a list of objects, each under a header of its own:

    | Object-Class | OT |Res|P|I|   Object Length (bytes)   |

* `OpenObject`, `ErrorObject`, `CloseObject`: the objects the engine reads and writes itself;
* `WireObject`: these, or any other object with its bare body;
* `WireObject.read`, `WireObject.readAll`: the reader of one object and of a whole body;
* `OpenObject.message`, `ErrorObject.message`, `CloseCause.message`, `keepaliveMessage`:
  the messages a session builds;
* `EstablishmentError`: the error values of a failed establishment.
-/

namespace PathSession

/-- The header in front of every object. -/
structure ObjectHeader where
  objectClass : UInt8
  objectType : UInt8
  processingRule : Bool
  ignored : Bool
  length : UInt16
  deriving DecidableEq, Repr

namespace ObjectHeader

/-- Octets of an object header. -/
def size : Nat := 4

/-- The octet of the object type and the two flags. -/
def typeOctet (h : ObjectHeader) : UInt8 :=
  UInt8.ofNat (h.objectType.toNat * 16 + (if h.processingRule then 2 else 0)
    + (if h.ignored then 1 else 0))

/-- The header as written. -/
def octets (h : ObjectHeader) : Octets :=
  h.objectClass :: h.typeOctet :: Octets.ofWord h.length

/-- The header of an object of type 1 without flags, over a body of four octets. -/
def plain (objectClass : UInt8) : ObjectHeader :=
  { objectClass, objectType := 1, processingRule := false, ignored := false, length := 8 }

end ObjectHeader

/-- Session characteristics proposed by one side. -/
structure OpenObject where
  version : UInt8
  flags : UInt8
  /-- seconds, 0 disables keepalives -/
  keepalive : UInt8
  /-- seconds, 0 disables the dead timer -/
  deadTimer : UInt8
  sessionId : UInt8
  deriving DecidableEq, Repr

/-- What a PCEP-ERROR object says. -/
structure ErrorObject where
  flags : UInt8
  errorType : UInt8
  errorValue : UInt8
  deriving DecidableEq, Repr

/-- What a CLOSE object says. -/
structure CloseObject where
  flags : UInt8
  reason : UInt8
  deriving DecidableEq, Repr

/-- The failures of session establishment, the values of error type 1. -/
inductive EstablishmentError
  /-- reception of an invalid OPEN or a non-OPEN message -/
  | invalidOpen
  /-- no OPEN received before the open-wait timer expired -/
  | openWaitExpired
  /-- unacceptable and non negotiable session characteristics -/
  | notNegotiable
  /-- unacceptable but negotiable session characteristics -/
  | negotiable
  /-- a second OPEN was still unacceptable -/
  | secondOpenUnacceptable
  /-- an ERROR carrying an unacceptable proposal was received -/
  | unacceptableProposal
  /-- no KEEPALIVE or ERROR received before the keep-wait timer expired -/
  | keepWaitExpired
  deriving DecidableEq, Repr

namespace EstablishmentError

/-- Every establishment error, in the order of its value. -/
def all : List EstablishmentError :=
  [invalidOpen, openWaitExpired, notNegotiable, negotiable, secondOpenUnacceptable,
    unacceptableProposal, keepWaitExpired]

/-- The error value on the wire. -/
def value : EstablishmentError → UInt8
  | invalidOpen => 1
  | openWaitExpired => 2
  | notNegotiable => 3
  | negotiable => 4
  | secondOpenUnacceptable => 5
  | unacceptableProposal => 6
  | keepWaitExpired => 7

/-- The name of an establishment error. -/
def title : EstablishmentError → String
  | invalidOpen => "InvalidOpen"
  | openWaitExpired => "OpenWaitExpired"
  | notNegotiable => "NotNegotiable"
  | negotiable => "Negotiable"
  | secondOpenUnacceptable => "SecondOpenUnacceptable"
  | unacceptableProposal => "UnacceptableProposal"
  | keepWaitExpired => "KeepWaitExpired"

end EstablishmentError

/-- The reasons a session gives in the CLOSE messages it sends. -/
inductive CloseCause
  | noExplanation
  | deadTimerExpired
  | malformedMessage
  deriving DecidableEq, Repr

/-- The reason octet of a close cause. -/
def CloseCause.value : CloseCause → UInt8
  | noExplanation => 1
  | deadTimerExpired => 2
  | malformedMessage => 3

namespace OpenObject

/-- The object class of OPEN objects. -/
def classCode : UInt8 := 1

/-- The proposal of this node. -/
def propose (keepalive deadTimer sessionId : UInt8) : OpenObject :=
  { version := protocolVersion, flags := 0, keepalive, deadTimer, sessionId }

/-- The object with its header. -/
def octets (o : OpenObject) : Octets :=
  (ObjectHeader.plain classCode).octets
    ++ [Octets.packed o.version o.flags, o.keepalive, o.deadTimer, o.sessionId]

/-- Read the four octets under the header. -/
def readBody : Octets → Except FormatError OpenObject
  | [b, keepalive, deadTimer, sessionId] =>
    .ok
      { version := Octets.upper3 b
        flags := Octets.lower5 b
        keepalive
        deadTimer
        sessionId }
  | body => .error (.objectBody "OPEN" body.length)

/-- An OPEN message carrying this object. -/
def message (o : OpenObject) : Message := .make .opening o.octets

end OpenObject

namespace ErrorObject

/-- The object class of PCEP-ERROR objects. -/
def classCode : UInt8 := 13

/-- The error type of failures during establishment. -/
def establishmentType : UInt8 := 1

/-- The object that reports a failed establishment. -/
def establishment (e : EstablishmentError) : ErrorObject :=
  { flags := 0, errorType := establishmentType, errorValue := e.value }

/-- Whether the object reports the given failure. -/
def is (o : ErrorObject) (e : EstablishmentError) : Bool :=
  o.errorType == establishmentType && o.errorValue == e.value

/-- The object with its header; its first body octet is reserved. -/
def octets (o : ErrorObject) : Octets :=
  (ObjectHeader.plain classCode).octets ++ [0, o.flags, o.errorType, o.errorValue]

/-- Read the four octets under the header, whatever the reserved one holds. -/
def readBody : Octets → Except FormatError ErrorObject
  | [_, flags, errorType, errorValue] => .ok { flags, errorType, errorValue }
  | body => .error (.objectBody "PCEP-ERROR" body.length)

/-- An ERROR message, with a counter proposal behind the error if there is one. -/
def message (o : ErrorObject) (proposal : Option OpenObject) : Message :=
  .make .error (o.octets ++ (proposal.map OpenObject.octets).getD [])

end ErrorObject

namespace CloseObject

/-- The object class of CLOSE objects. -/
def classCode : UInt8 := 15

/-- The object with its header; its first two body octets are reserved. -/
def octets (o : CloseObject) : Octets :=
  (ObjectHeader.plain classCode).octets ++ [0, 0, o.flags, o.reason]

/-- Read the four octets under the header, whatever the reserved ones hold. -/
def readBody : Octets → Except FormatError CloseObject
  | [_, _, flags, reason] => .ok { flags, reason }
  | body => .error (.objectBody "CLOSE" body.length)

end CloseObject

/-- The CLOSE message that gives this cause. -/
def CloseCause.message (c : CloseCause) : Message :=
  .make .close (CloseObject.octets { flags := 0, reason := c.value })

/-- A KEEPALIVE message. -/
def keepaliveMessage : Message := .make .keepalive []

/-- One object of a message body. -/
inductive WireObject
  | opening (o : OpenObject)
  | error (o : ErrorObject)
  | close (o : CloseObject)
  | other (header : ObjectHeader) (body : Octets)
  deriving DecidableEq, Repr

namespace WireObject

/-- The header four octets stand for. -/
def headerOf (objectClass typeOctet hi lo : UInt8) : ObjectHeader :=
  { objectClass
    objectType := typeOctet / 16
    processingRule := typeOctet / 2 % 2 == 1
    ignored := typeOctet % 2 == 1
    length := Octets.toWord hi lo }

/-- The object that a header and the octets under it stand for. -/
def ofBody (h : ObjectHeader) (body : Octets) : Except FormatError WireObject :=
  if h.objectType = 1 ∧ h.objectClass = OpenObject.classCode then
    (OpenObject.readBody body).map .opening
  else if h.objectType = 1 ∧ h.objectClass = ErrorObject.classCode then
    (ErrorObject.readBody body).map .error
  else if h.objectType = 1 ∧ h.objectClass = CloseObject.classCode then
    (CloseObject.readBody body).map .close
  else
    .ok (.other h body)

/-- Read one object off the front, giving what follows it. -/
def read : Octets → Except FormatError (WireObject × Octets)
  | c :: t :: hi :: lo :: rest =>
    let h := headerOf c t hi lo
    let n := h.length.toNat
    if n < ObjectHeader.size then
      .error (.objectTooSmall n)
    else
      let body := rest.take (n - ObjectHeader.size)
      if body.length < n - ObjectHeader.size then
        .error (.objectOverrun c n (rest.length + ObjectHeader.size))
      else
        (ofBody h body).map fun o => (o, rest.drop (n - ObjectHeader.size))
  | short => .error (.shortObjectHeader short.length)

/-- Reading an object takes at least its header. -/
theorem length_lt_of_read {bs rest : Octets} {o : WireObject} (h : read bs = .ok (o, rest)) :
    rest.length < bs.length := by
  unfold read at h
  split at h
  · rename_i c t hi lo tail
    simp only at h
    split at h
    · cases h
    · split at h
      · cases h
      · cases hb : ofBody (headerOf c t hi lo)
            (tail.take ((headerOf c t hi lo).length.toNat - ObjectHeader.size)) with
        | error e => rw [hb] at h; cases h
        | ok o' =>
          rw [hb] at h
          cases h
          simp only [List.length_drop, List.length_cons]
          omega
  · cases h

/-- Split a message body into its objects. -/
def readAll (bs : Octets) : Except FormatError (List WireObject) :=
  match bs with
  | [] => .ok []
  | b :: bs' =>
    match h : read (b :: bs') with
    | .error e => .error e
    | .ok (o, rest) =>
      have := length_lt_of_read h
      (readAll rest).map (o :: ·)
termination_by bs.length
decreasing_by exact this

/-- The OPEN object of this object, if it is one. -/
def opening? : WireObject → Option OpenObject
  | opening o => some o
  | _ => none

/-- The CLOSE object of this object, if it is one. -/
def close? : WireObject → Option CloseObject
  | close o => some o
  | _ => none

end WireObject

end PathSession
