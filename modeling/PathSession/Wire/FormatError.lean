import PathSession.Wire.Header

/-!
# Format errors

The causes for which a framed message is malformed, each with its wording.
-/

namespace PathSession

/-- Why a framed message is malformed. -/
inductive FormatError
  /-- the header names no known message type -/
  | unknownKind (code : UInt8)
  /-- the header names another protocol version -/
  | unsupportedVersion (version : UInt8)
  /-- fewer octets than an object header are left -/
  | shortObjectHeader (left : Nat)
  /-- an object declares less than its own header -/
  | objectTooSmall (length : Nat)
  /-- an object declares more than what is left of the body -/
  | objectOverrun (objectClass : UInt8) (length left : Nat)
  /-- a known object has a body of another size than four octets -/
  | objectBody (name : String) (size : Nat)
  /-- the OPEN object names another protocol version -/
  | openVersion (version : UInt8)
  /-- an OPEN message holds something else than a single OPEN object -/
  | openObjects (count : Nat)
  /-- an ERROR message does not start with a PCEP-ERROR object -/
  | errorWithoutObject
  /-- a CLOSE message holds no CLOSE object -/
  | closeWithoutObject
  deriving DecidableEq, Repr

/-- What is said about a malformed message. -/
def FormatError.text : FormatError → String
  | unknownKind code => s!"message type:{code.toNat} is invalid"
  | unsupportedVersion version => s!"unsupported version {version.toNat}"
  | shortObjectHeader left => s!"object header needs 4 bytes, {left} left"
  | objectTooSmall length => s!"object length {length} too small"
  | objectOverrun c length left =>
    s!"object class {c.toNat} declares {length} bytes, {left} left"
  | objectBody name size => s!"{name} object body is {size} bytes"
  | openVersion version => s!"OPEN object version {version.toNat}"
  | openObjects count => s!"OPEN must carry exactly one OPEN object, got {count} objects"
  | errorWithoutObject => "ERROR must start with a PCEP-ERROR object"
  | closeWithoutObject => "CLOSE without CLOSE object"

end PathSession
