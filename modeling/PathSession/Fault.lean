import PathSession.PeerAddress.Printer
import PathSession.Wire.FormatError
import PathSession.Wire.Frame

/-!
# Faults

The kinds of failure an operation of the engine reports to its caller, and their wording.

* `Fault`, `Fault.message`;
* `FormatError.fault`, `FrameError.fault`, `Oversize.fault`: the causes of the wire as faults.
-/

namespace PathSession

/-- A reported failure. -/
inductive Fault
  | invalidValue (detail : String)
  | invalidOperation (detail : String)
  /-- a failed operation on the network or a file, described in full -/
  | ioDetail (detail : String)
  /-- a failed operation of the operating system -/
  | io (detail : String)
  | channelSend (detail : String)
  | configFile (detail : String)
  | tracing (detail : String)
  /-- more octets are needed before a frame can be parsed -/
  | incomplete
  | framing (detail : String)
  | malformed (detail : String)
  | tooLarge (detail : String)
  | unknownPeer (peer : PeerAddress)
  | sessionExists (peer : PeerAddress)
  deriving DecidableEq, Repr

/-- The text of a failure. -/
def Fault.message : Fault → String
  | invalidValue detail => s!"invalid value: {detail}"
  | invalidOperation detail => s!"invalid operation: {detail}"
  | ioDetail detail => s!"I/O error: {detail}"
  | io detail => s!"io error: {detail}"
  | channelSend detail => s!"channel send error: {detail}"
  | configFile detail => s!"config file error: {detail}"
  | tracing detail => s!"tracing setup error: {detail}"
  | incomplete => "incomplete frame"
  | framing detail => s!"framing error: {detail}"
  | malformed detail => s!"malformed message: {detail}"
  | tooLarge detail => s!"message too large: {detail}"
  | unknownPeer peer => s!"no session for peer {peer.text}"
  | sessionExists peer => s!"session for peer {peer.text} already exists"

/-- A malformed message as a fault. -/
def FormatError.fault (e : FormatError) : Fault := .malformed e.text

/-- A stream that can not be framed as a fault. -/
def FrameError.fault (e : FrameError) : Fault := .framing e.text

/-- A body that is too large as a fault. -/
def Oversize.fault (o : Oversize) : Fault := .tooLarge o.text

/-- What the sender of a message is told when the receiver of a channel is gone.  The queues of
session events and the shutdown broadcast word it alike; task channels have their own wording. -/
inductive ClosedChannel
  | events
  | tasks
  | broadcast
  deriving DecidableEq, Repr

/-- A send into a closed channel as a fault. -/
def ClosedChannel.fault : ClosedChannel → Fault
  | events => .channelSend "channel closed"
  | tasks => .channelSend "sending into a closed channel"
  | broadcast => .channelSend "channel closed"

namespace PeerAddress

/-- The endpoint a text names, or the complaint about the text. -/
def refusal (text : String) : Fault :=
  .invalidValue s!"peer address {text}: invalid socket address syntax"

end PeerAddress

end PathSession
