import PathSession.PeerAddress.Basic
import PathSession.Session.Policy
import PathSession.Session.State
import PathSession.Wire.Content

/-!
# Sessions

The protocol state of one peer, what comes to it and what it asks for.  A session does no input or
output of its own.

* `SessionEvent`: what a session is told;
* `Action`: what it asks for;
* `Session`, `Session.init`: its state;
* `Session.Snapshot`: the part of it that others may see.
-/

namespace PathSession

/-- What a session is told, in order. -/
inductive SessionEvent
  /-- a peer connected to our listener -/
  | accepted
  /-- a collaborator asked for a session to this peer -/
  | connectRequested
  /-- the outbound connect completed -/
  | transportUp
  /-- the outbound connect failed -/
  | transportFailed
  /-- end of stream, reset or write failure on an established connection -/
  | connectionLost
  /-- the byte stream could not be framed, reading has stopped -/
  | framingFailed
  /-- a message received from the peer -/
  | network (message : Message)
  /-- a message handed over by a local collaborator -/
  | fromLocal (message : Message)
  | timerExpired (kind : TimerKind) (token : TimerToken)
  /-- a collaborator asked to tear the session down -/
  | closeRequested
  deriving DecidableEq, Repr

/-- An event as the journal shows it. -/
def SessionEvent.inspect : SessionEvent → String
  | accepted => "Accepted"
  | connectRequested => "ConnectRequested"
  | transportUp => "TransportUp"
  | transportFailed => "TransportFailed"
  | connectionLost => "ConnectionLost"
  | framingFailed => "FramingFailed"
  | network m => s!"Network({m.inspect})"
  | fromLocal m => s!"Local({m.inspect})"
  | timerExpired kind token =>
    s!"TimerExpired \x7b kind: {kind.title}, token: {token} \x7d"
  | closeRequested => "CloseRequested"

/-- What a session asks for, in order. -/
inductive Action
  /-- open a connection to the peer -/
  | connect
  /-- write a message to the peer -/
  | send (message : Message)
  /-- hand a data message to the local collaborator -/
  | deliver (message : Message)
  | armTimer (kind : TimerKind) (token : TimerToken) (after : Millis)
  | cancelTimer (kind : TimerKind) (token : TimerToken)
  /-- the session reached the up state -/
  | established
  /-- close the connection and forget the session -/
  | close (reason : CloseReason)
  deriving DecidableEq, Repr

/-- The protocol state of one peer.  Timers are known by token: an expiry whose token is not the
one in its slot is stale. -/
structure Session where
  peer : PeerAddress
  role : Role
  state : State
  /-- whether this side opens the connection -/
  initiator : Bool
  /-- whether there is or was a transport -/
  connected : Bool
  /-- the peer accepted our proposal -/
  localOk : Bool
  /-- we accepted the peer's proposal -/
  remoteOk : Bool
  /-- counter proposals made -/
  openRetries : Nat
  /-- failed connects -/
  connectRetries : Nat
  /-- our proposal, may be adjusted by a counter proposal -/
  keepalive : UInt8
  deadTimer : UInt8
  /-- the peer's accepted proposal -/
  peerKeepalive : UInt8
  peerDeadTimer : UInt8
  sessionId : UInt8
  keepaliveStarted : Bool
  closed : Bool
  timers : TimerSlots
  /-- local messages waiting for the session to come up -/
  outbound : List Message
  settings : Settings
  deriving DecidableEq, Repr

namespace Session

/-- A session that has not started. -/
def init (peer : PeerAddress) (role : Role) (initiator : Bool) (sessionId : UInt8)
    (settings : Settings) : Session :=
  { peer
    role
    state := .idle
    initiator
    connected := false
    localOk := false
    remoteOk := false
    openRetries := 0
    connectRetries := 0
    keepalive := settings.keepalive
    deadTimer := settings.deadTimer
    peerKeepalive := 0
    peerDeadTimer := 0
    sessionId
    keepaliveStarted := false
    closed := false
    timers := {}
    outbound := []
    settings }

/-- The part of a session that others may see. -/
structure Snapshot where
  peer : PeerAddress
  role : Role
  state : State
  initiator : Bool
  localOk : Bool
  remoteOk : Bool
  armedTimers : List TimerKind
  /-- the keepalive interval we run with -/
  keepalive : UInt8
  /-- the keepalive interval the peer announced -/
  peerKeepalive : UInt8
  /-- the dead timer the peer asked us to run -/
  peerDeadTimer : UInt8
  queuedMessages : Nat
  deriving DecidableEq, Repr

/-- The view of a session. -/
def snapshot (s : Session) : Snapshot :=
  { peer := s.peer
    role := s.role
    state := s.state
    initiator := s.initiator
    localOk := s.localOk
    remoteOk := s.remoteOk
    armedTimers := s.timers.armed
    keepalive := s.keepalive
    peerKeepalive := s.peerKeepalive
    peerDeadTimer := s.peerDeadTimer
    queuedMessages := s.outbound.length }

end Session

end PathSession
