/-!
# States, roles, timers and close reasons of a session

* `State`, `State.CanBecome`: the session states and the transitions between them;
* `Role`: which side of the protocol a node plays;
* `TimerKind`, `TimerSlots`: the five timers of a session and the tokens they are armed with;
* `CloseReason`: why a session ended.
-/

namespace PathSession

/-- The states of a session. -/
inductive State
  /-- no transport and no negotiation in progress; also the end of every session -/
  | idle
  /-- waiting for an outbound connect to complete -/
  | tcpPending
  /-- waiting for the peer's OPEN -/
  | openWait
  /-- waiting for the peer to accept our OPEN -/
  | keepWait
  /-- both sides accepted each other's characteristics -/
  | sessionUp
  deriving DecidableEq, Repr

namespace State

/-- Every state, from idle to up. -/
def all : List State := [idle, tcpPending, openWait, keepWait, sessionUp]

/-- The name of a state. -/
def label : State → String
  | idle => "IDLE"
  | tcpPending => "TCP_PENDING"
  | openWait => "OPEN_WAIT"
  | keepWait => "KEEP_WAIT"
  | sessionUp => "SESSION_UP"

/-- The transitions a session may make; release is allowed from anywhere. -/
def canBecome : State → State → Bool
  | _, idle => true
  | idle, tcpPending => true
  | idle, openWait => true
  | tcpPending, tcpPending => true
  | tcpPending, openWait => true
  | openWait, openWait => true
  | openWait, keepWait => true
  | openWait, sessionUp => true
  | keepWait, keepWait => true
  | keepWait, openWait => true
  | keepWait, sessionUp => true
  | _, _ => false

end State

/-- Which side of the protocol a node plays. -/
inductive Role
  /-- path computation client, sends REQUEST and receives RESPONSE -/
  | client
  /-- path computation element, receives REQUEST and sends RESPONSE -/
  | server
  deriving DecidableEq, Repr

/-- The name of a role. -/
def Role.title : Role → String
  | client => "Client"
  | server => "Server"

/-- The five timers of a session. -/
inductive TimerKind
  | connect
  | openWait
  | keepWait
  | keepAlive
  | deadTimer
  deriving DecidableEq, Repr

namespace TimerKind

/-- Every timer, in a fixed order. -/
def all : List TimerKind := [connect, openWait, keepWait, keepAlive, deadTimer]

/-- The name of a timer. -/
def title : TimerKind → String
  | connect => "Connect"
  | openWait => "OpenWait"
  | keepWait => "KeepWait"
  | keepAlive => "KeepAlive"
  | deadTimer => "DeadTimer"

end TimerKind

/-- The name of one armed timer.  Tokens are handed out in sequence and never reused: one is taken
for each timer that is armed, and no node arms `2 ^ 64` of them. -/
abbrev TimerToken := Nat

/-- The token each timer of a session is armed with. -/
structure TimerSlots where
  connect : Option TimerToken := none
  openWait : Option TimerToken := none
  keepWait : Option TimerToken := none
  keepAlive : Option TimerToken := none
  deadTimer : Option TimerToken := none
  deriving DecidableEq, Repr

namespace TimerSlots

/-- The token of a timer. -/
def get (s : TimerSlots) : TimerKind → Option TimerToken
  | .connect => s.connect
  | .openWait => s.openWait
  | .keepWait => s.keepWait
  | .keepAlive => s.keepAlive
  | .deadTimer => s.deadTimer

/-- Change the token of a timer. -/
def set (s : TimerSlots) (k : TimerKind) (token : Option TimerToken) : TimerSlots :=
  match k with
  | .connect => { s with connect := token }
  | .openWait => { s with openWait := token }
  | .keepWait => { s with keepWait := token }
  | .keepAlive => { s with keepAlive := token }
  | .deadTimer => { s with deadTimer := token }

/-- The armed timers, in their fixed order. -/
def armed (s : TimerSlots) : List TimerKind := TimerKind.all.filter fun k => (s.get k).isSome

theorem get_set (s : TimerSlots) (k k' : TimerKind) (token : Option TimerToken) :
    (s.set k token).get k' = if k' = k then token else s.get k' := by
  cases k <;> cases k' <;> rfl

@[simp] theorem get_set_self (s : TimerSlots) (k : TimerKind) (token : Option TimerToken) :
    (s.set k token).get k = token := by
  simp [get_set]

end TimerSlots

/-- Why a session ended. -/
inductive CloseReason
  /-- a message or the byte stream itself was malformed -/
  | framingError
  /-- the peer sent a message not allowed in the current state -/
  | protocolSequence
  /-- session characteristics could not be agreed on -/
  | negotiationFailed
  | openWaitExpired
  | keepWaitExpired
  | deadTimerExpired
  | connectRetriesExhausted
  /-- reset, end of stream or write failure -/
  | transportFailure
  /-- the peer sent CLOSE -/
  | peerClosed
  /-- a collaborator asked for the close, or the node shuts down -/
  | localClose
  deriving DecidableEq, Repr

/-- The name of a close reason. -/
def CloseReason.title : CloseReason → String
  | framingError => "FramingError"
  | protocolSequence => "ProtocolSequence"
  | negotiationFailed => "NegotiationFailed"
  | openWaitExpired => "OpenWaitExpired"
  | keepWaitExpired => "KeepWaitExpired"
  | deadTimerExpired => "DeadTimerExpired"
  | connectRetriesExhausted => "ConnectRetriesExhausted"
  | transportFailure => "TransportFailure"
  | peerClosed => "PeerClosed"
  | localClose => "LocalClose"

end PathSession
