import PathSession.Session.Turn

/-!
# The session machine

How a session answers each event.

* `Session.start`: an initiator starts connecting, an acceptor sends its OPEN;
* `Session.handle`: one event;
* `Session.release`: cancel every timer and go idle, which may be repeated.

An OPEN that is acceptable is answered with KEEPALIVE, the first negotiable one with an ERROR that
carries a counter proposal.  The session is up once both sides accepted each other's proposal.
From then on every received message restarts the dead timer, and data messages are routed by role:
a server takes REQUEST from the network and sends RESPONSE, a client the other way round, while
NOTIFICATION and ERROR pass on both sides.
-/

namespace PathSession

namespace Turn

/-- Malformed input: answered with an ERROR while negotiating and with CLOSE once up. -/
def formatError (t : Turn) : Turn :=
  let t := match t.session.state with
    | .openWait | .keepWait => t.sendError .invalidOpen
    | .sessionUp => t.send CloseCause.malformedMessage.message
    | .idle | .tcpPending => t
  t.close .framingError

/-- Restart the dead timer, unless the peer disabled it. -/
def restartDeadTimer (t : Turn) : Turn :=
  if 0 < t.session.peerDeadTimer then
    t.arm .deadTimer (Millis.ofSeconds t.session.peerDeadTimer.toNat)
  else
    t

/-- Hand a message on to the network if this role sends messages of its type. -/
def routeFromLocal (t : Turn) (m : Message) : Turn :=
  match t.session.role, m.kind with
  | .client, .ok .request => t.send m
  | .server, .ok .response => t.send m
  | _, .ok .notification => t.send m
  | _, .ok .error => t.send m
  | role, kind => t.note (.droppedFromLocal role kind)

/-- Hand a message on to the collaborator if this role takes messages of its type. -/
def routeFromNetwork (t : Turn) (m : Message) (kind : MessageKind) : Turn :=
  match t.session.role, kind with
  | .server, .request => t.act (.deliver m)
  | .client, .response => t.act (.deliver m)
  | _, .notification => t.act (.deliver m)
  | _, .error => t.act (.deliver m)
  | role, kind => t.note (.droppedFromNetwork role kind)

/-- Start sending keepalives, unless that was done or they are disabled. -/
def startKeepalives (t : Turn) : Turn :=
  if t.session.keepaliveStarted then
    t
  else
    let t := t.change fun s => { s with keepaliveStarted := true }
    if 0 < t.session.keepalive then
      t.arm .keepAlive (Millis.ofSeconds t.session.keepalive.toNat)
    else
      t

/-- Route the waiting local messages, oldest first. -/
def flush (t : Turn) : Turn :=
  let queue := t.session.outbound
  let t := if queue.isEmpty then t else t.note (.flushing queue.length)
  queue.foldl routeFromLocal (t.change fun s => { s with outbound := [] })

/-- Both sides agreed. -/
def enterUp (t : Turn) : Turn :=
  let t := (t.enter .sessionUp).startKeepalives.restartDeadTimer
  let t := t.note (.up t.session.role t.session.keepalive t.session.peerDeadTimer)
  (t.act .established).flush

/-- Wait for the peer's OPEN. -/
def awaitOpen (t : Turn) : Turn :=
  (t.arm .openWait t.session.settings.openWait).enter .openWait

/-- Wait for the peer to accept our OPEN. -/
def awaitAnswer (t : Turn) : Turn :=
  (t.arm .keepWait t.session.settings.keepWait).enter .keepWait

/-- Propose our characteristics over a transport that just came up. -/
def greet (t : Turn) : Turn :=
  (t.change fun s => { s with connected := true }).sendOpen

/-- One more connect has failed. -/
def connectFailed (t : Turn) : Turn :=
  let t := t.change fun s => { s with connectRetries := s.connectRetries + 1 }
  if t.session.settings.maxConnectRetries.toNat ≤ t.session.connectRetries then
    (t.note (.connectGivenUp t.session.connectRetries)).close .connectRetriesExhausted
  else
    let t := (t.note (.connectRetried t.session.connectRetries)).act .connect
    (t.arm .connect t.session.settings.connectTimeout).enter .tcpPending

/-- The peer's proposal is one we accept. -/
def accept (t : Turn) (offer : OpenObject) : Turn :=
  let t := (t.note (.proposalAccepted offer)).change fun s =>
    { s with peerKeepalive := offer.keepalive, peerDeadTimer := offer.deadTimer }
  let t := t.send keepaliveMessage
  let t := (t.change fun s => { s with remoteOk := true }).cancel .openWait
  if t.session.localOk then t.enterUp else t.awaitAnswer

/-- The peer's first proposal is answered with another one. -/
def counter (t : Turn) (offer : OpenObject) : Turn :=
  let t := t.change fun s => { s with openRetries := s.openRetries + 1 }
  let proposal := t.session.settings.policy.counterProposal offer t.session.sessionId
  let t := t.note (.counterProposed offer proposal)
  let t := t.send ((ErrorObject.establishment .negotiable).message (some proposal))
  if t.session.localOk then t.awaitOpen else (t.cancel .openWait).awaitAnswer

/-- The peer proposes its characteristics. -/
def consider (t : Turn) (offer : OpenObject) : Turn :=
  match t.session.settings.policy.check offer with
  | .acceptable => t.accept offer
  | .negotiable =>
    if t.session.openRetries = 0 then
      t.counter offer
    else
      (t.note .stillUnacceptable).refuse .secondOpenUnacceptable .negotiationFailed
  | .notNegotiable =>
    (t.note (.notNegotiable offer)).refuse .notNegotiable .negotiationFailed

/-- A message while waiting for the peer's OPEN. -/
def inOpenWait (t : Turn) (m : Message) : Turn :=
  match m.kind with
  | .error e => (t.note (.malformed .openWait e)).formatError
  | .ok .opening =>
    match m.content with
    | .error e => (t.note (.malformedOpen e)).formatError
    | .ok (.opening offer) => t.consider offer
    | .ok _ => t.formatError
  | .ok kind => (t.note (.expectedOpen kind)).close .protocolSequence

/-- The counter proposal of an ERROR, if the error says that it is one and we can accept it. -/
def adoptable (p : Policy) (e : ErrorObject) (proposal : Option OpenObject) : Option OpenObject :=
  proposal.filter fun o => e.is .negotiable && p.check o == .acceptable

/-- The peer accepted our proposal. -/
def accepted (t : Turn) : Turn :=
  let t := (t.change fun s => { s with localOk := true }).cancel .keepWait
  if t.session.remoteOk then t.enterUp else t.awaitOpen

/-- Take over the peer's counter proposal and propose it ourselves. -/
def adopt (t : Turn) (proposal : OpenObject) : Turn :=
  let t := (t.note (.adopted proposal)).change fun s =>
    { s with keepalive := proposal.keepalive, deadTimer := proposal.deadTimer }
  let t := t.sendOpen
  if t.session.remoteOk then t.awaitAnswer else (t.cancel .keepWait).awaitOpen

/-- A message while waiting for the peer to accept our OPEN. -/
def inKeepWait (t : Turn) (m : Message) : Turn :=
  match m.kind with
  | .error e => (t.note (.malformed .keepWait e)).formatError
  | .ok kind =>
    if kind = .keepalive ∨ kind = .error then
      match m.content with
      | .error e => (t.note (.malformed .keepWait e)).formatError
      | .ok .keepalive => t.accepted
      | .ok (.error e proposal) =>
        match adoptable t.session.settings.policy e proposal with
        | some o => t.adopt o
        | none => (t.note (.rejected e)).refuse .unacceptableProposal .negotiationFailed
      | .ok _ => t.close .protocolSequence
    else
      (t.note (.expectedAnswer kind)).close .protocolSequence

/-- A message while the session is up. -/
def inSessionUp (t : Turn) (m : Message) : Turn :=
  match m.content with
  | .error e => (t.note (.malformed .sessionUp e)).formatError
  | .ok content =>
    let t := t.restartDeadTimer
    match content with
    | .keepalive => t.note .keepaliveReceived
    | .opening _ => t.note .openIgnored
    | .close o => (t.note (.closedByPeer o.reason)).close .peerClosed
    | .error _ _ => t.routeFromNetwork m .error
    | .data kind => t.routeFromNetwork m kind

/-- A message from the peer. -/
def fromNetwork (t : Turn) (m : Message) : Turn :=
  match t.session.state with
  | .openWait => t.inOpenWait m
  | .keepWait => t.inKeepWait m
  | .sessionUp => t.inSessionUp m
  | .idle | .tcpPending => t.note (.withoutTransport t.session.state m)

/-- A message from a local collaborator.  Until the session is up a client queues it and a server
drops it. -/
def fromLocal (t : Turn) (m : Message) : Turn :=
  if t.session.state = .sessionUp then
    t.routeFromLocal m
  else if t.session.role = .client then
    (t.note (.queued t.session.state)).change fun s => { s with outbound := s.outbound ++ [m] }
  else
    t.note (.droppedBeforeUp t.session.state m)

/-- An armed timer has expired. -/
def expire (t : Turn) (kind : TimerKind) : Turn :=
  let t := t.note (.expired t.session.state kind)
  match kind with
  | .connect => if t.session.state = .tcpPending then t.connectFailed else t
  | .openWait => (t.note .noOpen).refuse .openWaitExpired .openWaitExpired
  | .keepWait => (t.note .noAnswer).refuse .keepWaitExpired .keepWaitExpired
  | .deadTimer =>
    ((t.note .peerDead).send CloseCause.deadTimerExpired.message).close .deadTimerExpired
  | .keepAlive =>
    (t.send keepaliveMessage).arm .keepAlive (Millis.ofSeconds t.session.keepalive.toNat)

/-- The outbound connect completed. -/
def transportUp (t : Turn) : Turn :=
  if t.session.state = .tcpPending then
    (t.greet.cancel .connect).awaitOpen
  else
    t.note (.unexpectedTransport t.session.state)

/-- The event of a session that is not closed. -/
def take (t : Turn) (e : SessionEvent) : Turn :=
  match e with
  | .accepted | .connectRequested => t.note (.alreadyExists e)
  | .transportUp => t.transportUp
  | .transportFailed => if t.session.state = .tcpPending then t.connectFailed else t
  | .connectionLost =>
    if t.session.state = .tcpPending then t.connectFailed else t.close .transportFailure
  | .framingFailed => (t.note (.unframeable t.session.state)).formatError
  | .network m => t.fromNetwork m
  | .fromLocal m => t.fromLocal m
  | .timerExpired kind token =>
    if t.session.timers.get kind = some token then
      (t.change fun s => { s with timers := s.timers.set kind none }).expire kind
    else
      t.note (.staleExpiry kind token)
  | .closeRequested =>
    let t := if t.session.connected then t.send CloseCause.noExplanation.message else t
    t.close .localClose

end Turn

namespace Session

/-- Leave idle: an initiator starts connecting, an acceptor sends its OPEN. -/
def start (s : Session) (nextToken : TimerToken) : Turn :=
  let t := Turn.start s nextToken
  if s.initiator then
    ((t.arm .connect s.settings.connectTimeout).act .connect).enter .tcpPending
  else
    t.greet.awaitOpen

/-- Handle one event.  A closed session drops everything. -/
def handle (s : Session) (nextToken : TimerToken) (e : SessionEvent) : Turn :=
  let t := Turn.start s nextToken
  if s.closed then t.note (.droppedAfterClose e) else t.take e

/-- Cancel every armed timer and go idle. -/
def release (s : Session) (nextToken : TimerToken) : Turn :=
  (Turn.start s nextToken).release

end Session

end PathSession
