import PathSession.Fault
import PathSession.Journal
import PathSession.Session.Basic

/-!
# What a session remarks

`Note` lists the remarks a session makes about itself while it works, and `Note.entries` gives
their place in the journal.
-/

namespace PathSession

/-- A remark of a session. -/
inductive Note
  | droppedAfterClose (event : SessionEvent)
  | alreadyExists (event : SessionEvent)
  | unframeable (state : State)
  | staleExpiry (kind : TimerKind) (token : TimerToken)
  | unexpectedTransport (state : State)
  | connectGivenUp (retries : Nat)
  | connectRetried (retry : Nat)
  | withoutTransport (state : State) (message : Message)
  | expectedOpen (received : MessageKind)
  | expectedAnswer (received : MessageKind)
  | malformed (state : State) (error : FormatError)
  | malformedOpen (error : FormatError)
  | proposalAccepted (offer : OpenObject)
  | counterProposed (offer proposal : OpenObject)
  | stillUnacceptable
  | notNegotiable (offer : OpenObject)
  | rejected (error : ErrorObject)
  | adopted (proposal : OpenObject)
  | keepaliveReceived
  | openIgnored
  | closedByPeer (reason : UInt8)
  | queued (state : State)
  | droppedBeforeUp (state : State) (message : Message)
  | droppedFromNetwork (role : Role) (kind : MessageKind)
  | droppedFromLocal (role : Role) (kind : Except FormatError MessageKind)
  | expired (state : State) (kind : TimerKind)
  | noOpen
  | noAnswer
  | peerDead
  | up (role : Role) (keepalive deadTimer : UInt8)
  | flushing (count : Nat)
  | queueLost (count : Nat)
  | closing (reason : CloseReason)
  /-- a requested change of state, also to the state the session is in -/
  | transition (source target : State)
  deriving Repr

namespace Note

/-- A message type, or the complaint about its code, as the journal shows it. -/
def kindText : Except FormatError MessageKind → String
  | .ok kind => s!"Ok({kind.title})"
  | .error e => s!"Err(MalformedMessage(\"{e.text}\"))"

/-- The values of a proposal. -/
def offerFields (o : OpenObject) : List (String × String) :=
  [("keepalive", toString o.keepalive.toNat), ("dead_timer", toString o.deadTimer.toNat)]

/-- The entries of a remark about a session with the given peer.  A requested change to the state
the session is in goes without saying. -/
def entries (peer : PeerAddress) (note : Note) : Journal :=
  let entry (level : Level) (text : String) (fields : List (String × String)) : Journal :=
    [⟨level, text, ("peer", peer.text) :: fields⟩]
  match note with
  | droppedAfterClose event =>
    entry .trace s!"session closed, dropping {event.inspect}" []
  | alreadyExists event =>
    entry .warn s!"session already exists, ignoring {event.inspect}" []
  | unframeable state => entry .warn "unframeable byte stream" [("state", state.label)]
  | staleExpiry kind token =>
    entry .trace "stale timer expiry" [("kind", kind.title), ("token", toString token)]
  | unexpectedTransport state =>
    entry .debug "unexpected transport up" [("state", state.label)]
  | connectGivenUp retries =>
    entry .warn "giving up connecting" [("retries", toString retries)]
  | connectRetried retry => entry .debug "retrying connect" [("retry", toString retry)]
  | withoutTransport state message =>
    entry .warn s!"message without a transport: {message.inspect}" [("state", state.label)]
  | expectedOpen received => entry .info s!"expected OPEN, received {received.label}" []
  | expectedAnswer received =>
    entry .info s!"expected KEEPALIVE or ERROR, received {received.label}" []
  | malformed state error =>
    entry .warn s!"malformed message in {state.label}: {error.fault.message}" []
  | malformedOpen error => entry .warn s!"malformed OPEN: {error.fault.message}" []
  | proposalAccepted offer => entry .debug "peer proposal accepted" (offerFields offer)
  | counterProposed offer proposal =>
    let values := s!"{proposal.keepalive.toNat}/{proposal.deadTimer.toNat}"
    entry .info s!"peer proposal negotiable, counter proposing {values}" (offerFields offer)
  | stillUnacceptable => entry .info "second proposal still unacceptable" []
  | notNegotiable offer => entry .info "peer proposal not negotiable" (offerFields offer)
  | rejected error =>
    entry .info "peer rejected our proposal"
      [("error_type", toString error.errorType.toNat),
        ("error_value", toString error.errorValue.toNat)]
  | adopted proposal => entry .info "adopting counter proposal" (offerFields proposal)
  | keepaliveReceived => entry .trace "keepalive received" []
  | openIgnored => entry .warn "OPEN received in SESSION_UP, ignored" []
  | closedByPeer reason =>
    entry .info "peer closed the session" [("reason", toString reason.toNat)]
  | queued state => entry .trace "queueing local message until up" [("state", state.label)]
  | droppedBeforeUp state message =>
    entry .warn s!"session not up, dropping local {message.inspect}" [("state", state.label)]
  | droppedFromNetwork role kind =>
    entry .warn s!"dropping {kind.label} from the network" [("role", role.title)]
  | droppedFromLocal role kind =>
    entry .warn s!"dropping local {kindText kind}" [("role", role.title)]
  | expired state kind =>
    entry .debug "timer expired" [("state", state.label), ("kind", kind.title)]
  | noOpen => entry .info "no OPEN received in time" []
  | noAnswer => entry .info "no KEEPALIVE received in time" []
  | peerDead => entry .info "dead timer expired" []
  | up role keepalive deadTimer =>
    entry .info "session established"
      [("role", role.title), ("keepalive", toString keepalive.toNat),
        ("dead_timer", toString deadTimer.toNat)]
  | flushing count => entry .debug "flushing queued messages" [("queued", toString count)]
  | queueLost count =>
    entry .warn "session closed with queued messages" [("dropped", toString count)]
  | closing reason => entry .info "session closed" [("reason", reason.title)]
  | transition source target =>
    if source = target then
      []
    else
      entry .debug "state transition" [("from", source.label), ("to", target.label)]

end Note

end PathSession
