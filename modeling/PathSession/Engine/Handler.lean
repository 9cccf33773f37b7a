import PathSession.Engine.Numbering
import PathSession.Engine.Registry
import PathSession.Listener
import PathSession.Network.Command
import PathSession.Session.Step
import PathSession.Timers.Schedule

/-!
# Handling session events

The handler finds or creates the session that an event is for, lets it take the event, and turns
the actions it asks for into effects on the rest of the node.

* `Effect`: a command to the network, a request to the timers or a callback;
* `Stroke`, `Handler.strokes`: the single things that an action comes to, in order;
* `Handler`, `Handler.process`: one event.
-/

namespace PathSession

/-- What the sessions ask of the rest of the node. -/
inductive Effect
  | command (c : Command)
  | timer (r : TimerRequest)
  | notice (n : Notice)
  deriving DecidableEq, Repr

/-- One thing that is done when an action is carried out. -/
inductive Stroke
  | effect (e : Effect)
  | remark (entry : Entry)
  /-- the session leaves the registry -/
  | remove
  deriving DecidableEq, Repr

/-- The sessions of a node, and the numbers it hands out to them. -/
structure Handler where
  role : Role
  settings : Settings
  registry : Registry
  ids : SessionIds
  nextToken : TimerToken

/-- What comes of handling an event: the handler afterwards, the effects in order, and the
remarks. -/
structure Handled where
  next : Handler
  effects : List Effect
  journal : Journal

namespace Handler

/-- A handler without sessions. -/
def init (role : Role) (settings : Settings) (firstId : UInt8) : Handler :=
  { role, settings, registry := .empty, ids := .startingAt firstId, nextToken := .first }

/-- What carrying out an action of a peer's session takes.  Closing takes the session out of the
registry before its callback is made. -/
def strokes (peer : PeerAddress) : Action → List Stroke
  | .connect => [.effect (.command (.connect peer))]
  | .send m => [.effect (.command (.send peer m.encode))]
  | .deliver m => [.effect (.notice (.message peer m))]
  | .armTimer kind token after => [.effect (.timer (.arm peer kind token after))]
  | .cancelTimer _ token => [.effect (.timer (.cancel token))]
  | .established => [.effect (.notice (.established peer))]
  | .close reason =>
    [.remove, .effect (.command (.close peer)),
      .remark ⟨.debug, "session removed", [("peer", peer.text), ("reason", reason.title)]⟩,
      .effect (.notice (.closed peer reason))]

/-- Do one thing for a peer. -/
def strike (peer : PeerAddress) (h : Handled) : Stroke → Handled
  | .effect e => { h with effects := h.effects ++ [e] }
  | .remark entry => { h with journal := h.journal ++ [entry] }
  | .remove => { h with next := { h.next with registry := h.next.registry.remove peer } }

/-- Carry out one action of a peer's session. -/
def perform (peer : PeerAddress) (h : Handled) (a : Action) : Handled :=
  (strokes peer a).foldl (strike peer) h

/-- Keep the session of a turn; its actions are yet to be carried out. -/
def keep (h : Handler) (peer : PeerAddress) (t : Turn) : Handled :=
  { next := { h with registry := h.registry.put peer t.session, nextToken := t.nextToken }
    effects := []
    journal := t.notes.flatMap (Note.entries peer) }

/-- Keep the session of a turn and carry out its actions. -/
def settle (h : Handler) (peer : PeerAddress) (t : Turn) : Handled :=
  t.actions.foldl (perform peer) (h.keep peer t)

/-- A peer without a session gets one, and its reservation is used up. -/
def create (h : Handler) (peer : PeerAddress) (initiator : Bool) : Handled :=
  let (id, ids) := h.ids.draw
  let s := Session.init peer h.role initiator id h.settings
  { h with ids, registry := h.registry.release peer }.settle peer (s.start h.nextToken)

/-- An event for a peer without a session: a connection or a request for one creates it, all else
is discarded. -/
def processNew (h : Handler) (peer : PeerAddress) (e : SessionEvent) : Handled :=
  match e with
  | .accepted => h.create peer false
  | .connectRequested => h.create peer true
  | e =>
    { next := h
      effects := []
      journal := [⟨.trace, s!"no session, discarding {e.inspect}", [("peer", peer.text)]⟩] }

/-- One event for a peer. -/
def process (h : Handler) (peer : PeerAddress) (e : SessionEvent) : Handled :=
  match h.registry.sessions.get? peer with
  | some s => h.settle peer (s.handle h.nextToken e)
  | none => h.processNew peer e

end Handler

end PathSession
