import PathSession.Session.Note

/-!
# One turn of a session

While a session handles one event it changes, asks for actions and remarks on what it does.
`Turn` holds all of that.  This file has the moves a turn is made of:

* `Turn.act`, `Turn.note`, `Turn.change`, `Turn.enter`: the elementary moves;
* `Turn.cancel`, `Turn.arm`: timers;
* `Turn.send`, `Turn.sendOpen`, `Turn.sendError`: messages;
* `Turn.release`, `Turn.close`: the end of a session.
-/

namespace PathSession

/-- A session at work: its state so far, the next unused timer token, and what it has asked for
and remarked in this turn. -/
structure Turn where
  session : Session
  nextToken : TimerToken
  actions : List Action
  notes : List Note

namespace Turn

/-- A turn in which nothing has happened yet. -/
def start (s : Session) (nextToken : TimerToken) : Turn :=
  { session := s, nextToken, actions := [], notes := [] }

/-- Ask for an action. -/
def act (t : Turn) (a : Action) : Turn := { t with actions := t.actions ++ [a] }

/-- Make a remark. -/
def note (t : Turn) (n : Note) : Turn := { t with notes := t.notes ++ [n] }

/-- Change the session. -/
def change (t : Turn) (f : Session → Session) : Turn := { t with session := f t.session }

/-- Move to a state. -/
def enter (t : Turn) (target : State) : Turn :=
  (t.note (.transition t.session.state target)).change fun s => { s with state := target }

/-- Cancel a timer if it is armed. -/
def cancel (t : Turn) (k : TimerKind) : Turn :=
  match t.session.timers.get k with
  | none => t
  | some token =>
    (t.change fun s => { s with timers := s.timers.set k none }).act (.cancelTimer k token)

/-- Arm a timer under a fresh token, in place of the one that is armed. -/
def arm (t : Turn) (k : TimerKind) (after : Millis) : Turn :=
  let t := t.cancel k
  let token := t.nextToken
  { t.change fun s => { s with timers := s.timers.set k (some token) } with
    nextToken := token + 1 }.act (.armTimer k token after)

/-- Send a message to the peer. -/
def send (t : Turn) (m : Message) : Turn := t.act (.send m)

/-- Send our current proposal. -/
def sendOpen (t : Turn) : Turn :=
  t.send (OpenObject.propose t.session.keepalive t.session.deadTimer t.session.sessionId).message

/-- Report a failed establishment to the peer. -/
def sendError (t : Turn) (e : EstablishmentError) : Turn :=
  t.send ((ErrorObject.establishment e).message none)

/-- Cancel every timer and go idle. -/
def release (t : Turn) : Turn :=
  let t := TimerKind.all.foldl cancel t
  (t.change fun s => { s with localOk := false, remoteOk := false }).enter .idle

/-- Release the session, drop its queue and end it. -/
def close (t : Turn) (reason : CloseReason) : Turn :=
  let t := t.release
  let t := if t.session.outbound.isEmpty then t
    else (t.note (.queueLost t.session.outbound.length)).change fun s => { s with outbound := [] }
  let t := t.change fun s => { s with closed := true }
  (t.note (.closing reason)).act (.close reason)

/-- Report a failed establishment and end the session for it. -/
def refuse (t : Turn) (e : EstablishmentError) (reason : CloseReason) : Turn :=
  (t.sendError e).close reason

end Turn

end PathSession
