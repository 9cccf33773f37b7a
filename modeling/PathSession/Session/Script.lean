import PathSession.Session.Step

/-!
# Driving a session by a script

A script tells a session what happens to it, one stimulus at a time.  It may speak of a timer by
its kind alone, meaning the token that kind was last armed with, even if that has been cancelled
since.

* `Stimulus`, `Session.respond`;
* `Rig`: a session under a script, with the tokens it has used;
* `Rig.play`, `Rig.playAll`: one stimulus, or several.
-/

namespace PathSession

/-- One line of a script. -/
inductive Stimulus
  | start
  | release
  | event (e : SessionEvent)
  /-- the expiry of a timer under the token it was last armed with -/
  | lastExpiry (kind : TimerKind)
  deriving Repr

/-- The turn that a stimulus causes. -/
def Session.respond (s : Session) (nextToken : TimerToken) (lastArmed : TimerSlots) :
    Stimulus → Turn
  | .start => s.start nextToken
  | .release => s.release nextToken
  | .event e => s.handle nextToken e
  | .lastExpiry kind =>
    s.handle nextToken (.timerExpired kind ((lastArmed.get kind).getD 0))

/-- The tokens last armed, after one more action. -/
def TimerSlots.noteArmed (slots : TimerSlots) : Action → TimerSlots
  | .armTimer kind token _ => slots.set kind (some token)
  | _ => slots

/-- A session under a script. -/
structure Rig where
  session : Session
  nextToken : TimerToken
  lastArmed : TimerSlots

/-- What a script sees of a response. -/
structure Response where
  actions : List Action
  journal : Journal

/-- Two responses, one after the other. -/
def Response.append (r₁ r₂ : Response) : Response :=
  { actions := r₁.actions ++ r₂.actions, journal := r₁.journal ++ r₂.journal }

instance : Append Response := ⟨Response.append⟩

/-- No response at all. -/
def Response.none : Response := { actions := [], journal := [] }

namespace Rig

/-- A fresh session with tokens of its own, which count from 1. -/
def init (s : Session) : Rig := { session := s, nextToken := 1, lastArmed := {} }

/-- The rig after a turn, and what the turn shows. -/
def after (r : Rig) (t : Turn) : Rig × Response :=
  ({ session := t.session
     nextToken := t.nextToken
     lastArmed := t.actions.foldl TimerSlots.noteArmed r.lastArmed },
    { actions := t.actions
      journal := t.notes.flatMap (Note.entries r.session.peer) })

/-- One stimulus. -/
def play (r : Rig) (s : Stimulus) : Rig × Response :=
  r.after (r.session.respond r.nextToken r.lastArmed s)

/-- Several stimuli, one after the other. -/
def playAll (r : Rig) : List Stimulus → Rig × Response
  | [] => (r, .none)
  | s :: rest =>
    let (r, first) := r.play s
    let (r, more) := r.playAll rest
    (r, first ++ more)

end Rig

end PathSession
