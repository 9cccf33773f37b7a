import PathSession.Duration
import PathSession.Wire.Object

/-!
# Session characteristics

Which keepalive and dead timer values a node accepts from a peer, and what it proposes instead.

* `Bounds`, `Policy`, `Settings`;
* `Policy.check`: the verdict on a proposal;
* `Policy.counterProposal`: the values proposed instead.
-/

namespace PathSession

/-- An inclusive range of octets; a range whose bounds are inverted contains nothing. -/
structure Bounds where
  low : UInt8
  high : UInt8
  deriving DecidableEq, Repr

namespace Bounds

/-- Whether a value lies in the range. -/
def contains (r : Bounds) (v : UInt8) : Bool := r.low ≤ v && v ≤ r.high

/-- Whether the bounds are in order. -/
def Ordered (r : Bounds) : Prop := r.low ≤ r.high

instance (r : Bounds) : Decidable r.Ordered := inferInstanceAs (Decidable (r.low ≤ r.high))

/-- The value of the range next to the given one; of inverted bounds the upper one wins. -/
def clamp (r : Bounds) (v : UInt8) : UInt8 := min (max v r.low) r.high

end Bounds

/-- The outcome of checking proposed session characteristics. -/
inductive Verdict
  | acceptable
  /-- not acceptable, but a counter proposal may fix it -/
  | negotiable
  | notNegotiable
  deriving DecidableEq, Repr

/-- The name of a verdict. -/
def Verdict.title : Verdict → String
  | acceptable => "Acceptable"
  | negotiable => "Negotiable"
  | notNegotiable => "NotNegotiable"

/-- Which values a node accepts from a peer. -/
structure Policy where
  keepalive : Bounds := ⟨1, 255⟩
  deadTimer : Bounds := ⟨4, 255⟩
  allowNegotiation : Bool := true
  deriving DecidableEq, Repr

namespace Policy

/-- Both ranges have their bounds in order. -/
def Ordered (p : Policy) : Prop := p.keepalive.Ordered ∧ p.deadTimer.Ordered

instance (p : Policy) : Decidable p.Ordered :=
  inferInstanceAs (Decidable (p.keepalive.Ordered ∧ p.deadTimer.Ordered))

/-- A dead timer that is disabled or not shorter than the keepalive interval. -/
def consistent (o : OpenObject) : Bool := o.deadTimer == 0 || o.keepalive ≤ o.deadTimer

/-- The verdict on a proposal.  A proposal out of range is negotiable if negotiation is allowed
and the proposal is consistent in itself. -/
def check (p : Policy) (o : OpenObject) : Verdict :=
  if p.keepalive.contains o.keepalive && p.deadTimer.contains o.deadTimer then
    .acceptable
  else if p.allowNegotiation && consistent o then
    .negotiable
  else
    .notNegotiable

/-- The values proposed instead: both are moved into their range, and the dead timer is raised to
the keepalive interval as far as its range allows. -/
def counterProposal (p : Policy) (o : OpenObject) (sessionId : UInt8) : OpenObject :=
  let keepalive := p.keepalive.clamp o.keepalive
  let deadTimer := max (p.deadTimer.clamp o.deadTimer) (min keepalive p.deadTimer.high)
  OpenObject.propose keepalive deadTimer sessionId

end Policy

/-- Everything a session needs from configuration. -/
structure Settings where
  connectTimeout : Millis := 60000
  openWait : Millis := 60000
  keepWait : Millis := 60000
  maxConnectRetries : UInt32 := 5
  /-- seconds, proposed in our OPEN and used for our keepalive timer -/
  keepalive : UInt8 := 30
  /-- seconds, proposed in our OPEN -/
  deadTimer : UInt8 := 120
  policy : Policy := {}
  deriving DecidableEq, Repr

end PathSession
