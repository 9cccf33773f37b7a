import Mathlib.Data.List.Infix
import PathSession.Proofs.Session.Moves
import PathSession.Proofs.Wire.Content

/-!
# How far a side has got in a negotiation

A negotiation is made of offers (OPEN), assents (KEEPALIVE) and counter proposals (ERROR with an
OPEN attached).  `Progress` lists the points that a side can be at; each tells what the side has
said and heard so far, in order.  Two sides over wires that are first in first out can only be at
points that meet, and what follows from that is settled by going through all pairs of points.

* `Mark`, `Message.mark`: what a message does in a negotiation;
* `Progress`, `Progress.said`, `Progress.heard`: the points and their histories;
* `Progress.Meets`: what one side has heard the other has said;
* `Progress.heard_prefix`, `Progress.grantedAt_eq`, `Progress.next_heard`, ...: the pairs.
-/

namespace PathSession

/-- What a message does in a negotiation. -/
inductive Mark
  | offer
  | assent
  | counter
  | other
  deriving DecidableEq, Repr

/-- The part that a content plays in a negotiation. -/
def Content.mark : Content → Mark
  | opening _ => .offer
  | keepalive => .assent
  | error _ (some _) => .counter
  | error _ none => .other
  | close _ => .other
  | data _ => .other

/-- The part that a message plays in a negotiation; a malformed one plays none. -/
def Message.mark (m : Message) : Mark :=
  match m.content with
  | .ok c => c.mark
  | .error _ => .other

namespace Message

variable {m : Message}

theorem mark_of_content {c : Content} (h : m.content = .ok c) : m.mark = c.mark := by
  simp only [mark, h]

/-- A message that plays a part in a negotiation can be read. -/
theorem mark_eq_iff {mark : Mark} (h : mark ≠ .other) :
    m.mark = mark ↔ ∃ c, m.content = .ok c ∧ c.mark = mark := by
  constructor
  · intro hm
    unfold Message.mark at hm
    split at hm
    · rename_i c hc
      exact ⟨c, hc, hm⟩
    · exact absurd hm.symm h
  · rintro ⟨c, hc, hm⟩
    rw [mark_of_content hc, hm]

theorem mark_eq_offer : m.mark = .offer ↔ ∃ o, m.content = .ok (.opening o) := by
  rw [mark_eq_iff (by decide)]
  constructor
  · rintro ⟨c, hc, hm⟩
    cases c with
    | opening o => exact ⟨o, hc⟩
    | error e p => cases p <;> cases hm
    | keepalive | close | data => cases hm
  · rintro ⟨o, hm⟩
    exact ⟨_, hm, rfl⟩

theorem mark_eq_assent : m.mark = .assent ↔ m.content = .ok .keepalive := by
  rw [mark_eq_iff (by decide)]
  constructor
  · rintro ⟨c, hc, hm⟩
    cases c with
    | keepalive => exact hc
    | error e p => cases p <;> cases hm
    | opening | close | data => cases hm
  · intro hm
    exact ⟨_, hm, rfl⟩

theorem mark_eq_counter : m.mark = .counter ↔ ∃ e o, m.content = .ok (.error e (some o)) := by
  rw [mark_eq_iff (by decide)]
  constructor
  · rintro ⟨c, hc, hm⟩
    cases c with
    | error e p =>
      cases p with
      | some o => exact ⟨e, o, hc⟩
      | none => cases hm
    | keepalive | opening | close | data => cases hm
  · rintro ⟨e, o, hm⟩
    exact ⟨_, hm, rfl⟩

/-- Only an OPEN message is an offer, so the assents and counter proposals are none. -/
theorem kind_ne_opening_of_mark (h : m.mark = .assent ∨ m.mark = .counter) :
    m.kind? ≠ some .opening := by
  obtain ⟨c, hc, hk⟩ : ∃ c, m.content = .ok c ∧ c.kind ≠ .opening := by
    rcases h with h | h
    · exact ⟨_, mark_eq_assent.mp h, by decide⟩
    · obtain ⟨e, o, h⟩ := mark_eq_counter.mp h
      exact ⟨_, h, nofun⟩
  have hkind := kind_of_content hc
  intro hopen
  rw [Message.kind, hopen] at hkind
  exact hk (Except.ok.inj hkind).symm

end Message

/-- The points of a negotiation.  A side grants the other's offer, or counters it; its own offer is
revised when the other has countered it. -/
inductive Progress
  | unstarted
  | connecting
  /-- the own offer is made, the other's is awaited -/
  | proposed
  | granting
  | countering
  /-- granted the other's offer, then revised the own one -/
  | grantingRevised
  /-- countered the other's offer, while it granted ours -/
  | counteringGranted
  /-- countered the other's offer, and revised the own one -/
  | counteringRevised
  /-- both offers were revised, and we granted the other's -/
  | settlingRevised
  | up
  /-- up after revising the own offer -/
  | upRevised
  /-- up after countering the other's offer -/
  | upCountering
  /-- up after both -/
  | upBoth
  deriving DecidableEq, Repr

namespace Progress

/-- Every point, in the order of its declaration. -/
def all : List Progress :=
  [unstarted, connecting, proposed, granting, countering, grantingRevised, counteringGranted,
    counteringRevised, settlingRevised, up, upRevised, upCountering, upBoth]

theorem mem_all (σ : Progress) : σ ∈ all := by
  cases σ <;> decide

/-- A statement about every point is settled by going through them. -/
instance (p : Progress → Prop) [DecidablePred p] : Decidable (∀ σ, p σ) :=
  decidable_of_iff (∀ σ ∈ all, p σ) ⟨fun h σ => h σ (mem_all σ), fun h σ _ => h σ⟩

/-- What a side at this point has said. -/
def said : Progress → List Mark
  | unstarted | connecting => []
  | proposed => [.offer]
  | granting | up => [.offer, .assent]
  | countering | counteringGranted => [.offer, .counter]
  | grantingRevised | upRevised => [.offer, .assent, .offer]
  | counteringRevised => [.offer, .counter, .offer]
  | settlingRevised | upBoth => [.offer, .counter, .offer, .assent]
  | upCountering => [.offer, .counter, .assent]

/-- What a side at this point has heard. -/
def heard : Progress → List Mark
  | unstarted | connecting | proposed => []
  | granting | countering => [.offer]
  | up | counteringGranted => [.offer, .assent]
  | grantingRevised | counteringRevised => [.offer, .counter]
  | upRevised => [.offer, .counter, .assent]
  | settlingRevised => [.offer, .counter, .offer]
  | upCountering => [.offer, .assent, .offer]
  | upBoth => [.offer, .counter, .offer, .assent]

/-- Whether there is a transport. -/
def connected : Progress → Bool
  | unstarted | connecting => false
  | _ => true

def isUp : Progress → Bool
  | up | upRevised | upCountering | upBoth => true
  | _ => false

/-- Whether we accepted the other's offer. -/
def grants : Progress → Bool
  | granting | grantingRevised | settlingRevised => true
  | σ => σ.isUp

/-- Whether the other accepted our offer. -/
def granted : Progress → Bool
  | counteringGranted => true
  | σ => σ.isUp

/-- Whether we countered the other's first offer. -/
def counters : Progress → Bool
  | countering | counteringGranted | counteringRevised | settlingRevised | upCountering
  | upBoth => true
  | _ => false

/-- Whether our offer was countered and we revised it. -/
def revises : Progress → Bool
  | grantingRevised | counteringRevised | settlingRevised | upRevised | upBoth => true
  | _ => false

/-- Where in what was said our latest offer is. -/
def openAt (σ : Progress) : Nat := if σ.revises then 2 else 0

/-- Where in what was heard the offer is that we accept. -/
def grantedAt (σ : Progress) : Nat := if σ.counters then 2 else 0

/-- The state of a session at this point. -/
def state : Progress → State
  | unstarted => .idle
  | connecting => .tcpPending
  | proposed | counteringGranted | counteringRevised => .openWait
  | granting | countering | grantingRevised | settlingRevised => .keepWait
  | up | upRevised | upCountering | upBoth => .sessionUp

/-! ### The moves -/

/-- The point after accepting an offer. -/
def grant : Progress → Progress
  | proposed => granting
  | counteringGranted => upCountering
  | counteringRevised => settlingRevised
  | σ => σ

/-- The point after countering an offer. -/
def counter : Progress → Progress
  | proposed => countering
  | σ => σ

/-- The point after our offer was accepted. -/
def assented : Progress → Progress
  | granting => up
  | countering => counteringGranted
  | grantingRevised => upRevised
  | settlingRevised => upBoth
  | σ => σ

/-- The point after taking over a counter proposal. -/
def revise : Progress → Progress
  | granting => grantingRevised
  | countering => counteringRevised
  | σ => σ

/-! ### Two sides -/

/-- What the one has heard the other has said, or else the other is up and has gone on to say what
belongs to no negotiation. -/
def Meets (σ τ : Progress) : Prop :=
  σ.heard <+: τ.said ∨ τ.isUp = true ∧ τ.said <+: σ.heard

instance (σ τ : Progress) : Decidable (σ.Meets τ) :=
  inferInstanceAs (Decidable (_ ∨ _))

variable {σ τ : Progress}

/-- Nothing that was said after coming up is heard as part of the negotiation. -/
theorem heard_prefix (h : σ.Meets τ) (h' : τ.Meets σ) : σ.heard <+: τ.said := by
  revert σ τ
  decide

/-- The offer that we accept is the other's latest one. -/
theorem grantedAt_eq (h : σ.Meets τ) (h' : τ.Meets σ) (hg : σ.grants = true) :
    σ.grantedAt = τ.openAt := by
  revert σ τ
  decide

theorem connected_of_grants (h : σ.Meets τ) (h' : τ.Meets σ) (hg : σ.grants = true) :
    τ.connected = true := by
  revert σ τ
  decide

theorem connected_of_granted (hg : σ.granted = true) : σ.connected = true := by
  revert σ
  decide

theorem connected_of_revises (hr : σ.revises = true) : σ.connected = true := by
  revert σ
  decide

/-- A session comes up with both offers accepted. -/
theorem grants_of_isUp (h : σ.isUp = true) : σ.grants = true ∧ σ.granted = true := by
  revert σ
  decide

/-- Before its start a session is idle, and never again until it closes. -/
theorem eq_unstarted (h : σ.state = .idle) : σ = .unstarted := by
  revert σ
  decide

theorem eq_connecting (h : σ.state = .tcpPending) : σ = .connecting := by
  revert σ
  decide

/-- The offer that is waited for is the first one, or the one that follows a counter proposal. -/
theorem length_heard_openWait (h : σ.state = .openWait) :
    σ.counters = false ∧ σ.heard.length = 0 ∨ σ.heard.length = 2 := by
  revert σ
  decide

/-- An offer that counts as accepted was accepted. -/
theorem grants_of_granted (h : σ.Meets τ) (h' : τ.Meets σ) (hg : σ.granted = true) :
    τ.grants = true := by
  revert σ τ
  decide

/-- Whoever has heard all that an up side said in the negotiation is up as well. -/
theorem isUp_of_heard (h : σ.Meets τ) (h' : τ.Meets σ) (hup : τ.isUp = true)
    (hlen : τ.said.length ≤ σ.heard.length) : σ.isUp = true := by
  revert σ τ
  decide

/-- A side that is up has heard the negotiation to its end. -/
theorem heard_eq_of_isUp (h : σ.Meets τ) (h' : τ.Meets σ) (hup : σ.isUp = true) :
    σ.heard = τ.said := by
  revert σ τ
  decide

/-- What is to be heard next while a negotiation goes on. -/
theorem next_heard {c : Mark} (h : σ.Meets τ) (h' : τ.Meets σ) (hup : σ.isUp = false)
    (hnext : σ.heard ++ [c] <+: τ.said) :
    (σ.state = .openWait → c = .offer) ∧ (σ.state = .keepWait → c = .assent ∨ c = .counter) ∧
      (σ.revises = true → σ.state = .keepWait → c = .assent) := by
  cases c <;> revert σ τ <;> decide

/-- Two sides that wait for nothing but each other do not both wait. -/
theorem not_stuck (h : σ.heard = τ.said) (h' : τ.heard = σ.said) (hc : σ.connected = true)
    (hσ : σ.isUp = false) : τ.isUp = true := by
  revert σ τ
  decide

/-- What was said second tells whether the other's offer was countered. -/
theorem counters_of_said (h : σ.said[1]? = some .counter) : σ.counters = true := by
  revert σ
  decide

/-- A second offer is a revised one, and it is the latest. -/
theorem revises_of_said (h : σ.said[2]? = some .offer) : σ.revises = true := by
  revert σ
  decide

/-- No negotiation has messages that play no part in it. -/
theorem other_notMem_heard (σ : Progress) : Mark.other ∉ σ.heard := by
  revert σ
  decide

theorem other_notMem_said (σ : Progress) : Mark.other ∉ σ.said := by
  revert σ
  decide

/-- After the latest offer there is no other. -/
theorem offer_notMem_after (σ : Progress) : Mark.offer ∉ σ.said.drop (σ.openAt + 1) := by
  revert σ
  decide

end Progress

end PathSession
