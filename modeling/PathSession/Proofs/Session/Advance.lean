import PathSession.Proofs.Session.Bargain
import PathSession.Proofs.Session.Outcome

/-!
# What moves a negotiation on

Five things do: the transport comes up, our side accepts or counters the peer's offer, and the peer
accepts or counters ours.  Every other event leaves a session where it is or ends it, and a session
that is not up says nothing then that could be taken for an offer or a counter proposal.

* `Advance`: the five moves, with what they say and lead to;
* `Session.advance?`: the move that an event makes, read off the session and the event;
* `Session.advances_handle`: it is made;
* `Session.stays_handle`: every other event leaves the negotiation alone;
* `Session.handle_acceptable_offer`, `Session.handle_refused_offer`,
  `Session.handle_refused_proposal`: what a proposal of the peer is answered with.
-/

namespace PathSession

/-! ### The five moves -/

/-- What moves a negotiation on. -/
inductive Advance
  /-- the transport comes up, and our offer is made -/
  | greets
  /-- the peer's offer is accepted -/
  | grants (offer : OpenObject)
  /-- the peer's offer is answered with a counter proposal -/
  | counters (offer : OpenObject)
  /-- the peer accepts our offer -/
  | assented
  /-- the peer's counter proposal is taken over, and offered -/
  | adopts (proposal : OpenObject)
  deriving DecidableEq, Repr

namespace Advance

/-- The terms after a move. -/
def terms (k : Terms) : Advance → Terms
  | greets | counters _ | assented => k
  | grants o => k.grant o
  | adopts o => k.revise o

/-- The flags after a move. -/
def standing (f : Standing) : Advance → Standing
  | greets => { f with state := .openWait, connected := true }
  | grants _ => { f with
      remoteOk := true
      state := if f.localOk then .sessionUp else .keepWait }
  | counters _ => { f with
      openRetries := f.openRetries + 1
      state := if f.localOk then .openWait else .keepWait }
  | assented => { f with
      localOk := true
      state := if f.remoteOk then .sessionUp else .openWait }
  | adopts _ => { f with state := if f.remoteOk then .keepWait else .openWait }

/-- What a move says to the peer. -/
def said (k : Terms) : Advance → List Message
  | greets => [k.offer.message]
  | grants _ => [keepaliveMessage]
  | counters o => [k.party.counterMessage o]
  | assented => []
  | adopts o => [(k.revise o).offer.message]

/-- When a move can be made. -/
def Permitted (k : Terms) (f : Standing) : Advance → Prop
  | greets => f.state = .tcpPending
  | grants o => f.state = .openWait ∧ k.check o = .acceptable
  | counters o => f.state = .openWait ∧ k.check o = .negotiable ∧ f.openRetries = 0
  | assented => f.state = .keepWait
  | adopts o => f.state = .keepWait ∧ k.check o = .acceptable

theorem Permitted.not_up {k : Terms} {f : Standing} {a : Advance} (h : a.Permitted k f) :
    f.state ≠ .sessionUp := by
  intro hup
  cases a <;> simp [Permitted, hup] at h

end Advance

/-- The move that an event makes. -/
def Session.advance? (s : Session) : SessionEvent → Option Advance
  | .transportUp => if s.state = .tcpPending then some .greets else none
  | .network m =>
    match s.state, m.content with
    | .openWait, .ok (.opening o) =>
      match s.terms.check o with
      | .acceptable => some (.grants o)
      | .negotiable => if s.openRetries = 0 then some (.counters o) else none
      | .notNegotiable => none
    | .keepWait, .ok .keepalive => some .assented
    | .keepWait, .ok (.error e proposal) =>
      (Turn.adoptable s.settings.policy e proposal).map .adopts
    | _, _ => none
  | _ => none

/-- The events that make a move, and when they do. -/
inductive Session.Makes (s : Session) : SessionEvent → Advance → Prop
  | greets (hs : s.state = .tcpPending) : Makes s .transportUp .greets
  | grants {m : Message} {o : OpenObject} (hs : s.state = .openWait)
      (hm : m.content = .ok (.opening o)) (hv : s.terms.check o = .acceptable) :
      Makes s (.network m) (.grants o)
  | counters {m : Message} {o : OpenObject} (hs : s.state = .openWait)
      (hm : m.content = .ok (.opening o)) (hv : s.terms.check o = .negotiable)
      (h0 : s.openRetries = 0) : Makes s (.network m) (.counters o)
  | assented {m : Message} (hs : s.state = .keepWait) (hm : m.content = .ok .keepalive) :
      Makes s (.network m) .assented
  | adopts {m : Message} {e : ErrorObject} {proposal : Option OpenObject} {o : OpenObject}
      (hs : s.state = .keepWait) (hm : m.content = .ok (.error e proposal))
      (ho : Turn.adoptable s.settings.policy e proposal = some o) :
      Makes s (.network m) (.adopts o)

/-- A session waits for the peer's OPEN or for its answer. -/
def Session.Waits (s : Session) : Prop := s.state = .openWait ∨ s.state = .keepWait

/-- Whether content is an error about characteristics that are unacceptable but negotiable. -/
def Content.isCounter : Content → Bool
  | .error e _ => e.is .negotiable
  | _ => false

/-- Whether a message has such content. -/
def Message.isCounter (m : Message) : Bool :=
  match m.content with
  | .ok c => c.isCounter
  | .error _ => false

/-- The error that an offer is refused with. -/
def Verdict.refusal : Verdict → EstablishmentError
  | notNegotiable => .notNegotiable
  | acceptable | negotiable => .secondOpenUnacceptable

/-- A turn that does not move the negotiation on.  Being up, a session may hand on any ERROR. -/
inductive Stays (s : Session) (e : SessionEvent) (t : Turn) : Prop
  | rests (h : Rests s e t) (hwaits : s.Waits → ∀ m, e ≠ .network m)
  | ends (h : Ends s t)
      (huncountered : s.state ≠ .sessionUp → ∀ m ∈ Action.sent t.actions, m.isCounter = false)

/-- Waiting for the peer, a session that does not move on at a message is closed by it. -/
theorem Stays.closed {s : Session} {m : Message} {t : Turn} (h : Stays s (.network m) t)
    (hw : s.Waits) : t.session.closed = true := by
  cases h with
  | rests _ hwaits => exact absurd rfl (hwaits hw m)
  | ends hend _ => exact hend.closed

/-- Before it comes up, a turn that moves on says what belongs to the move. -/
theorem Advances.sent_untilUp {s : Session} {t : Turn} {k : Terms} {f : Standing}
    {said : List Message} (h : Advances s t k f said) :
    Action.sent (Action.untilUp t.actions) = said := by
  obtain ⟨later, hspoken, hlater, -⟩ := h.spoken
  by_cases hup : f.state = .sessionUp
  · exact hspoken.early (decide_eq_true hup)
  · have hnot : .established ∉ t.actions := by simp [hspoken.established, hup]
    rw [Action.untilUp_eq_self hnot, hspoken.sent_eq, hlater hup, List.append_nil]

/-! ### Messages that are not counter proposals -/

namespace Message

variable {m : Message}

theorem isCounter_of_content {c : Content} (h : m.content = .ok c) :
    m.isCounter = c.isCounter := by
  rw [isCounter, h]

theorem isCounter_establishment (e : EstablishmentError) :
    ((ErrorObject.establishment e).message none).isCounter = decide (e = .negotiable) := by
  rw [isCounter_of_content (ErrorObject.content_message _ none nofun)]
  cases e <;> rfl

theorem isCounter_closeCause (c : CloseCause) : c.message.isCounter = false :=
  isCounter_of_content c.content_message

theorem isCounter_offer (k : Terms) : k.offer.message.isCounter = false :=
  isCounter_of_content k.content_offer

theorem isCounter_keepalive : keepaliveMessage.isCounter = false :=
  isCounter_of_content content_keepaliveMessage

theorem isCounter_counterMessage (p : Party) (o : OpenObject) :
    (p.counterMessage o).isCounter = true :=
  isCounter_of_content (p.content_counterMessage o)

end Message

namespace Turn

variable {t : Turn} {m : Message}

/-! ### Messages that are in place -/

theorem fromNetwork_of_openWait (hs : t.session.state = .openWait) :
    t.fromNetwork m = t.inOpenWait m := by
  rw [fromNetwork, hs]

theorem fromNetwork_of_keepWait (hs : t.session.state = .keepWait) :
    t.fromNetwork m = t.inKeepWait m := by
  rw [fromNetwork, hs]

theorem fromNetwork_of_sessionUp (hs : t.session.state = .sessionUp) :
    t.fromNetwork m = t.inSessionUp m := by
  rw [fromNetwork, hs]

theorem inOpenWait_of_opening {o : OpenObject} (hm : m.content = .ok (.opening o)) :
    t.inOpenWait m = t.consider o := by
  simp [inOpenWait, Message.kind_of_content hm, Content.kind, hm]

theorem inKeepWait_of_keepalive (hm : m.content = .ok .keepalive) :
    t.inKeepWait m = t.accepted := by
  simp [inKeepWait, Message.kind_of_content hm, Content.kind, hm]

section Error

variable {e : ErrorObject} {proposal : Option OpenObject}
variable (hm : m.content = .ok (.error e proposal))
include hm

theorem inKeepWait_of_adoptable {o : OpenObject}
    (ho : adoptable t.session.settings.policy e proposal = some o) :
    t.inKeepWait m = t.adopt o := by
  simp [inKeepWait, Message.kind_of_content hm, Content.kind, hm, ho]

theorem inKeepWait_of_not_adoptable
    (ho : adoptable t.session.settings.policy e proposal = none) :
    t.inKeepWait m =
      (t.note (.rejected e)).refuse .unacceptableProposal .negotiationFailed := by
  simp [inKeepWait, Message.kind_of_content hm, Content.kind, hm, ho]

end Error

theorem consider_of_acceptable {o : OpenObject} (hv : t.session.terms.check o = .acceptable) :
    t.consider o = t.accept o := by
  rw [consider, show t.session.settings.policy.check o = .acceptable from hv]

theorem consider_of_first {o : OpenObject} (hv : t.session.terms.check o = .negotiable)
    (h0 : t.session.openRetries = 0) : t.consider o = t.counter o := by
  rw [consider, show t.session.settings.policy.check o = .negotiable from hv]
  exact if_pos h0

/-- An offer is refused if it can not be negotiated, or not again. -/
theorem consider_of_refused {o : OpenObject} (hv : t.session.terms.check o ≠ .acceptable)
    (hretried : t.session.terms.check o = .negotiable → t.session.openRetries ≠ 0) :
    ∃ n, t.consider o =
      (t.note n).refuse (t.session.terms.check o).refusal .negotiationFailed := by
  rw [consider, show t.session.settings.policy.check o = t.session.terms.check o from rfl]
  cases hcheck : t.session.terms.check o with
  | acceptable => exact absurd hcheck hv
  | negotiable => exact ⟨_, if_neg (hretried hcheck)⟩
  | notNegotiable => exact ⟨_, rfl⟩

/-! ### Messages that are out of place -/

theorem isCounter_complaint (state : State) :
    ∀ m ∈ Action.sent (complaint state), m.isCounter = false := by
  intro m hm
  cases state with
  | idle | tcpPending => cases hm
  | openWait | keepWait =>
    rw [List.mem_singleton.mp hm]
    exact Message.isCounter_establishment .invalidOpen
  | sessionUp =>
    rw [List.mem_singleton.mp hm]
    exact Message.isCounter_closeCause .malformedMessage

/-- A turn that breaks off, for malformed input or a message out of place. -/
def BreaksOff (t t' : Turn) : Prop :=
  ∃ u : Turn, u.session = t.session ∧ u.actions = t.actions ∧
    (t' = u.formatError ∨ t' = u.close .protocolSequence)

theorem breaksOff_inOpenWait (hm : ∀ o, m.content ≠ .ok (.opening o)) :
    t.BreaksOff (t.inOpenWait m) := by
  unfold inOpenWait
  split
  · exact ⟨t.note _, rfl, rfl, .inl rfl⟩
  · split
    · exact ⟨t.note _, rfl, rfl, .inl rfl⟩
    · rename_i o ho
      exact absurd ho (hm o)
    · exact ⟨t, rfl, rfl, .inl rfl⟩
  · exact ⟨t.note _, rfl, rfl, .inr rfl⟩

theorem breaksOff_inKeepWait (hm : m.content ≠ .ok .keepalive)
    (hm' : ∀ e proposal, m.content ≠ .ok (.error e proposal)) : t.BreaksOff (t.inKeepWait m) := by
  unfold inKeepWait
  split
  · exact ⟨t.note _, rfl, rfl, .inl rfl⟩
  · split
    · split
      · exact ⟨t.note _, rfl, rfl, .inl rfl⟩
      · rename_i hk
        exact absurd hk hm
      · rename_i e proposal he
        exact absurd he (hm' e proposal)
      · exact ⟨t, rfl, rfl, .inr rfl⟩
    · exact ⟨t.note _, rfl, rfl, .inr rfl⟩

section Silent

variable (ha : t.actions = [])
include ha

theorem BreaksOff.stays {t' : Turn} {e : SessionEvent} (h : t.BreaksOff t') :
    Stays t.session e t' := by
  obtain ⟨u, hu, hactions, rfl | rfl⟩ := h
  · refine .ends (hu ▸ ends_formatError (hactions.trans ha)) fun _ m hm => ?_
    refine isCounter_complaint t.session.state m ?_
    simpa [hactions, ha, hu] using hm
  · refine .ends (hu ▸ ends_close_silent (hactions.trans ha) _) fun _ m hm => ?_
    simp [hactions, ha] at hm

theorem stays_refuse (n : Note) {x : EstablishmentError} (hx : x ≠ .negotiable)
    (e : SessionEvent) (reason : CloseReason) :
    Stays t.session e ((t.note n).refuse x reason) := by
  refine .ends (ends_refuse (t := t.note n) ha x reason) fun _ m hm => ?_
  obtain rfl : m = (ErrorObject.establishment x).message none := by simpa [ha] using hm
  rw [Message.isCounter_establishment, decide_eq_false hx]

theorem stays_of_refused (e : SessionEvent) {o : OpenObject}
    (hv : t.session.terms.check o ≠ .acceptable)
    (hretried : t.session.terms.check o = .negotiable → t.session.openRetries ≠ 0) :
    Stays t.session e (t.consider o) := by
  obtain ⟨n, hn⟩ := consider_of_refused hv hretried
  rw [hn]
  refine stays_refuse ha n ?_ e _
  cases t.session.terms.check o <;> decide

end Silent

end Turn

namespace Session

variable {s : Session} {e : SessionEvent} {m : Message}

theorem handle_eq_take (hc : s.closed = false) (n : TimerToken) :
    s.handle n e = (Turn.start s n).take e := by
  simp [handle, hc]

theorem handle_openWait (h : s.Phase) (hs : s.state = .openWait) (n : TimerToken) (m : Message) :
    s.handle n (.network m) = (Turn.start s n).inOpenWait m := by
  rw [handle_eq_take (h.of_openWait hs).1.still, Turn.take, Turn.fromNetwork_of_openWait hs]

theorem handle_keepWait (h : s.Phase) (hs : s.state = .keepWait) (n : TimerToken) (m : Message) :
    s.handle n (.network m) = (Turn.start s n).inKeepWait m := by
  rw [handle_eq_take (h.of_keepWait hs).1.still, Turn.take, Turn.fromNetwork_of_keepWait hs]

theorem handle_sessionUp (h : s.Phase) (hs : s.state = .sessionUp) (n : TimerToken) (m : Message) :
    s.handle n (.network m) = (Turn.start s n).inSessionUp m := by
  rw [handle_eq_take (h.still_of_up hs), Turn.take, Turn.fromNetwork_of_sessionUp hs]

/-! ### Which event makes which move -/

theorem advance?_transportUp (hs : s.state = .tcpPending) :
    s.advance? .transportUp = some .greets := if_pos hs

theorem advance?_acceptable (hs : s.state = .openWait) {o : OpenObject}
    (hm : m.content = .ok (.opening o)) (hv : s.terms.check o = .acceptable) :
    s.advance? (.network m) = some (.grants o) := by
  simp [advance?, hs, hm, hv]

theorem advance?_keepalive (hs : s.state = .keepWait) (hm : m.content = .ok .keepalive) :
    s.advance? (.network m) = some .assented := by
  simp [advance?, hs, hm]

theorem advance?_error (hs : s.state = .keepWait) {x : ErrorObject}
    {proposal : Option OpenObject} (hm : m.content = .ok (.error x proposal)) :
    s.advance? (.network m) =
      (Turn.adoptable s.settings.policy x proposal).map .adopts := by
  simp [advance?, hs, hm]

theorem makes_of_advance? {a : Advance} (h : s.advance? e = some a) : s.Makes e a := by
  cases e with
  | transportUp =>
    obtain ⟨hs, heq⟩ := Option.ite_none_right_eq_some.mp h
    cases heq
    exact .greets hs
  | network m =>
    simp only [advance?] at h
    split at h
    · rename_i hs hm
      split at h
      · rename_i hv
        cases h
        exact .grants hs hm hv
      · rename_i hv
        obtain ⟨h0, heq⟩ := Option.ite_none_right_eq_some.mp h
        cases heq
        exact .counters hs hm hv h0
      · cases h
    · rename_i hs hm
      cases h
      exact .assented hs hm
    · rename_i hs hm
      obtain ⟨o, ho, rfl⟩ := Option.map_eq_some_iff.mp h
      exact .adopts hs hm ho
    · cases h
  | _ => cases h

/-- Only a session that is not closed makes a move. -/
theorem Makes.still {a : Advance} (h : s.Makes e a) (hphase : s.Phase) : s.closed = false := by
  cases h with
  | greets hs => exact (hphase.of_tcpPending hs).1.still
  | grants hs _ _ | counters hs _ _ _ => exact (hphase.of_openWait hs).1.still
  | assented hs _ | adopts hs _ _ => exact (hphase.of_keepWait hs).1.still

theorem Makes.permitted {a : Advance} (h : s.Makes e a) : a.Permitted s.terms s.standing := by
  cases h with
  | greets hs => exact hs
  | grants hs hm hv => exact ⟨hs, hv⟩
  | counters hs hm hv h0 => exact ⟨hs, hv, h0⟩
  | assented hs hm => exact hs
  | adopts hs hm ho => exact ⟨hs, (Turn.adoptable_eq_some ho).2⟩

/-- **Moves are made.**  A session that is told of an event which moves its negotiation on makes the
move, and says what belongs to it. -/
theorem advances_handle (h : s.Phase) (hc : s.closed = false) {a : Advance}
    (ha : s.advance? e = some a) (n : TimerToken) :
    Advances s (s.handle n e) (a.terms s.terms) (a.standing s.standing) (a.said s.terms) := by
  cases makes_of_advance? ha with
  | greets hs =>
    rw [handle_eq_take hc]
    exact Turn.advances_transportUp (t := .start s n) rfl hc hs
  | @grants m o hs hm hv =>
    rw [handle_openWait h hs, Turn.inOpenWait_of_opening hm,
      Turn.consider_of_acceptable (t := .start s n) hv]
    exact Turn.advances_accept (t := .start s n) rfl (h.of_openWait hs).1 o
  | @counters m o hs hm hv h0 =>
    rw [handle_openWait h hs, Turn.inOpenWait_of_opening hm,
      Turn.consider_of_first (t := .start s n) hv h0]
    exact Turn.advances_counter (t := .start s n) rfl (h.of_openWait hs).1 o
  | assented hs hm =>
    rw [handle_keepWait h hs, Turn.inKeepWait_of_keepalive hm]
    exact Turn.advances_accepted (t := .start s n) rfl (h.of_keepWait hs).1
  | @adopts m e proposal o hs hm ho =>
    rw [handle_keepWait h hs, Turn.inKeepWait_of_adoptable (t := .start s n) hm ho]
    exact Turn.advances_adopt (t := .start s n) rfl (h.of_keepWait hs).1 o

/-! ### Staying -/

/-- Nothing but an offer or a proposal of the peer is refused for our characteristics. -/
theorem Parts.uncountered {reason : CloseReason} {said : List Message} (h : s.Parts e reason said)
    (he : ∀ m, e ≠ .network m) : ∀ m ∈ said, m.isCounter = false := by
  intro m hm
  cases h with
  | malformed m' | outOfOrder _ m' | negotiationFailed _ m' | peerClosed _ m' =>
    exact absurd rfl (he m')
  | connectRetriesExhausted | transportFailure => cases hm
  | unframeable => exact Turn.isCounter_complaint s.state m hm
  | openWaitExpired =>
    rw [List.mem_singleton.mp hm]
    exact Message.isCounter_establishment .openWaitExpired
  | keepWaitExpired =>
    rw [List.mem_singleton.mp hm]
    exact Message.isCounter_establishment .keepWaitExpired
  | deadTimerExpired =>
    rw [List.mem_singleton.mp hm]
    exact Message.isCounter_closeCause .deadTimerExpired
  | localClose =>
    split at hm
    · rw [List.mem_singleton.mp hm]
      exact Message.isCounter_closeCause .noExplanation
    · cases hm

theorem stays_of_ends (h : s.Phase) (hc : s.closed = false) (he : ∀ m, e ≠ .network m)
    {n : TimerToken} (hend : Ends s (s.handle n e)) : Stays s e (s.handle n e) := by
  refine .ends hend fun _ => ?_
  obtain ⟨reason, said, hp, hfinished⟩ := (outcome_handle h hc n e).finished hend.closed
  obtain ⟨before, hactions, hsaid, -⟩ := hfinished.actions
  rw [hactions, Action.sent_append, hsaid, Action.sent_close, Action.sent_nil, List.append_nil]
  exact hp.uncountered he

theorem stays_network (h : s.Phase) (hc : s.closed = false)
    (hnone : s.advance? (.network m) = none) (n : TimerToken) :
    Stays s (.network m) (s.handle n (.network m)) := by
  cases hs : s.state with
  | idle => exact absurd hs (h.state_ne_idle hc)
  | tcpPending =>
    rw [handle_eq_take hc, Turn.take, Turn.fromNetwork,
      show (Turn.start s n).session.state = _ from hs]
    exact .rests (Turn.rests_quiet rfl rfl rfl rfl List.not_mem_nil rfl) fun hw => by
      simp [Waits, hs] at hw
  | sessionUp =>
    rw [handle_sessionUp h hs]
    rcases Turn.inSessionUp_cases (t := .start s n) rfl m with hrest | ⟨hend, -⟩
    · exact .rests hrest fun hw => by simp [Waits, hs] at hw
    · exact .ends hend fun hne => absurd hs hne
  | openWait =>
    rw [handle_openWait h hs]
    by_cases hm : ∃ o, m.content = .ok (.opening o)
    · obtain ⟨o, hm⟩ := hm
      rw [Turn.inOpenWait_of_opening hm]
      simp only [advance?, hs, hm] at hnone
      refine Turn.stays_of_refused (t := .start s n) rfl _ (fun hv => ?_) fun hv h0 => ?_
      · simp [show s.terms.check o = .acceptable from hv] at hnone
      · simp [show s.terms.check o = .negotiable from hv,
          show s.openRetries = 0 from h0] at hnone
    · exact (Turn.breaksOff_inOpenWait (t := .start s n) fun o ho => hm ⟨o, ho⟩).stays rfl
  | keepWait =>
    rw [handle_keepWait h hs]
    by_cases hk : m.content = .ok .keepalive
    · simp [advance?, hs, hk] at hnone
    · by_cases hm : ∃ e proposal, m.content = .ok (.error e proposal)
      · obtain ⟨e, proposal, hm⟩ := hm
        simp only [advance?, hs, hm, Option.map_eq_none_iff] at hnone
        rw [Turn.inKeepWait_of_not_adoptable (t := .start s n) hm hnone]
        exact Turn.stays_refuse (t := .start s n) rfl _ (by decide) _ _
      · exact (Turn.breaksOff_inKeepWait (t := .start s n) hk fun e proposal he =>
          hm ⟨e, proposal, he⟩).stays rfl

/-- **Nothing else is a move.**  Told of any other event, a session stays where it is or ends. -/
theorem stays_handle (h : s.Phase) (hnone : s.advance? e = none) (n : TimerToken) :
    Stays s e (s.handle n e) := by
  cases hc : s.closed with
  | true =>
    rw [handle, if_pos hc]
    refine .rests (Turn.rests_quiet rfl rfl rfl rfl List.not_mem_nil rfl) ?_
    rintro (hs | hs)
    · exact absurd hc (by simp [(h.of_openWait hs).1.still])
    · exact absurd hc (by simp [(h.of_keepWait hs).1.still])
  | false =>
    have hambient (he : e.Ambient) (hnet : ∀ m, e ≠ .network m) : Stays s e (s.handle n e) := by
      have hcases := Turn.take_stays (t := .start s n) rfl h he fun heq hs => ?_
      · rw [← handle_eq_take hc] at hcases
        rcases hcases with hrest | hend
        · exact .rests hrest fun _ => hnet
        · exact stays_of_ends h hc hnet hend
      · simp [heq, advance?, show s.state = .tcpPending from hs] at hnone
    cases e with
    | network m => exact stays_network h hc hnone n
    | framingFailed =>
      rw [handle_eq_take hc]
      exact Turn.BreaksOff.stays (t := .start s n) rfl ⟨(Turn.start s n).note _, rfl, rfl, .inl rfl⟩
    | fromLocal m =>
      rw [handle_eq_take hc]
      exact .rests (Turn.rests_fromLocal (t := .start s n) rfl m) fun _ m' hm => by cases hm
    | _ => exact hambient trivial fun m hm => by cases hm

/-- An acceptable offer is answered with KEEPALIVE, and its values are kept. -/
theorem handle_acceptable_offer (h : s.Phase) (hs : s.state = .openWait) {o : OpenObject}
    (hm : m.content = .ok (.opening o)) (hv : s.terms.check o = .acceptable) (n : TimerToken) :
    Action.sent (Action.untilUp (s.handle n (.network m)).actions) = [keepaliveMessage] ∧
      (s.handle n (.network m)).session.closed = false ∧
      (s.handle n (.network m)).session.remoteOk = true ∧
      (s.handle n (.network m)).session.peerKeepalive = o.keepalive ∧
      (s.handle n (.network m)).session.peerDeadTimer = o.deadTimer := by
  have hadvances :=
    advances_handle h (h.of_openWait hs).1.still (advance?_acceptable hs hm hv) n
  exact ⟨hadvances.sent_untilUp, hadvances.still, congrArg Standing.remoteOk hadvances.standing,
    congrArg Terms.peerKeepalive hadvances.terms, congrArg Terms.peerDeadTimer hadvances.terms⟩

/-- An offer that can not be agreed on is reported, and ends the session. -/
theorem handle_refused_offer (h : s.Phase) (hs : s.state = .openWait) {o : OpenObject}
    (hm : m.content = .ok (.opening o)) (hv : s.terms.check o ≠ .acceptable)
    (hretried : s.terms.check o = .negotiable → s.openRetries ≠ 0) (n : TimerToken) :
    (s.handle n (.network m)).session = s.ended ∧
      (s.handle n (.network m)).actions =
        .send ((ErrorObject.establishment (s.terms.check o).refusal).message none)
          :: Turn.cancellations s ++ [.close .negotiationFailed] := by
  obtain ⟨note, hturn⟩ := Turn.consider_of_refused (t := .start s n) hv hretried
  rw [handle_openWait h hs, Turn.inOpenWait_of_opening hm, hturn, Turn.session_refuse,
    Turn.actions_refuse]
  exact ⟨rfl, rfl⟩

/-- So is a proposal that is not taken over. -/
theorem handle_refused_proposal (h : s.Phase) (hs : s.state = .keepWait) {x : ErrorObject}
    {proposal : Option OpenObject} (hm : m.content = .ok (.error x proposal))
    (ho : Turn.adoptable s.settings.policy x proposal = none) (n : TimerToken) :
    (s.handle n (.network m)).session = s.ended ∧
      (s.handle n (.network m)).actions =
        .send ((ErrorObject.establishment .unacceptableProposal).message none)
          :: Turn.cancellations s ++ [.close .negotiationFailed] := by
  rw [handle_keepWait h hs, Turn.inKeepWait_of_not_adoptable (t := .start s n) hm ho,
    Turn.session_refuse, Turn.actions_refuse]
  exact ⟨rfl, rfl⟩

end Session

end PathSession
