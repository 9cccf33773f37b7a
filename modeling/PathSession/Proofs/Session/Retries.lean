import PathSession.Proofs.Session.History

/-!
# How often characteristics are retried

Our side gives the peer one chance to correct its offer, counted by `openRetries`, and honours it:
an offer of the values that were proposed is accepted, and any unacceptable one is refused.  What
the peer proposes in place of our offer is counted nowhere.  Until its own offer is accepted it can
do so once, because a second proposal finds the session waiting for an OPEN; afterwards each
acceptable proposal is taken over, and the wait for an answer begins anew.

* `Session.countered_once`: our counter proposal;
* `Session.adopted_once_until_granted`: the counter proposals of the peer.
-/

namespace PathSession

theorem Turn.adoptable_eq_none_iff {p : Policy} {x : ErrorObject} {proposal : Option OpenObject}
    (hx : x.is .negotiable = true) :
    Turn.adoptable p x proposal = none ↔ ∀ o ∈ proposal, p.check o ≠ .acceptable := by
  simp [Turn.adoptable, Option.filter_eq_none_iff, hx]

namespace Session

variable {p : Party} {initiator : Bool} {s : Session} {actions : List Action}
variable {moves : List Advance}

/-- **One counter proposal, and it is honoured.**  Before it comes up, a session with an ordered
policy sends at most one ERROR for unacceptable but negotiable characteristics.  The proposal in it
is one that the session accepts itself.  Later it answers an OPEN of these values with KEEPALIVE and
keeps them, and any unacceptable OPEN with an ERROR, and closes. -/
theorem countered_once (hp : p.settings.policy.Ordered)
    (h : History p initiator s actions moves) :
    let counters := (Action.sent (Action.untilUp actions)).filter Message.isCounter
    counters.length ≤ 1 ∧
      ∀ c ∈ counters, ∃ q, c.content = .ok (.error (.establishment .negotiable) (some q)) ∧
        p.settings.policy.check q = .acceptable ∧
        ∀ n m o, s.state = .openWait → m.content = .ok (.opening o) →
          let t := s.handle n (.network m)
          (o.keepalive = q.keepalive → o.deadTimer = q.deadTimer →
            Action.sent (Action.untilUp t.actions) = [keepaliveMessage] ∧
              t.session.closed = false ∧ t.session.remoteOk = true ∧
              t.session.peerKeepalive = q.keepalive ∧ t.session.peerDeadTimer = q.deadTimer) ∧
          (p.settings.policy.check o ≠ .acceptable →
            t.actions = .send ((ErrorObject.establishment
                (if p.settings.policy.check o = .negotiable then .secondOpenUnacceptable
                  else .notNegotiable)).message none)
              :: Turn.cancellations s ++ [.close .negotiationFailed] ∧
              t.session.closed = true) := by
  intro counters
  obtain ⟨said, f, hrecorded⟩ := h.recorded
  have htally := hrecorded.negotiates.tally
  have hcounters : counters = (Advance.countered moves).map p.counterMessage := hrecorded.counters
  have hlength : counters.length = f.openRetries := by
    rw [hcounters, List.length_map, htally.retries]
  refine ⟨hlength ▸ htally.retries_le, fun c hc => ?_⟩
  -- some offer was countered, and the policy accepts what was proposed instead
  have hretried : f.openRetries ≠ 0 := by
    rw [← hlength]
    exact Nat.ne_of_gt (List.length_pos_of_mem hc)
  rw [hcounters] at hc
  obtain ⟨offer, -, rfl⟩ := List.mem_map.mp hc
  have hq : p.settings.policy.check (p.counterTo offer) = .acceptable :=
    Policy.check_counterProposal hp offer p.sessionId
  refine ⟨p.counterTo offer, p.content_counterMessage offer, hq, fun n m o hs hm => ⟨?_, ?_⟩⟩
  · intro hkeepalive hdead
    have hv : s.terms.check o = .acceptable := by
      rw [h.check_eq, Policy.check_congr hkeepalive hdead, hq]
    have hanswer := handle_acceptable_offer h.phase hs hm hv n
    rwa [hkeepalive, hdead] at hanswer
  · intro hv
    have hretries : s.openRetries = f.openRetries :=
      congrArg Standing.openRetries (hrecorded.standing (h.phase.of_openWait hs).1.still)
    obtain ⟨hsession, hactions⟩ := handle_refused_offer h.phase hs hm (by rwa [h.check_eq])
      (fun _ => by rwa [hretries]) n
    refine ⟨?_, by rw [hsession]; rfl⟩
    rw [hactions, h.check_eq]
    cases hcheck : p.settings.policy.check o with
    | acceptable => exact absurd hcheck hv
    | negotiable | notNegotiable => rfl

/-- A peer whose offer was countered, and who has accepted ours, offers the proposed values under
another number, or else its first ones again. -/
theorem countered_once_answered :
    let p : Party :=
      { peer := .v4 ⟨10, 0, 0, 1⟩ 4189, role := .server, sessionId := 7
        settings := { policy := { keepalive := ⟨10, 60⟩, deadTimer := ⟨40, 240⟩ } } }
    let offer := OpenObject.propose 5 20 1
    let corrected : OpenObject :=
      { version := protocolVersion, flags := 3, keepalive := 10, deadTimer := 40, sessionId := 99 }
    let opened := (p.session false).start 1
    let countered := opened.session.handle 2 (.network offer.message)
    let agreed := countered.session.handle 3 (.network keepaliveMessage)
    p.settings.policy.Ordered ∧ agreed.session.state = .openWait ∧
      p.counterMessage offer ∈ Action.sent countered.actions ∧
      Action.sent (Action.untilUp
        (agreed.session.handle 4 (.network corrected.message)).actions) = [keepaliveMessage] ∧
      (agreed.session.handle 4 (.network corrected.message)).session.peerDeadTimer = 40 ∧
      .send ((ErrorObject.establishment .secondOpenUnacceptable).message none) ∈
        (agreed.session.handle 4 (.network offer.message)).actions := by
  intro p offer corrected opened countered agreed
  have hordered : p.settings.policy.Ordered := by decide
  have hs : agreed.session.state = .openWait := by decide +kernel
  have hsent : p.counterMessage offer ∈ Action.sent countered.actions := by decide +kernel
  have hcounters : p.counterMessage offer ∈ (Action.sent (Action.untilUp
      (opened.actions ++ countered.actions ++ agreed.actions))).filter Message.isCounter := by
    decide +kernel
  obtain ⟨-, hchance⟩ := countered_once hordered
    (((@History.start p false 1).handle 2 (.network offer.message)).handle 3
      (.network keepaliveMessage))
  obtain ⟨q, hq, -, hanswers⟩ := hchance _ hcounters
  rw [p.content_counterMessage offer] at hq
  cases hq
  obtain ⟨hcorrected, -⟩ := hanswers 4 corrected.message corrected hs
    (OpenObject.content_message rfl (by decide))
  obtain ⟨-, hrefused⟩ := hanswers 4 offer.message offer hs (OpenObject.content_propose ..)
  obtain ⟨hkeepalive, -, -, -, hdead⟩ := hcorrected (by decide) (by decide)
  obtain ⟨hactions, -⟩ := hrefused (by decide)
  refine ⟨hordered, hs, hsent, hkeepalive, hdead.trans (by decide), ?_⟩
  rw [hactions]
  exact List.mem_cons_self

/-- An ERROR for negotiable characteristics is fatal to a session that waits for an OPEN, and to one
that waits for an answer if it carries no proposal that the session accepts. -/
theorem closed_of_counter_iff (h : History p initiator s actions moves) {m : Message}
    {x : ErrorObject} {proposal : Option OpenObject} (hw : s.Waits)
    (hm : m.content = .ok (.error x proposal)) (hx : x.is .negotiable = true) (n : TimerToken) :
    ((s.handle n (.network m)).session.closed = true ↔
        s.state = .openWait ∨ ∀ o ∈ proposal, p.settings.policy.check o ≠ .acceptable) ∧
      (s.state = .keepWait → (s.handle n (.network m)).session.closed = true →
        (s.handle n (.network m)).actions =
          .send ((ErrorObject.establishment .unacceptableProposal).message none)
            :: Turn.cancellations s ++ [.close .negotiationFailed]) := by
  rcases hw with hs | hs
  · have hnone : s.advance? (.network m) = none := by simp [advance?, hs, hm]
    have hclosed := (stays_handle h.phase hnone n).closed (.inl hs)
    exact ⟨iff_of_true hclosed (.inl hs), by simp [hs]⟩
  · have hpolicy : s.settings.policy = p.settings.policy :=
      congrArg (fun p => p.settings.policy) h.party
    rw [← Turn.adoptable_eq_none_iff hx, ← hpolicy]
    cases ho : Turn.adoptable s.settings.policy x proposal with
    | none =>
      obtain ⟨hsession, hactions⟩ := handle_refused_proposal h.phase hs hm ho n
      have hclosed : (s.handle n (.network m)).session.closed = true := by
        rw [hsession]
        rfl
      exact ⟨iff_of_true hclosed (.inr rfl), fun _ _ => hactions⟩
    | some o =>
      have hadvance : s.advance? (.network m) = some (.adopts o) := by
        rw [advance?_error hs hm, ho]
        rfl
      have hstill : (s.handle n (.network m)).session.closed = false :=
        (advances_handle h.phase (h.phase.of_keepWait hs).1.still hadvance n).still
      exact ⟨iff_of_false (by simp [hstill]) (by simp [hs]), by simp [hstill]⟩

/-- Once its own offer is accepted, a peer may have any number of proposals taken over. -/
theorem exists_adopted (hp : p.settings.policy.Ordered) (initiator : Bool) (count : Nat) :
    ∃ s actions moves, History p initiator s actions moves ∧ s.state = .keepWait ∧
      s.remoteOk = true ∧ (Advance.adopted moves).length = count := by
  -- what we would propose ourselves is acceptable, as an offer and as a counter proposal
  let q := p.counterTo p.proposal
  have hq : p.settings.policy.check q = .acceptable :=
    Policy.check_counterProposal hp p.proposal p.sessionId
  induction count with
  | zero =>
    obtain ⟨s, actions, h, -, hstanding⟩ :=
      exists_granted p initiator (o := q) (OpenObject.content_propose ..) hq
    exact ⟨s, actions, _, h, congrArg Standing.state hstanding,
      congrArg Standing.remoteOk hstanding, rfl⟩
  | succ count ih =>
    obtain ⟨s, actions, moves, h, hs, hr, hcount⟩ := ih
    have hpolicy : s.settings.policy = p.settings.policy :=
      congrArg (fun p => p.settings.policy) h.party
    have hadvance : s.advance? (.network (p.counterMessage p.proposal)) = some (.adopts q) := by
      have hadoptable : Turn.adoptable p.settings.policy (.establishment .negotiable) (some q)
          = some q := by
        simp [Turn.adoptable, hq]
        rfl
      rw [advance?_error hs (p.content_counterMessage p.proposal), hpolicy]
      exact congrArg (Option.map Advance.adopts) hadoptable
    obtain ⟨h', -, hstanding⟩ := h.advance hadvance 0
    have hafter : (s.handle 0 (.network (p.counterMessage p.proposal))).session.standing
        = s.standing := by
      rw [hstanding]
      simp [Advance.standing, Session.standing, hs, hr]
    refine ⟨_, _, _, h', (congrArg Standing.state hafter).trans hs,
      (congrArg Standing.remoteOk hafter).trans hr, ?_⟩
    rw [Advance.adopted_append_singleton, List.length_append, hcount]
    rfl

/-- **One retry until the peer's offer is accepted, and no bound afterwards.**  The OPENs that a
session sends are its own proposal and the counter proposals it has taken over.  Before it accepts
an offer these are two at most, and an ERROR for negotiable characteristics is fatal to a session
that waits unless it waits for an answer and accepts the proposal in it.  Every such proposal is
taken over, so that under an ordered policy any number of OPENs may be sent while the session still
waits. -/
theorem adopted_once_until_granted (p : Party) (initiator : Bool) :
    (∀ s actions moves, History p initiator s actions moves →
      (Action.sent actions).filter Message.isOffer =
          (if s.connected then p.offers (Advance.adopted moves) else []) ∧
        (Advance.granted moves = [] →
          (Advance.adopted moves).length ≤ 1 ∧
            ((Action.sent actions).filter Message.isOffer).length ≤ 2) ∧
        ∀ n m x proposal, s.Waits → m.content = .ok (.error x proposal) →
          x.is .negotiable = true →
          let t := s.handle n (.network m)
          (t.session.closed = true ↔
            s.state = .openWait ∨ ∀ o ∈ proposal, p.settings.policy.check o ≠ .acceptable) ∧
          (s.state = .keepWait → t.session.closed = true →
            t.actions = .send ((ErrorObject.establishment .unacceptableProposal).message none)
              :: Turn.cancellations s ++ [.close .negotiationFailed])) ∧
      (p.settings.policy.Ordered → ∀ count, ∃ s actions moves,
        History p initiator s actions moves ∧ s.state = .keepWait ∧
          ((Action.sent actions).filter Message.isOffer).length = count + 1) := by
  constructor
  · intro s actions moves h
    obtain ⟨said, f, hrecorded⟩ := h.recorded
    have htally := hrecorded.negotiates.tally
    refine ⟨hrecorded.offers, fun hnone => ?_, fun n m x proposal hw hm hx =>
      closed_of_counter_iff h hw hm hx n⟩
    have hadopted := htally.adopted_le (htally.remoteOk_eq_false hnone)
    refine ⟨hadopted, ?_⟩
    rw [hrecorded.offers]
    split
    · simpa [Party.offers] using hadopted
    · exact Nat.zero_le 2
  · intro hp count
    obtain ⟨s, actions, moves, h, hs, -, hcount⟩ := exists_adopted hp initiator count
    obtain ⟨said, f, hrecorded⟩ := h.recorded
    refine ⟨s, actions, moves, h, hs, ?_⟩
    rw [hrecorded.offers, if_pos (h.phase.of_keepWait hs).1.connected]
    simp [Party.offers, hcount]

/-- A peer that proposes other values twice is sent three OPENs, and is refused once it proposes
none. -/
theorem adopted_once_until_granted_thrice :
    let p : Party :=
      { peer := .v4 ⟨10, 0, 0, 1⟩ 4189, role := .server, sessionId := 7, settings := {} }
    let propose (o : OpenObject) : SessionEvent :=
      .network ((ErrorObject.establishment .negotiable).message (some o))
    let first := OpenObject.propose 20 80 1
    let second := OpenObject.propose 40 160 1
    let opened := (p.session false).start 1
    let granted := opened.session.handle 2 (.network (OpenObject.propose 30 120 1).message)
    let adopted := granted.session.handle 3 (propose first)
    let again := adopted.session.handle 4 (propose second)
    again.session.state = .keepWait ∧
      (Action.sent (opened.actions ++ granted.actions ++ adopted.actions
        ++ again.actions)).filter Message.isOffer = p.offers [first, second] ∧
      (again.session.handle 5 (.network ((ErrorObject.establishment .negotiable).message
        none))).session.closed = true := by
  intro p propose first second opened granted adopted again
  have hs : again.session.state = .keepWait := by decide +kernel
  obtain ⟨hruns, -⟩ := adopted_once_until_granted p false
  obtain ⟨hoffers, -, hfatal⟩ := hruns _ _ _
    ((((@History.start p false 1).handle 2
      (.network (OpenObject.propose 30 120 1).message)).handle 3 (propose first)).handle 4
        (propose second))
  obtain ⟨hclosed, -⟩ := hfatal 5 _ (.establishment .negotiable) none (.inr hs)
    (ErrorObject.content_message _ none nofun) rfl
  refine ⟨hs, hoffers.trans ?_, hclosed.mpr (.inr nofun)⟩
  decide +kernel

end Session

end PathSession
