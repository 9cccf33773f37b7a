import PathSession.Proofs.Session.Phase
import PathSession.Proofs.Session.Talk

/-!
# How a session answers

Every event of a session moves the negotiation on, leaves it where it is, or ends the session.  This
file says which, once for each handler, in the words of the negotiation.

* `Action.untilUp`, `Action.sinceUp`, `Spoken`: what was said before and after coming up;
* `Message.Farewell`: what a session says at its end;
* `Advances`, `Rests`, `Ends`: the three outcomes of a turn;
* `Turn.inOpenWait_cases`, `Turn.inKeepWait_cases`, `Turn.inSessionUp_cases`: received messages;
* `Turn.take_ambient`: every other event.
-/

namespace PathSession

/-! ### What was said -/

namespace Action

/-- The actions asked for before coming up. -/
def untilUp (actions : List Action) : List Action := actions.takeWhile (· ≠ .established)

/-- The actions asked for from coming up on. -/
def sinceUp (actions : List Action) : List Action := actions.dropWhile (· ≠ .established)

variable {as : List Action}

theorem untilUp_of_notMem (h : .established ∉ as) (bs : List Action) :
    untilUp (as ++ bs) = as ++ untilUp bs :=
  List.takeWhile_append_of_pos fun a ha => by
    simp only [ne_eq, decide_not, Bool.not_eq_eq_eq_not, Bool.not_true, decide_eq_false_iff_not]
    rintro rfl
    exact h ha

theorem untilUp_eq_self (h : .established ∉ as) : untilUp as = as := by
  have := untilUp_of_notMem h []
  rwa [List.append_nil, show untilUp [] = [] from rfl, List.append_nil] at this

theorem untilUp_of_mem (h : .established ∈ as) (bs : List Action) :
    untilUp (as ++ bs) = untilUp as := by
  induction as with
  | nil => cases h
  | cons a as ih =>
    simp only [untilUp, List.cons_append, List.takeWhile_cons] at ih ⊢
    by_cases ha : a = .established
    · simp [ha]
    · rw [ih (by simpa [Ne.symm ha] using h)]

@[simp] theorem untilUp_established (bs : List Action) : untilUp (.established :: bs) = [] := rfl

theorem sent_untilUp_sinceUp (as : List Action) :
    sent (untilUp as) ++ sent (sinceUp as) = sent as := by
  rw [← sent_append, untilUp, sinceUp, List.takeWhile_append_dropWhile]

theorem sinceUp_of_notMem (h : .established ∉ as) (bs : List Action) :
    sinceUp (as ++ bs) = sinceUp bs :=
  List.dropWhile_append_of_pos fun a ha => by
    simp only [ne_eq, decide_not, Bool.not_eq_eq_eq_not, Bool.not_true, decide_eq_false_iff_not]
    rintro rfl
    exact h ha

theorem sinceUp_eq_nil (h : .established ∉ as) : sinceUp as = [] := by
  have := sinceUp_of_notMem h []
  rwa [List.append_nil] at this

theorem sinceUp_of_mem (h : .established ∈ as) (bs : List Action) :
    sinceUp (as ++ bs) = sinceUp as ++ bs := by
  induction as with
  | nil => cases h
  | cons a as ih =>
    simp only [sinceUp, List.cons_append, List.dropWhile_cons] at ih ⊢
    by_cases ha : a = .established
    · simp [ha]
    · rw [if_pos (by simp [ha]), if_pos (by simp [ha])]
      exact ih (by simpa [Ne.symm ha] using h)

@[simp] theorem sinceUp_established (bs : List Action) :
    sinceUp (.established :: bs) = .established :: bs := rfl

@[simp] theorem sent_map_send (ms : List Message) : sent (ms.map send) = ms := by
  induction ms with
  | nil => rfl
  | cons m ms ih => rw [List.map_cons, sent_send, ih]

end Action

/-- Actions that say some messages before coming up, if they come up at all, and others later. -/
structure Spoken (actions : List Action) (up : Bool) (said later : List Message) : Prop where
  established : .established ∈ actions ↔ up = true
  sent_eq : Action.sent actions = said ++ later
  early : up = true → Action.sent (Action.untilUp actions) = said

namespace Spoken

variable {as bs : List Action} {up : Bool} {said said' later : List Message}

theorem nil : Spoken [] false [] [] := ⟨by simp, rfl, nofun⟩

/-- Actions that do not come up say it all before. -/
theorem of_notMem (h : .established ∉ as) : Spoken as false (Action.sent as) [] :=
  ⟨by simp [h], by simp, nofun⟩

/-- Whoever is not up yet may come up. -/
theorem append (h : Spoken as false said []) (h' : Spoken bs up said' later) :
    Spoken (as ++ bs) up (said ++ said') later := by
  have hnot : .established ∉ as := by simp [h.established]
  have hsent : Action.sent as = said := by rw [h.sent_eq, List.append_nil]
  refine ⟨by simp [hnot, h'.established], ?_, fun hup => ?_⟩
  · rw [Action.sent_append, hsent, h'.sent_eq, List.append_assoc]
  · rw [Action.untilUp_of_notMem hnot, Action.sent_append, hsent, h'.early hup]

/-- Whatever is said afterwards is said later. -/
theorem goOn (h : Spoken as up said later) (hb : .established ∉ bs) :
    Spoken (as ++ bs) up said (later ++ Action.sent bs) := by
  refine ⟨by simp [h.established, hb], ?_, fun hup => ?_⟩
  · rw [Action.sent_append, h.sent_eq, List.append_assoc]
  · rw [Action.untilUp_of_mem (h.established.mpr hup), h.early hup]

end Spoken

/-- The messages that only a session at its end sends. -/
def Message.Farewell (m : Message) : Prop :=
  (∃ e, m = (ErrorObject.establishment e).message none) ∨ ∃ c : CloseCause, m = c.message

namespace Message.Farewell

variable {m : Message} (h : m.Farewell)
include h

theorem content : ∃ c, m.content = .ok c ∧ c.mark = .other ∧ c.kind ≠ .opening := by
  rcases h with ⟨e, rfl⟩ | ⟨c, rfl⟩
  · exact ⟨_, ErrorObject.content_message _ none nofun, rfl, nofun⟩
  · exact ⟨_, c.content_message, rfl, nofun⟩

theorem mark_eq : m.mark = .other := by
  obtain ⟨c, hc, hm, -⟩ := h.content
  rw [Message.mark_of_content hc, hm]

theorem kind_ne : m.kind? ≠ some .opening := by
  rcases h with ⟨e, rfl⟩ | ⟨c, rfl⟩
  · exact fun hopen => nomatch hopen
  · exact fun hopen => nomatch hopen

theorem fits {limit : Nat} (hl : 20 ≤ limit) : m.Fits limit := by
  rcases h with ⟨e, rfl⟩ | ⟨c, rfl⟩
  · exact Message.fits_error hl _ _
  · exact Message.fits_closeCause hl c

end Message.Farewell

/-- No role hands on an OPEN. -/
theorem Role.kind_ne_of_forwards {role : Role} {m : Message} (h : role.forwards m = true) :
    m.kind? ≠ some .opening := by
  intro hk
  simp [Role.forwards, Message.kind, hk] at h

/-! ### Outcomes -/

/-- A turn that moves the negotiation on to the given terms and flags and says something for it. -/
structure Advances (s : Session) (t : Turn) (k : Terms) (f : Standing) (said : List Message) :
    Prop where
  terms : t.session.terms = k
  standing : t.session.standing = f
  still : t.session.closed = false
  queue : t.session.outbound ⊆ s.outbound
  /-- local messages that were waiting are sent on coming up -/
  spoken : ∃ later, Spoken t.actions (f.state = .sessionUp) said later ∧
    (f.state ≠ .sessionUp → later = []) ∧ ∀ m ∈ later, m ∈ s.outbound ∧ m.kind? ≠ some .opening

/-- A turn that leaves the negotiation where it is.  Only a session that is up says anything. -/
structure Rests (s : Session) (e : SessionEvent) (t : Turn) : Prop where
  terms : t.session.terms = s.terms
  standing : t.session.standing = s.standing
  still : t.session.closed = s.closed
  queue : ∀ m ∈ t.session.outbound, m ∈ s.outbound ∨ e = .fromLocal m
  established : .established ∉ t.actions
  sent : ∀ m ∈ Action.sent t.actions, s.state = .sessionUp ∧ m.kind? ≠ some .opening ∧
    (m = keepaliveMessage ∨ e = .fromLocal m)

/-- A turn that ends the session. -/
structure Ends (s : Session) (t : Turn) : Prop where
  terms : t.session.terms = s.terms
  connected : t.session.connected = s.connected
  closed : t.session.closed = true
  queue : t.session.outbound = []
  established : .established ∉ t.actions
  farewell : ∀ m ∈ Action.sent t.actions, m.Farewell

theorem Rests.of_eq {s s' : Session} {e : SessionEvent} {t : Turn} (h : Rests s' e t)
    (hk : s'.terms = s.terms) (hf : s'.standing = s.standing) (hc : s'.closed = s.closed)
    (hq : s'.outbound = s.outbound) : Rests s e t := by
  have hs : s'.state = s.state := congrArg Standing.state hf
  refine ⟨h.terms.trans hk, h.standing.trans hf, h.still.trans hc, ?_, h.established, ?_⟩
  · rw [← hq]
    exact h.queue
  · rw [← hs]
    exact h.sent

/-- Only the terms and the transport of a session matter at its end. -/
theorem Ends.of_eq {s s' : Session} {t : Turn} (h : Ends s' t) (hk : s'.terms = s.terms)
    (hc : s'.connected = s.connected) : Ends s t :=
  ⟨h.terms.trans hk, h.connected.trans hc, h.closed, h.queue, h.established, h.farewell⟩

namespace Turn

variable {t : Turn}

/-- Closing ends the session, if nothing but farewells was said before. -/
theorem ends_close (he : .established ∉ t.actions)
    (hf : ∀ m ∈ Action.sent t.actions, m.Farewell) (reason : CloseReason) :
    Ends t.session (t.close reason) := by
  constructor
  · rw [session_close]
    rfl
  · rw [session_close]
    rfl
  · rw [session_close]
    rfl
  · rw [session_close]
    rfl
  · simp [he]
  · simpa using hf

theorem ends_close_silent (ha : t.actions = []) (reason : CloseReason) :
    Ends t.session (t.close reason) :=
  ends_close (by simp [ha]) (by simp [ha]) reason

theorem ends_close_message (ha : t.actions = []) (c : CloseCause) (reason : CloseReason) :
    Ends t.session ((t.send c.message).close reason) := by
  refine ends_close (t := t.send c.message) (by simp [ha]) (fun m hm => ?_) reason
  simp only [actions_send, ha, List.nil_append, Action.sent_send, Action.sent_nil,
    List.mem_singleton] at hm
  exact .inr ⟨c, hm⟩

theorem ends_refuse (ha : t.actions = []) (e : EstablishmentError) (reason : CloseReason) :
    Ends t.session (t.refuse e reason) := by
  refine ends_close (t := t.sendError e) (by simp [sendError, ha]) (fun m hm => ?_) reason
  simp only [sendError, actions_send, ha, List.nil_append, Action.sent_send, Action.sent_nil,
    List.mem_singleton] at hm
  exact .inl ⟨e, hm⟩

/-- A refusal is reported. -/
theorem sent_refuse_ne (ha : t.actions = []) (e : EstablishmentError) (reason : CloseReason) :
    Action.sent (t.refuse e reason).actions ≠ [] := by
  simp [ha]

theorem ends_formatError (ha : t.actions = []) : Ends t.session t.formatError := by
  unfold formatError
  cases t.session.state with
  | openWait | keepWait => exact ends_refuse ha .invalidOpen .framingError
  | sessionUp => exact ends_close_message ha .malformedMessage .framingError
  | idle | tcpPending => exact ends_close_silent ha .framingError

/-! ### Staying -/

/-- A turn that changes nothing of the negotiation and says nothing. -/
theorem rests_quiet {s : Session} {e : SessionEvent} (hk : t.session.terms = s.terms)
    (hf : t.session.standing = s.standing) (hc : t.session.closed = s.closed)
    (hq : t.session.outbound = s.outbound) (he : .established ∉ t.actions)
    (hs : Action.sent t.actions = []) : Rests s e t :=
  ⟨hk, hf, hc, fun m hm => .inl (hq ▸ hm), he, by simp [hs]⟩

end Turn

namespace Rests

variable {s : Session} {e : SessionEvent} {t : Turn} (h : Rests s e t)
include h

theorem note (n : Note) : Rests s e (t.note n) :=
  ⟨h.terms, h.standing, h.still, h.queue, h.established, h.sent⟩

theorem routeFromNetwork (m : Message) (kind : MessageKind) :
    Rests s e (t.routeFromNetwork m kind) := by
  have hsent : Action.sent (t.routeFromNetwork m kind).actions = Action.sent t.actions := by
    rw [Turn.actions_routeFromNetwork]
    split <;> simp
  have hsession := t.session_routeFromNetwork m kind
  refine ⟨?_, ?_, ?_, ?_, ?_, ?_⟩
  · rw [hsession, h.terms]
  · rw [hsession, h.standing]
  · rw [hsession, h.still]
  · rw [hsession]
    exact h.queue
  · rw [Turn.actions_routeFromNetwork]
    split <;> simp [h.established]
  · rw [hsent]
    exact h.sent

end Rests

namespace Turn

variable {t : Turn}

/-! ### Moving on -/

section Advances

variable {s : Session}

/-- What waits for the transport or the peer does not come up. -/
theorem advances_of_not_up (hs : t.session.state ≠ .sessionUp) (hc : t.session.closed = false)
    (hq : t.session.outbound ⊆ s.outbound) (he : .established ∉ t.actions) :
    Advances s t t.session.terms t.session.standing (Action.sent t.actions) where
  terms := rfl
  standing := rfl
  still := hc
  queue := hq
  spoken := ⟨[], by
    have : decide (t.session.standing.state = .sessionUp) = false := decide_eq_false hs
    rw [this]
    exact Spoken.of_notMem he, fun _ => rfl, nofun⟩

theorem actions_awaitOpen : t.awaitOpen.actions = t.actions
    ++ Action.cancels .openWait (t.session.timers.get .openWait)
    ++ [.armTimer .openWait t.nextToken t.session.settings.openWait] := by
  simp [awaitOpen]

theorem actions_awaitAnswer : t.awaitAnswer.actions = t.actions
    ++ Action.cancels .keepWait (t.session.timers.get .keepWait)
    ++ [.armTimer .keepWait t.nextToken t.session.settings.keepWait] := by
  simp [awaitAnswer]

section Await

variable {k : Terms} {f : Standing} {said : List Message}
variable (hc : t.session.closed = false) (hq : t.session.outbound ⊆ s.outbound)
variable (he : .established ∉ t.actions) (hk : t.session.terms = k)
variable (hsaid : Action.sent t.actions = said)
include hc hq he hk hsaid

theorem advances_awaitOpen (hf : { t.session.standing with state := .openWait } = f) :
    Advances s t.awaitOpen k f said := by
  have h := advances_of_not_up (t := t.awaitOpen) (s := s) (by simp [awaitOpen])
    (by simpa [awaitOpen] using hc) (by simpa [awaitOpen] using hq)
    (by simpa [actions_awaitOpen] using he)
  have hsent : Action.sent t.awaitOpen.actions = said := by simpa [actions_awaitOpen] using hsaid
  have hsession : t.awaitOpen.session.terms = k ∧ t.awaitOpen.session.standing = f := by
    simp only [awaitOpen, session_enter, session_arm]
    exact ⟨hk, hf⟩
  rwa [hsent, hsession.1, hsession.2] at h

theorem advances_awaitAnswer (hf : { t.session.standing with state := .keepWait } = f) :
    Advances s t.awaitAnswer k f said := by
  have h := advances_of_not_up (t := t.awaitAnswer) (s := s) (by simp [awaitAnswer])
    (by simpa [awaitAnswer] using hc) (by simpa [awaitAnswer] using hq)
    (by simpa [actions_awaitAnswer] using he)
  have hsent : Action.sent t.awaitAnswer.actions = said := by
    simpa [actions_awaitAnswer] using hsaid
  have hsession : t.awaitAnswer.session.terms = k ∧ t.awaitAnswer.session.standing = f := by
    simp only [awaitAnswer, session_enter, session_arm]
    exact ⟨hk, hf⟩
  rwa [hsent, hsession.1, hsession.2] at h

end Await

theorem actions_startKeepalives : ∃ arms, t.startKeepalives.actions = t.actions ++ arms ∧
    Action.sent arms = [] ∧ .established ∉ arms := by
  unfold startKeepalives
  split
  · exact ⟨[], by simp, rfl, by simp⟩
  · simp only
    split
    · exact ⟨_, by rw [actions_arm, List.append_assoc]; rfl, by simp, by simp⟩
    · exact ⟨[], by simp, rfl, by simp⟩

theorem actions_restartDeadTimer : ∃ arms, t.restartDeadTimer.actions = t.actions ++ arms ∧
    Action.sent arms = [] ∧ .established ∉ arms := by
  unfold restartDeadTimer
  split
  · exact ⟨_, by rw [actions_arm, List.append_assoc], by simp, by simp⟩
  · exact ⟨[], by simp, rfl, by simp⟩

theorem sent_restartDeadTimer : Action.sent t.restartDeadTimer.actions = Action.sent t.actions := by
  obtain ⟨arms, harms, hsent, -⟩ := actions_restartDeadTimer (t := t)
  rw [harms, Action.sent_append, hsent, List.append_nil]

/-- Coming up says nothing before, and hands on the queue afterwards. -/
theorem actions_enterUp (h : t.session.keepaliveStarted = false) :
    ∃ arms, t.enterUp.actions = t.actions ++ arms ++ .established ::
        (t.session.outbound.filter t.session.role.forwards).map .send ∧
      Action.sent arms = [] ∧ .established ∉ arms := by
  obtain ⟨arms, ha, hs, he⟩ := actions_startKeepalives (t := t.enter .sessionUp)
  obtain ⟨arms', ha', hs', he'⟩ :=
    actions_restartDeadTimer (t := (t.enter .sessionUp).startKeepalives)
  refine ⟨arms ++ arms', ?_, by simp [hs, hs'], by simp [he, he']⟩
  simp [enterUp, ha, ha', session_restartDeadTimer, session_startKeepalives, h]

theorem advances_enterUp {k : Terms} {f : Standing} {said : List Message}
    (hu : t.session.keepaliveStarted = false) (hc : t.session.closed = false)
    (hq : t.session.outbound ⊆ s.outbound) (he : .established ∉ t.actions)
    (hk : t.session.terms = k) (hsaid : Action.sent t.actions = said)
    (hf : { t.session.standing with state := .sessionUp } = f) :
    Advances s t.enterUp k f said := by
  obtain ⟨timers, hs, -⟩ := session_enterUp hu
  obtain ⟨arms, ha, hsent, hnot⟩ := actions_enterUp hu
  constructor
  · rw [hs]
    exact hk
  · rw [hs]
    exact hf
  · rw [hs]
    exact hc
  · rw [hs]
    exact List.nil_subset _
  · subst hf
    refine ⟨t.session.outbound.filter t.session.role.forwards, ?_, fun hne => absurd rfl hne,
      fun m hm => ?_⟩
    · -- all that belongs to the negotiation comes before, and the queue after
      have hearly : Spoken (t.actions ++ arms) false said [] := by
        have := Spoken.of_notMem (show .established ∉ t.actions ++ arms by simp [he, hnot])
        simpa [hsent, hsaid] using this
      have hlate : Spoken (.established ::
          (t.session.outbound.filter t.session.role.forwards).map .send) true []
          (t.session.outbound.filter t.session.role.forwards) :=
        ⟨by simp, by simp, fun _ => rfl⟩
      have := hearly.append hlate
      rw [ha]
      simpa using this
    · obtain ⟨hm, hf⟩ := List.mem_filter.mp hm
      exact ⟨hq hm, Role.kind_ne_of_forwards hf⟩

end Advances

theorem adoptable_eq_some {p : Policy} {e : ErrorObject} {proposal : Option OpenObject}
    {o : OpenObject} (ho : adoptable p e proposal = some o) :
    proposal = some o ∧ p.check o = .acceptable := by
  obtain ⟨hp, hc⟩ := Option.filter_eq_some_iff.mp ho
  exact ⟨hp, by simpa using (Bool.and_eq_true_iff.mp hc).2⟩

section Handlers

variable (ha : t.actions = [])
include ha

theorem advances_greet (hc : t.session.closed = false) :
    Advances t.session t.greet.awaitOpen t.session.terms
      { t.session.standing with state := .openWait, connected := true }
      [t.session.terms.offer.message] :=
  advances_awaitOpen (t := t.greet) hc (List.Subset.refl _) (by simp [greet, sendOpen, ha]) rfl
    (by simp [greet, sendOpen, ha]; rfl) rfl

theorem advances_transportUp (hc : t.session.closed = false) (hs : t.session.state = .tcpPending) :
    Advances t.session t.transportUp t.session.terms
      { t.session.standing with state := .openWait, connected := true }
      [t.session.terms.offer.message] := by
  rw [transportUp, if_pos hs]
  refine advances_awaitOpen ?_ ?_ ?_ ?_ ?_ ?_
  · simpa [greet, sendOpen] using hc
  · simp [greet, sendOpen]
  · simp [greet, sendOpen, ha]
  · simp [greet, sendOpen, Session.terms, Session.party]
  · simp [greet, sendOpen, ha]
    rfl
  · simp [greet, sendOpen, Session.standing]

theorem advances_accept (h : t.session.Negotiating) (o : OpenObject) :
    Advances t.session (t.accept o) (t.session.terms.grant o)
      { t.session.standing with
        remoteOk := true
        state := if t.session.localOk then .sessionUp else .keepWait }
      [keepaliveMessage] := by
  unfold accept
  by_cases hl : t.session.localOk = true
  · simp only [session_cancel, session_change, session_send, session_note, hl, if_true]
    refine advances_enterUp ?_ ?_ ?_ ?_ ?_ ?_ ?_
    · simpa using h.unstarted
    · simpa using h.still
    · simp
    · simp [ha]
    · simp [Session.terms, Session.party, Terms.grant]
    · simp [ha]
    · simp [Session.standing]
  · simp only [session_cancel, session_change, session_send, session_note, hl]
    refine advances_awaitAnswer ?_ ?_ ?_ ?_ ?_ ?_
    · simpa using h.still
    · simp
    · simp [ha]
    · simp [Session.terms, Session.party, Terms.grant]
    · simp [ha]
    · simp [Session.standing]

theorem advances_counter (h : t.session.Negotiating) (o : OpenObject) :
    Advances t.session (t.counter o) t.session.terms
      { t.session.standing with
        openRetries := t.session.openRetries + 1
        state := if t.session.localOk then .openWait else .keepWait }
      [t.session.party.counterMessage o] := by
  unfold counter
  by_cases hl : t.session.localOk = true
  · simp only [session_change, session_send, session_note, hl, if_true]
    refine advances_awaitOpen ?_ ?_ ?_ ?_ ?_ ?_
    · simpa using h.still
    · simp
    · simp [ha]
    · simp [Session.terms, Session.party]
    · simp [ha]
      rfl
    · simp [Session.standing]
  · simp only [session_change, session_send, session_note, hl]
    refine advances_awaitAnswer ?_ ?_ ?_ ?_ ?_ ?_
    · simpa using h.still
    · simp
    · simp [ha]
    · simp [Session.terms, Session.party]
    · simp [ha]
      rfl
    · simp [Session.standing]

theorem advances_accepted (h : t.session.Negotiating) :
    Advances t.session t.accepted t.session.terms
      { t.session.standing with
        localOk := true
        state := if t.session.remoteOk then .sessionUp else .openWait }
      [] := by
  unfold accepted
  by_cases hr : t.session.remoteOk = true
  · simp only [session_cancel, session_change, hr, if_true]
    refine advances_enterUp ?_ ?_ ?_ ?_ ?_ ?_ ?_
    · simpa using h.unstarted
    · simpa using h.still
    · simp
    · simp [ha]
    · simp [Session.terms, Session.party]
    · simp [ha]
    · simp [Session.standing]
  · simp only [session_cancel, session_change, hr]
    refine advances_awaitOpen ?_ ?_ ?_ ?_ ?_ ?_
    · simpa using h.still
    · simp
    · simp [ha]
    · simp [Session.terms, Session.party]
    · simp [ha]
    · simp [Session.standing]

theorem advances_adopt (h : t.session.Negotiating) (o : OpenObject) :
    Advances t.session (t.adopt o) (t.session.terms.revise o)
      { t.session.standing with state := if t.session.remoteOk then .keepWait else .openWait }
      [(t.session.terms.revise o).offer.message] := by
  unfold adopt
  by_cases hr : t.session.remoteOk = true
  · simp only [sendOpen, session_change, session_send, session_note, hr, if_true]
    refine advances_awaitAnswer ?_ ?_ ?_ ?_ ?_ ?_
    · simpa using h.still
    · simp
    · simp [ha]
    · simp [Session.terms, Session.party, Terms.revise]
    · simp [ha]
      rfl
    · simp [Session.standing]
  · simp only [sendOpen, session_change, session_send, session_note, hr]
    refine advances_awaitOpen ?_ ?_ ?_ ?_ ?_ ?_
    · simpa using h.still
    · simp
    · simp [ha]
    · simp [Session.terms, Session.party, Terms.revise]
    · simp [ha]
      rfl
    · simp [Session.standing]

/-! ### Received messages -/

theorem consider_cases (h : t.session.Phase) (hs : t.session.state = .openWait)
    (o : OpenObject) :
    (t.session.terms.check o = .acceptable ∧ Advances t.session (t.consider o)
        (t.session.terms.grant o)
        { t.session.standing with
          remoteOk := true
          state := if t.session.localOk then .sessionUp else .keepWait }
        [keepaliveMessage]) ∨
      (t.session.terms.check o = .negotiable ∧ t.session.openRetries = 0 ∧
        Advances t.session (t.consider o) t.session.terms
          { t.session.standing with
            openRetries := t.session.openRetries + 1
            state := if t.session.localOk then .openWait else .keepWait }
          [t.session.party.counterMessage o]) ∨
      (Ends t.session (t.consider o) ∧ Action.sent (t.consider o).actions ≠ [] ∧
        (t.session.terms.check o = .notNegotiable ∨
          t.session.terms.check o = .negotiable ∧ t.session.openRetries ≠ 0)) := by
  obtain ⟨hn, -, -⟩ := h.of_openWait hs
  unfold consider
  split
  · rename_i hv
    exact .inl ⟨hv, advances_accept ha hn o⟩
  · rename_i hv
    split
    · rename_i h0
      exact .inr (.inl ⟨hv, h0, advances_counter ha hn o⟩)
    · rename_i h0
      exact .inr (.inr ⟨ends_refuse (t := t.note _) ha _ _, sent_refuse_ne (t := t.note _) ha _ _,
        .inr ⟨hv, h0⟩⟩)
  · rename_i hv
    exact .inr (.inr ⟨ends_refuse (t := t.note _) ha _ _, sent_refuse_ne (t := t.note _) ha _ _,
      .inl hv⟩)

/-- Waiting for an offer, a session considers it or ends. -/
theorem inOpenWait_cases (m : Message) :
    (∃ o, m.content = .ok (.opening o) ∧ t.inOpenWait m = t.consider o) ∨
      (Ends t.session (t.inOpenWait m) ∧ ∀ o, m.content ≠ .ok (.opening o)) := by
  unfold inOpenWait
  split
  · rename_i e he
    refine .inr ⟨ends_formatError (t := t.note _) ha, fun o ho => ?_⟩
    rw [Message.kind_of_content ho] at he
    cases he
  · split
    · rename_i e he
      exact .inr ⟨ends_formatError (t := t.note _) ha, by simp [he]⟩
    · rename_i o ho
      exact .inl ⟨o, ho, rfl⟩
    · rename_i c hne hc
      exact .inr ⟨ends_formatError ha, fun o ho => hne o (Except.ok.inj (hc.symm.trans ho))⟩
  · rename_i kind hne hk
    refine .inr ⟨ends_close_silent (t := t.note _) ha _, fun o ho => ?_⟩
    rw [Message.kind_of_content ho] at hk
    cases hk
    exact hne rfl

/-- Waiting for an answer, a session takes an assent or a counter proposal it likes, or ends. -/
theorem inKeepWait_cases (h : t.session.Phase) (hs : t.session.state = .keepWait) (m : Message) :
    (m.content = .ok .keepalive ∧ Advances t.session (t.inKeepWait m) t.session.terms
        { t.session.standing with
          localOk := true
          state := if t.session.remoteOk then .sessionUp else .openWait }
        []) ∨
      (∃ e o, m.content = .ok (.error e (some o)) ∧ t.session.terms.check o = .acceptable ∧
        Advances t.session (t.inKeepWait m) (t.session.terms.revise o)
          { t.session.standing with state := if t.session.remoteOk then .keepWait else .openWait }
          [(t.session.terms.revise o).offer.message]) ∨
      (Ends t.session (t.inKeepWait m) ∧ m.content ≠ .ok .keepalive ∧
        ∀ e proposal, m.content = .ok (.error e proposal) →
          Action.sent (t.inKeepWait m).actions ≠ [] ∧
            adoptable t.session.settings.policy e proposal = none) := by
  obtain ⟨hn, -, -⟩ := h.of_keepWait hs
  unfold inKeepWait
  split
  · rename_i e he
    refine .inr (.inr ⟨ends_formatError (t := t.note _) ha, fun hm => ?_, fun e' p hm => ?_⟩)
    · rw [Message.kind_of_content hm] at he
      cases he
    · rw [Message.kind_of_content hm] at he
      cases he
  · rename_i kind hk
    split
    · -- the type is KEEPALIVE or ERROR, but the content may still be malformed
      split
      · rename_i e he
        exact .inr (.inr ⟨ends_formatError (t := t.note _) ha, by simp [he], by simp [he]⟩)
      · rename_i hm
        exact .inl ⟨hm, advances_accepted ha hn⟩
      · rename_i e proposal hm
        split
        · rename_i o ho
          obtain ⟨rfl, hc⟩ := adoptable_eq_some ho
          exact .inr (.inl ⟨e, o, hm, hc, advances_adopt ha hn o⟩)
        · rename_i ho
          refine .inr (.inr ⟨ends_refuse (t := t.note _) ha _ _, by simp [hm], fun e' p hm' => ?_⟩)
          rw [hm] at hm'
          cases hm'
          exact ⟨sent_refuse_ne (t := t.note _) ha _ _, ho⟩
      · rename_i c hne hne' hm
        refine .inr (.inr ⟨ends_close_silent ha _, fun hm' => ?_, fun e p hm' => ?_⟩)
        · exact hne (Except.ok.inj (hm.symm.trans hm'))
        · exact absurd (Except.ok.inj (hm.symm.trans hm')) (hne' e p)
    · rename_i hne
      refine .inr (.inr ⟨ends_close_silent (t := t.note _) ha _, fun hm => ?_, fun e p hm => ?_⟩)
      · rw [Message.kind_of_content hm] at hk
        cases hk
        exact hne (.inl rfl)
      · rw [Message.kind_of_content hm] at hk
        cases hk
        exact absurd (.inr rfl) hne

theorem rests_restartDeadTimer (e : SessionEvent) : Rests t.session e t.restartDeadTimer := by
  obtain ⟨arms, harms, hsent, hnot⟩ := actions_restartDeadTimer (t := t)
  refine rests_quiet ?_ ?_ ?_ ?_ ?_ ?_
  · rw [session_restartDeadTimer]
    rfl
  · rw [session_restartDeadTimer]
    rfl
  · rw [session_restartDeadTimer]
  · rw [session_restartDeadTimer]
  · simp [harms, ha, hnot]
  · simp [harms, ha, hsent]

/-- Being up, a session stays so unless it is told to close or can not make sense of a message. -/
theorem inSessionUp_cases (m : Message) :
    Rests t.session (.network m) (t.inSessionUp m) ∨
      (Ends t.session (t.inSessionUp m) ∧ ∀ c, m.content = .ok c → c.kind = .close) := by
  unfold inSessionUp
  split
  · rename_i e he
    exact .inr ⟨ends_formatError (t := t.note _) ha, by simp [he]⟩
  · rename_i c hc
    have hrest := rests_restartDeadTimer ha (.network m)
    simp only
    split
    · exact .inl (hrest.note _)
    · exact .inl (hrest.note _)
    · refine .inr ⟨?_, fun c' hc' => ?_⟩
      · refine (ends_close (t := t.restartDeadTimer.note _) ?_ ?_ _).of_eq hrest.terms
          (congrArg Standing.connected hrest.standing)
        · exact hrest.established
        · intro m' hm'
          rw [actions_note, sent_restartDeadTimer, ha] at hm'
          cases hm'
      · rw [hc] at hc'
        cases hc'
        rfl
    · exact .inl (hrest.routeFromNetwork _ _)
    · exact .inl (hrest.routeFromNetwork _ _)

/-! ### Other events -/

/-- A connect that fails is repeated or ends the session. -/
theorem connectFailed_cases (hs : t.session.state = .tcpPending) (e : SessionEvent) :
    Rests t.session e t.connectFailed ∨ Ends t.session t.connectFailed := by
  unfold connectFailed
  simp only
  split
  · exact .inr ((ends_close_silent (t := (t.change _).note _) ha _).of_eq rfl rfl)
  · refine .inl (rests_quiet ?_ ?_ ?_ ?_ ?_ ?_)
    · simp [Session.terms, Session.party]
    · simp [Session.standing, hs]
    · simp
    · simp
    · simp [ha]
    · simp [ha]

/-- A local message is handed on by a session that is up, and by no other. -/
theorem rests_fromLocal (m : Message) : Rests t.session (.fromLocal m) (t.fromLocal m) := by
  unfold fromLocal
  split
  · rename_i hup
    constructor
    · rw [session_routeFromLocal]
    · rw [session_routeFromLocal]
    · rw [session_routeFromLocal]
    · rw [session_routeFromLocal]
      exact fun m' hm' => .inl hm'
    · rw [actions_routeFromLocal, ha]
      split <;> simp
    · intro m' hm'
      rw [actions_routeFromLocal, ha] at hm'
      split at hm'
      · rename_i hf
        obtain rfl : m' = m := by simpa using hm'
        exact ⟨hup, Role.kind_ne_of_forwards hf, .inr rfl⟩
      · simp at hm'
  · split
    · constructor
      · rfl
      · rfl
      · rfl
      · intro m' hm'
        rcases List.mem_append.mp hm' with hm' | hm'
        · exact .inl hm'
        · rw [List.mem_singleton.mp hm']
          exact .inr rfl
      · simp [ha]
      · simp [ha]
    · exact rests_quiet rfl rfl rfl rfl (by simp [ha]) (by simp [ha])

end Handlers

end Turn

/-- Every event but what comes over the wire; local messages are of a size that fits. -/
def SessionEvent.Ambient : SessionEvent → Prop
  | network _ | framingFailed => False
  | fromLocal m => ∃ kind body, Message.make? kind body = .ok m
  | accepted | connectRequested | transportUp | transportFailed | connectionLost
  | timerExpired _ _ | closeRequested => True

namespace Turn

variable {t : Turn} (ha : t.actions = []) (h : t.session.Phase)
include ha h

theorem expired_cases {kind : TimerKind} {token : TimerToken}
    (hk : t.session.timers.get kind = some token) (e : SessionEvent) :
    let t' := (t.change fun s => { s with timers := s.timers.set kind none }).expire kind
    Rests t.session e t' ∨ Ends t.session t' := by
  intro t'
  -- the connect timer repeats the connect, the keepalive timer goes on, and the others end
  rcases h.state_of_armed (by rw [hk]; rfl) with ⟨rfl, hs⟩ | ⟨rfl, hs⟩ | rfl | rfl | rfl
  · simp only [t', expire, session_note, session_change, hs, if_true]
    have hfail := connectFailed_cases (t := (t.change fun s =>
      { s with timers := s.timers.set .connect none }).note (.expired .tcpPending .connect)) ha hs e
    exact hfail.imp (fun hr => hr.of_eq rfl rfl rfl rfl) fun hend => hend.of_eq rfl rfl
  · refine .inl ⟨?_, ?_, ?_, ?_, ?_, ?_⟩
    · simp [t', expire, Session.terms, Session.party]
    · simp [t', expire, Session.standing]
    · simp [t', expire]
    · simp [t', expire]
      exact fun m hm => .inl hm
    · simp [t', expire, ha]
    · simp [t', expire, ha, hs]
      decide
  · exact .inr ((ends_refuse (t := ((t.change _).note _).note _) ha _ _).of_eq rfl rfl)
  · exact .inr ((ends_refuse (t := ((t.change _).note _).note _) ha _ _).of_eq rfl rfl)
  · exact .inr ((ends_close_message (t := ((t.change _).note _).note _) ha
      .deadTimerExpired _).of_eq rfl rfl)

/-- An event that is not from the peer leaves a session where it is or ends it, unless it is the
transport that was waited for. -/
theorem take_stays {e : SessionEvent} (he : e.Ambient)
    (hne : e = .transportUp → t.session.state ≠ .tcpPending) :
    Rests t.session e (t.take e) ∨ Ends t.session (t.take e) := by
  have hrest : Rests t.session e t := rests_quiet rfl rfl rfl rfl (by simp [ha]) (by simp [ha])
  have hnote : ∀ n, Rests t.session e (t.note n) := fun n =>
    rests_quiet rfl rfl rfl rfl (by simp [ha]) (by simp [ha])
  cases e with
  | network m => cases he
  | framingFailed => cases he
  | accepted => exact .inl (hnote _)
  | connectRequested => exact .inl (hnote _)
  | fromLocal m => exact .inl (rests_fromLocal ha m)
  | transportUp =>
    rw [take, transportUp, if_neg (hne rfl)]
    exact .inl (hnote _)
  | transportFailed =>
    simp only [take]
    split
    · rename_i hs
      exact connectFailed_cases ha hs _
    · exact .inl hrest
  | connectionLost =>
    simp only [take]
    split
    · rename_i hs
      exact connectFailed_cases ha hs _
    · exact .inr (ends_close_silent ha _)
  | timerExpired kind token =>
    simp only [take]
    split
    · rename_i hk
      exact expired_cases ha h hk _
    · exact .inl (hnote _)
  | closeRequested =>
    simp only [take]
    split
    · exact .inr (ends_close_message ha .noExplanation _)
    · exact .inr (ends_close_silent ha _)

/-- Nothing but a transport that comes up moves a negotiation on by itself. -/
theorem take_ambient (hc : t.session.closed = false) {e : SessionEvent} (he : e.Ambient) :
    Rests t.session e (t.take e) ∨ Ends t.session (t.take e) ∨
      (t.session.state = .tcpPending ∧ Advances t.session (t.take e) t.session.terms
        { t.session.standing with state := .openWait, connected := true }
        [t.session.terms.offer.message]) := by
  by_cases hup : e = .transportUp ∧ t.session.state = .tcpPending
  · obtain ⟨rfl, hs⟩ := hup
    exact .inr (.inr ⟨hs, advances_transportUp ha hc hs⟩)
  · exact (take_stays ha h he fun heq hs => hup ⟨heq, hs⟩).imp_right .inl

end Turn

namespace Session

variable {s : Session} (n : TimerToken) (hc : s.closed = false)
include hc

/-- An initiator that starts has said nothing yet. -/
theorem advances_start_initiator (hi : s.initiator = true) :
    Advances s (s.start n) s.terms { s.standing with state := .tcpPending } [] := by
  have hturn : s.start n = (((Turn.start s n).arm .connect s.settings.connectTimeout).act
      .connect).enter .tcpPending := by
    simp [start, hi]
  have h := Turn.advances_of_not_up (s := s) (t := s.start n) (by simp [hturn])
    (by simpa [hturn] using hc) (by simp [hturn]) (by simp [hturn])
  have hsession : (s.start n).session.terms = s.terms ∧
      (s.start n).session.standing = { s.standing with state := .tcpPending } := by
    rw [hturn]
    simp only [Turn.session_enter, Turn.session_act, Turn.session_arm, Turn.session_start]
    exact ⟨rfl, rfl⟩
  have hsent : Action.sent (s.start n).actions = [] := by simp [hturn]
  rwa [hsession.1, hsession.2, hsent] at h

/-- An acceptor that starts makes its offer. -/
theorem advances_start_acceptor (hi : s.initiator = false) :
    Advances s (s.start n) s.terms { s.standing with state := .openWait, connected := true }
      [s.terms.offer.message] := by
  have hturn : s.start n = (Turn.start s n).greet.awaitOpen := by
    simp [start, hi]
  rw [hturn]
  exact Turn.advances_greet (t := Turn.start s n) rfl hc

theorem closed_start : (s.start n).session.closed = false := by
  cases hi : s.initiator with
  | true => exact (advances_start_initiator n hc hi).still
  | false => exact (advances_start_acceptor n hc hi).still

end Session

end PathSession
