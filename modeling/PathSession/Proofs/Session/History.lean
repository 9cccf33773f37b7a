import PathSession.Proofs.Session.Advance

/-!
# What a session has been through

A session that is started and then given any events, in any order and from any peer, has made moves
of its negotiation, and these tell what it has said before it came up, and on which terms and flags
it is.  No two offers of the peer are accepted, and no two are countered, but there is no bound on
the counter proposals that are taken over once the peer's own offer is accepted.

* `Party.Negotiates`: the moves that can follow one another, and what they lead to;
* `Tally`, `Party.Negotiates.tally`: how many moves of each kind there are;
* `Session.History`: a session with the actions it has asked for and the moves it has made;
* `Session.History.recorded`: it has said and become what its moves tell.
-/

namespace PathSession

/-! ### Sequences of moves -/

namespace Advance

/-- The offer of the peer that a move accepts. -/
def granted? : Advance → Option OpenObject
  | grants o => some o
  | _ => none

/-- The offer of the peer that a move counters. -/
def countered? : Advance → Option OpenObject
  | counters o => some o
  | _ => none

/-- The counter proposal of the peer that a move takes over. -/
def adopted? : Advance → Option OpenObject
  | adopts o => some o
  | _ => none

/-- The offers of the peer that moves accept, in order. -/
def granted (moves : List Advance) : List OpenObject := moves.filterMap granted?

/-- The offers of the peer that moves counter, in order. -/
def countered (moves : List Advance) : List OpenObject := moves.filterMap countered?

/-- The counter proposals of the peer that moves take over, in order. -/
def adopted (moves : List Advance) : List OpenObject := moves.filterMap adopted?

variable (moves : List Advance) (a : Advance)

@[simp] theorem granted_append_singleton :
    granted (moves ++ [a]) = granted moves ++ a.granted?.toList := by
  cases a <;> simp [granted, granted?]

@[simp] theorem countered_append_singleton :
    countered (moves ++ [a]) = countered moves ++ a.countered?.toList := by
  cases a <;> simp [countered, countered?]

@[simp] theorem adopted_append_singleton :
    adopted (moves ++ [a]) = adopted moves ++ a.adopted?.toList := by
  cases a <;> simp [adopted, adopted?]

end Advance

namespace Message

/-- Whether a message is an OPEN. -/
def isOffer (m : Message) : Bool := m.kind? = some .opening

theorem isOffer_eq_false {m : Message} (h : m.kind? ≠ some .opening) : m.isOffer = false :=
  decide_eq_false h

@[simp] theorem isOffer_message (o : OpenObject) : o.message.isOffer = true := by
  simp [isOffer, OpenObject.message]

@[simp] theorem isOffer_keepalive : keepaliveMessage.isOffer = false := rfl

@[simp] theorem isOffer_counterMessage (p : Party) (o : OpenObject) :
    (p.counterMessage o).isOffer = false := rfl

end Message

namespace Party

/-- The terms that a party starts from. -/
def terms (p : Party) : Terms :=
  { party := p
    keepalive := p.settings.keepalive
    deadTimer := p.settings.deadTimer
    peerKeepalive := 0
    peerDeadTimer := 0 }

/-- A counter proposal of the peer as a party offers it itself. -/
def restated (p : Party) (o : OpenObject) : OpenObject :=
  .propose o.keepalive o.deadTimer p.sessionId

/-- The offers of a party that has taken over some counter proposals. -/
def offers (p : Party) (proposals : List OpenObject) : List Message :=
  (p.proposal :: proposals.map p.restated).map OpenObject.message

end Party

/-- The flags of a session that waits for its transport. -/
def Standing.connecting : Standing :=
  { state := .tcpPending
    connected := false
    localOk := false
    remoteOk := false
    openRetries := 0 }

/-- The moves that can follow one another from the transport on, with what is said on the way and
the terms and flags that they lead to. -/
inductive Party.Negotiates (p : Party) :
    List Advance → List Message → Terms → Standing → Prop
  | nil : Negotiates p [] [] p.terms .connecting
  | snoc {moves : List Advance} {said : List Message} {k : Terms} {f : Standing}
      (h : Negotiates p moves said k f) (a : Advance) (ha : a.Permitted k f) :
      Negotiates p (moves ++ [a]) (said ++ a.said k) (a.terms k) (a.standing f)

/-- The flags that belong to each state of a negotiation. -/
def Standing.Sound (f : Standing) : Prop :=
  match f.state with
  | .idle => False
  | .tcpPending => f.connected = false ∧ f.localOk = false ∧ f.remoteOk = false
  | .openWait => f.connected = true ∧ f.remoteOk = false
  | .keepWait => f.connected = true ∧ f.localOk = false ∧ (f.remoteOk = false → f.openRetries = 1)
  | .sessionUp => f.connected = true ∧ f.localOk = true ∧ f.remoteOk = true

theorem Standing.Sound.step {k : Terms} {f : Standing} {a : Advance} (h : f.Sound)
    (ha : a.Permitted k f) : (a.standing f).Sound := by
  cases a with
  | greets =>
    simp only [Sound, show f.state = .tcpPending from ha] at h
    exact ⟨rfl, h.2.2⟩
  | grants o =>
    simp only [Sound, ha.1] at h
    by_cases hl : f.localOk = true <;> simp [Sound, Advance.standing, hl, h]
  | counters o =>
    simp only [Sound, ha.1] at h
    by_cases hl : f.localOk = true <;> simp [Sound, Advance.standing, hl, h, ha.2.2]
  | assented =>
    simp only [Sound, show f.state = .keepWait from ha] at h
    by_cases hr : f.remoteOk = true <;> simp [Sound, Advance.standing, hr, h]
  | adopts o =>
    simp only [Sound, ha.1] at h
    by_cases hr : f.remoteOk = true <;> simp [Sound, Advance.standing, hr, h]

/-- How many moves of each kind there are, and what they leave behind. -/
structure Tally (p : Party) (moves : List Advance) (said : List Message) (k : Terms)
    (f : Standing) : Prop where
  party : k.party = p
  flags : f.Sound
  fresh : f.connected = false → moves = [] ∧ said = [] ∧ k = p.terms
  /-- each counter proposal that is taken over is offered once -/
  offers : said.filter Message.isOffer =
    if f.connected then p.offers (Advance.adopted moves) else []
  countered : said.filter Message.isCounter = (Advance.countered moves).map p.counterMessage
  retries : (Advance.countered moves).length = f.openRetries
  retries_le : f.openRetries ≤ 1
  ungranted : f.remoteOk = false → Advance.granted moves = []
  granted : f.remoteOk = true → ∃ o, Advance.granted moves = [o] ∧ k.check o = .acceptable ∧
    k.peerKeepalive = o.keepalive ∧ k.peerDeadTimer = o.deadTimer
  /-- before the peer's offer is accepted, a proposal is taken over only after the offer was
  countered, and the session waits for another one then -/
  unadopted : f.remoteOk = false → f.state = .keepWait ∨ f.openRetries = 0 →
    Advance.adopted moves = []
  adopted_le : f.remoteOk = false → (Advance.adopted moves).length ≤ 1

namespace Tally

variable {p : Party} {moves : List Advance} {said : List Message} {k : Terms} {f : Standing}

theorem start (p : Party) : Tally p [] [] p.terms .connecting where
  party := rfl
  flags := ⟨rfl, rfl, rfl⟩
  fresh _ := ⟨rfl, rfl, rfl⟩
  offers := rfl
  countered := rfl
  retries := rfl
  retries_le := Nat.zero_le 1
  ungranted _ := rfl
  granted := nofun
  unadopted _ _ := rfl
  adopted_le _ := Nat.zero_le 1

variable (h : Tally p moves said k f)
include h

/-- The flag tells whether an offer of the peer is accepted. -/
theorem remoteOk_eq_false (hnone : Advance.granted moves = []) : f.remoteOk = false := by
  by_contra hr
  obtain ⟨o, ho, -⟩ := h.granted (by simpa using hr)
  rw [hnone] at ho
  cases ho

theorem greet (ha : Advance.greets.Permitted k f) :
    Tally p (moves ++ [.greets]) (said ++ [k.offer.message]) k (Advance.greets.standing f) := by
  have hsound := h.flags
  simp only [Standing.Sound, show f.state = .tcpPending from ha] at hsound
  obtain ⟨hcon, -, hr⟩ := hsound
  obtain ⟨rfl, rfl, rfl⟩ := h.fresh hcon
  exact
    { party := rfl
      flags := h.flags.step ha
      fresh := nofun
      offers := rfl
      countered := by simp [Message.isCounter_offer]; rfl
      retries := h.retries
      retries_le := h.retries_le
      ungranted _ := rfl
      granted := fun hr' => by simp [Advance.standing, hr] at hr'
      unadopted _ _ := rfl
      adopted_le _ := Nat.zero_le 1 }

theorem grant {o : OpenObject} (ha : (Advance.grants o).Permitted k f) :
    Tally p (moves ++ [.grants o]) (said ++ [keepaliveMessage]) (k.grant o)
      ((Advance.grants o).standing f) := by
  have hsound := h.flags
  simp only [Standing.Sound, ha.1] at hsound
  obtain ⟨hcon, hr⟩ := hsound
  exact
    { party := h.party
      flags := h.flags.step ha
      fresh := fun hcon' => by simp [Advance.standing, hcon] at hcon'
      offers := by simpa [Advance.adopted?, Advance.standing] using h.offers
      countered := by
        simpa [Advance.countered?, Message.isCounter_keepalive] using h.countered
      retries := by simpa [Advance.countered?, Advance.standing] using h.retries
      retries_le := h.retries_le
      ungranted := nofun
      granted _ := ⟨o, by simp [h.ungranted hr, Advance.granted?], ha.2, rfl, rfl⟩
      unadopted := nofun
      adopted_le := nofun }

theorem counter {o : OpenObject} (ha : (Advance.counters o).Permitted k f) :
    Tally p (moves ++ [.counters o]) (said ++ [k.party.counterMessage o]) k
      ((Advance.counters o).standing f) := by
  have hsound := h.flags
  simp only [Standing.Sound, ha.1] at hsound
  obtain ⟨hcon, hr⟩ := hsound
  have hnone := h.unadopted hr (.inr ha.2.2)
  exact
    { party := h.party
      flags := h.flags.step ha
      fresh := fun hcon' => by simp [Advance.standing, hcon] at hcon'
      offers := by simpa [Advance.adopted?, Advance.standing] using h.offers
      countered := by
        simp [Advance.countered?, Message.isCounter_counterMessage, h.countered, h.party]
      retries := by simp [Advance.countered?, Advance.standing, h.retries]
      retries_le := by simp [Advance.standing, ha.2.2]
      ungranted _ := by simpa [Advance.granted?] using h.ungranted hr
      granted := fun hr' => by simp [Advance.standing, hr] at hr'
      unadopted _ _ := by simpa [Advance.adopted?] using hnone
      adopted_le _ := by simp [Advance.adopted?, hnone] }

theorem assent (ha : Advance.assented.Permitted k f) :
    Tally p (moves ++ [.assented]) (said ++ []) k (Advance.assented.standing f) := by
  have hsound := h.flags
  simp only [Standing.Sound, show f.state = .keepWait from ha] at hsound
  obtain ⟨hcon, -, hcountered⟩ := hsound
  exact
    { party := h.party
      flags := h.flags.step ha
      fresh := fun hcon' => by simp [Advance.standing, hcon] at hcon'
      offers := by simpa [Advance.adopted?, Advance.standing] using h.offers
      countered := by simpa [Advance.countered?] using h.countered
      retries := by simpa [Advance.countered?, Advance.standing] using h.retries
      retries_le := h.retries_le
      ungranted hr := by simpa [Advance.granted?] using h.ungranted hr
      granted hr := by simpa [Advance.granted?] using h.granted hr
      unadopted hr _ := by simpa [Advance.adopted?] using h.unadopted hr (.inl ha)
      adopted_le hr := by simpa [Advance.adopted?] using h.adopted_le hr }

theorem adopt {o : OpenObject} (ha : (Advance.adopts o).Permitted k f) :
    Tally p (moves ++ [.adopts o]) (said ++ [(k.revise o).offer.message]) (k.revise o)
      ((Advance.adopts o).standing f) := by
  have hsound := h.flags
  simp only [Standing.Sound, ha.1] at hsound
  obtain ⟨hcon, -, hcountered⟩ := hsound
  exact
    { party := h.party
      flags := h.flags.step ha
      fresh := fun hcon' => by simp [Advance.standing, hcon] at hcon'
      offers := by
        simp [Advance.adopted?, Advance.standing, hcon, h.offers, Party.offers, Terms.offer,
          Terms.revise, Party.restated, h.party]
      countered := by
        simpa [Advance.countered?, Message.isCounter_offer] using h.countered
      retries := by simpa [Advance.countered?, Advance.standing] using h.retries
      retries_le := h.retries_le
      ungranted hr := by simpa [Advance.granted?] using h.ungranted hr
      granted hr := by
        obtain ⟨o', ho', hv, hvalues⟩ := h.granted hr
        exact ⟨o', by simpa [Advance.granted?] using ho', hv, hvalues⟩
      unadopted hr hcase := by
        -- the peer's offer was countered, and the session waits for another one again
        have hretries : f.openRetries = 1 := hcountered hr
        simp [Advance.standing, show f.remoteOk = false from hr, hretries] at hcase
      adopted_le hr := by simp [Advance.adopted?, h.unadopted hr (.inl ha.1)] }

theorem step {a : Advance} (ha : a.Permitted k f) :
    Tally p (moves ++ [a]) (said ++ a.said k) (a.terms k) (a.standing f) := by
  cases a with
  | greets => exact h.greet ha
  | grants o => exact h.grant ha
  | counters o => exact h.counter ha
  | assented => exact h.assent ha
  | adopts o => exact h.adopt ha

end Tally

theorem Party.Negotiates.tally {p : Party} {moves : List Advance} {said : List Message}
    {k : Terms} {f : Standing} (h : p.Negotiates moves said k f) : Tally p moves said k f := by
  induction h with
  | nil => exact .start p
  | snoc h a ha ih => exact ih.step ha

/-! ### Sessions with their past -/

namespace Session

/-- A session that was started once and then given events, with the actions it has asked for and the
moves it has made, one after the other.  Tokens are shared between sessions, so the next unused one
may be any at each event. -/
inductive History (p : Party) (initiator : Bool) : Session → List Action → List Advance → Prop
  | start (n : TimerToken) :
      History p initiator ((p.session initiator).start n).session
        ((p.session initiator).start n).actions (if initiator then [] else [.greets])
  | handle {s : Session} {actions : List Action} {moves : List Advance}
      (h : History p initiator s actions moves) (n : TimerToken) (e : SessionEvent) :
      History p initiator (s.handle n e).session (actions ++ (s.handle n e).actions)
        (moves ++ (s.advance? e).toList)

/-- A session that has said and become what its moves tell.  Before it comes up it says nothing else
but farewells. -/
structure Recorded (p : Party) (s : Session) (actions : List Action) (moves : List Advance)
    (said : List Message) (f : Standing) : Prop where
  phase : s.Phase
  negotiates : p.Negotiates moves said s.terms f
  connected : s.connected = f.connected
  standing : s.closed = false → s.standing = f
  spoken : ∃ later, Spoken actions (f.state = .sessionUp) said later ∧
    (∀ m ∈ later, m.isOffer = false) ∧
    (f.state ≠ .sessionUp → (s.closed = false → later = []) ∧ ∀ m ∈ later, m.isCounter = false)

namespace Recorded

variable {p : Party} {s : Session} {actions : List Action} {moves : List Advance}
variable {said : List Message} {f : Standing} {e : SessionEvent} {n : TimerToken}

/-- A turn that moves on from where nothing was said yet. -/
theorem of_advances {t : Turn} (hphase : t.session.Phase)
    (hmoves : p.Negotiates moves said p.terms f) (hs : f.state ≠ .sessionUp)
    (h : Advances s t p.terms f said) :
    Recorded p t.session t.actions moves said f where
  phase := hphase
  negotiates := by
    rw [h.terms]
    exact hmoves
  connected := congrArg Standing.connected h.standing
  standing _ := h.standing
  spoken := by
    obtain ⟨later, hspoken, hlater, -⟩ := h.spoken
    obtain rfl := hlater hs
    exact ⟨[], hspoken, nofun, fun _ => ⟨fun _ => rfl, nofun⟩⟩

theorem start (p : Party) (initiator : Bool) (n : TimerToken) :
    ∃ said f, Recorded p ((p.session initiator).start n).session
      ((p.session initiator).start n).actions (if initiator then [] else [.greets]) said f := by
  have hphase := phase_start p.peer p.role initiator p.sessionId p.settings n
  cases initiator with
  | true =>
    exact ⟨_, _, of_advances hphase .nil (by decide) (advances_start_initiator n rfl rfl)⟩
  | false =>
    exact ⟨_, _, of_advances hphase (.snoc .nil .greets rfl) (by simp [Advance.standing])
      (advances_start_acceptor n rfl rfl)⟩

variable (h : Recorded p s actions moves said f)
include h

/-- Whether a session is up is told by its moves, unless it is closed. -/
theorem state_ne_of_ne (hup : f.state ≠ .sessionUp) : s.state ≠ .sessionUp := by
  cases hc : s.closed with
  | true => exact h.phase.not_up_of_closed hc
  | false =>
    rw [← h.standing hc] at hup
    exact hup

theorem advance (hc : s.closed = false) {a : Advance} (ha : s.advance? e = some a)
    (n : TimerToken) :
    Recorded p (s.handle n e).session (actions ++ (s.handle n e).actions) (moves ++ [a])
      (said ++ a.said s.terms) (a.standing f) := by
  have hadvances := advances_handle h.phase hc ha n
  have hpermitted := (makes_of_advance? ha).permitted
  rw [h.standing hc] at hadvances hpermitted
  have hup : f.state ≠ .sessionUp := hpermitted.not_up
  refine ⟨phase_handle h.phase n e, ?_, congrArg Standing.connected hadvances.standing,
    fun _ => hadvances.standing, ?_⟩
  · rw [hadvances.terms]
    exact h.negotiates.snoc a hpermitted
  · obtain ⟨later, hspoken, -, hquiet⟩ := h.spoken
    obtain rfl := (hquiet hup).1 hc
    obtain ⟨later', hspoken', hlater', hqueue⟩ := hadvances.spoken
    rw [decide_eq_false hup] at hspoken
    refine ⟨later', hspoken.append hspoken', fun m hm => ?_, fun hup' => ?_⟩
    · exact Message.isOffer_eq_false (hqueue m hm).2
    · rw [hlater' hup']
      exact ⟨fun _ => rfl, nofun⟩

theorem stay (hnone : s.advance? e = none) (n : TimerToken) :
    Recorded p (s.handle n e).session (actions ++ (s.handle n e).actions) moves said f := by
  have hphase := phase_handle h.phase n e
  obtain ⟨later, hspoken, hoffers, hquiet⟩ := h.spoken
  cases stays_handle h.phase hnone n with
  | rests hrest _ =>
    refine ⟨hphase, ?_, ?_, ?_, _, hspoken.goOn hrest.established, fun m hm => ?_, fun hup => ?_⟩
    · rw [hrest.terms]
      exact h.negotiates
    · exact (congrArg Standing.connected hrest.standing).trans h.connected
    · rw [hrest.still, hrest.standing]
      exact h.standing
    · rcases List.mem_append.mp hm with hm | hm
      · exact hoffers m hm
      · exact Message.isOffer_eq_false (hrest.sent m hm).2.1
    · have hsilent : Action.sent (s.handle n e).actions = [] :=
        List.eq_nil_iff_forall_not_mem.mpr fun m hm =>
          h.state_ne_of_ne hup (hrest.sent m hm).1
      rw [hsilent, List.append_nil, hrest.still]
      exact hquiet hup
  | ends hend huncountered =>
    refine ⟨hphase, ?_, ?_, ?_, _, hspoken.goOn hend.established, fun m hm => ?_, fun hup => ?_⟩
    · rw [hend.terms]
      exact h.negotiates
    · exact hend.connected.trans h.connected
    · rw [hend.closed]
      exact nofun
    · rcases List.mem_append.mp hm with hm | hm
      · exact hoffers m hm
      · exact Message.isOffer_eq_false (hend.farewell m hm).kind_ne
    · refine ⟨by rw [hend.closed]; exact nofun, fun m hm => ?_⟩
      rcases List.mem_append.mp hm with hm | hm
      · exact (hquiet hup).2 m hm
      · exact huncountered (h.state_ne_of_ne hup) m hm

theorem handle (n : TimerToken) (e : SessionEvent) : ∃ said f,
    Recorded p (s.handle n e).session (actions ++ (s.handle n e).actions)
      (moves ++ (s.advance? e).toList) said f := by
  cases ha : s.advance? e with
  | none =>
    rw [Option.toList_none, List.append_nil]
    exact ⟨_, _, h.stay ha n⟩
  | some a =>
    have hc : s.closed = false := (makes_of_advance? ha).still h.phase
    exact ⟨_, _, h.advance hc ha n⟩

/-- The OPENs of a session, first and last, are its own proposal and those it has taken over. -/
theorem offers : (Action.sent actions).filter Message.isOffer =
    if s.connected then p.offers (Advance.adopted moves) else [] := by
  obtain ⟨later, hspoken, hoffers, -⟩ := h.spoken
  have hlater : later.filter Message.isOffer = [] :=
    List.filter_eq_nil_iff.mpr fun m hm => by simp [hoffers m hm]
  rw [hspoken.sent_eq, List.filter_append, hlater, List.append_nil, h.connected]
  exact h.negotiates.tally.offers

/-- Up to coming up, its counter proposals are those to the offers it has countered. -/
theorem counters : (Action.sent (Action.untilUp actions)).filter Message.isCounter =
    (Advance.countered moves).map p.counterMessage := by
  obtain ⟨later, hspoken, -, hquiet⟩ := h.spoken
  rw [← h.negotiates.tally.countered]
  by_cases hup : f.state = .sessionUp
  · rw [hspoken.early (decide_eq_true hup)]
  · have hnot : .established ∉ actions := by simp [hspoken.established, hup]
    have hlater : later.filter Message.isCounter = [] :=
      List.filter_eq_nil_iff.mpr fun m hm => by simp [(hquiet hup).2 m hm]
    rw [Action.untilUp_eq_self hnot, hspoken.sent_eq, List.filter_append, hlater, List.append_nil]

end Recorded

/-- **What a session has been through.**  Its moves follow one another as in a negotiation, and tell
what it has said and become. -/
theorem History.recorded {p : Party} {initiator : Bool} {s : Session} {actions : List Action}
    {moves : List Advance} (h : History p initiator s actions moves) :
    ∃ said f, Recorded p s actions moves said f := by
  induction h with
  | start n => exact Recorded.start p initiator n
  | handle h n e ih =>
    obtain ⟨said, f, hrecorded⟩ := ih
    exact hrecorded.handle n e

namespace History

variable {p : Party} {initiator : Bool} {s : Session} {actions : List Action}
variable {moves : List Advance} (h : History p initiator s actions moves)
include h

theorem phase : s.Phase := by
  obtain ⟨said, f, hrecorded⟩ := h.recorded
  exact hrecorded.phase

theorem party : s.terms.party = p := by
  obtain ⟨said, f, hrecorded⟩ := h.recorded
  exact hrecorded.negotiates.tally.party

theorem check_eq (o : OpenObject) : s.terms.check o = p.settings.policy.check o := by
  rw [Terms.check, h.party]

/-- An event that makes a move brings the session to where the move leads. -/
theorem advance {e : SessionEvent} {a : Advance} (ha : s.advance? e = some a) (n : TimerToken) :
    History p initiator (s.handle n e).session (actions ++ (s.handle n e).actions) (moves ++ [a]) ∧
      (s.handle n e).session.terms = a.terms s.terms ∧
      (s.handle n e).session.standing = a.standing s.standing := by
  have hadvances := advances_handle h.phase ((makes_of_advance? ha).still h.phase) ha n
  have hhistory := h.handle n e
  rw [ha] at hhistory
  exact ⟨hhistory, hadvances.terms, hadvances.standing⟩

end History

/-! ### What can come about -/

section Reaching

variable (p : Party) (initiator : Bool)

/-- Any session may get its transport. -/
theorem exists_greeted : ∃ s actions, History p initiator s actions [.greets] ∧
    s.terms = p.terms ∧ s.standing = Advance.greets.standing .connecting := by
  cases initiator with
  | true =>
    have hstart := advances_start_initiator (s := p.session true) 0 rfl rfl
    have hs : ((p.session true).start 0).session.state = .tcpPending :=
      congrArg Standing.state hstart.standing
    obtain ⟨hhistory, hterms, hstanding⟩ :=
      (@History.start p true 0).advance (advance?_transportUp hs) 1
    refine ⟨_, _, hhistory, hterms.trans hstart.terms, hstanding.trans ?_⟩
    rw [hstart.standing]
    rfl
  | false =>
    have hstart := advances_start_acceptor (s := p.session false) 0 rfl rfl
    exact ⟨_, _, .start 0, hstart.terms, hstart.standing⟩

/-- Any offer that a session accepts may be the first thing it hears. -/
theorem exists_granted {o : OpenObject} (hm : o.message.content = .ok (.opening o))
    (hv : p.settings.policy.check o = .acceptable) :
    ∃ s actions, History p initiator s actions [.greets, .grants o] ∧
      s.terms = p.terms.grant o ∧
      s.standing = { Standing.connecting with
        state := .keepWait, connected := true, remoteOk := true } := by
  obtain ⟨s, actions, hgreeted, hterms, hstanding⟩ := exists_greeted p initiator
  have hs : s.state = .openWait := congrArg Standing.state hstanding
  obtain ⟨hhistory, hterms', hstanding'⟩ :=
    hgreeted.advance (advance?_acceptable hs hm ((hgreeted.check_eq o).trans hv)) 0
  refine ⟨_, _, hhistory, ?_, ?_⟩
  · rw [hterms', hterms]
    rfl
  · rw [hstanding', hstanding]
    rfl

end Reaching

end Session

end PathSession
