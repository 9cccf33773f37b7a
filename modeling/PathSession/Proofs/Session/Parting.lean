import PathSession.Proofs.Session.Advance
import PathSession.Proofs.Session.Runs

/-!
# How a session parts

An event that closes a session has it say a last word, if the cause calls for one, cancel the timers
that are still armed, and close.  Only the CLOSE of a peer restarts the dead timer first, as every
well-formed message does.  This file has that for each handler, and what becomes of messages of
another version or of an unknown type.

* `Message.errorNotice`, `Message.closeNotice`: last words, by the numbers on the wire;
* `Session.goodbyes`: what a session may say at its end, by cause;
* `Session.Departs`: a turn that closes the session, action by action;
* `Session.departs_handle`: every turn that closes the session is one;
* `Party.departs_in_order`: so it is in every run, and no timer is left then;
* `Session.foreign_message_closes`: messages of another version or of an unknown type.
-/

namespace PathSession

/-! ### Last words -/

/-- An ERROR that reports the given type and value, without a proposal. -/
def Message.errorNotice (errorType errorValue : UInt8) : Message :=
  ErrorObject.message { flags := 0, errorType, errorValue } none

/-- A CLOSE that gives the given reason. -/
def Message.closeNotice (reason : UInt8) : Message :=
  .make .close (CloseObject.octets { flags := 0, reason })

namespace Session

/-- What a session may say when it closes, by cause. -/
def goodbyes (s : Session) : CloseReason → List (Option Message)
  | .openWaitExpired => [some (.errorNotice 1 2)]
  | .keepWaitExpired => [some (.errorNotice 1 7)]
  | .deadTimerExpired => [some (.closeNotice 2)]
  | .localClose => [if s.connected then some (.closeNotice 1) else none]
  | .negotiationFailed =>
    if s.state = .openWait then [some (.errorNotice 1 3), some (.errorNotice 1 5)]
    else [some (.errorNotice 1 6)]
  | .framingError =>
    match s.state with
    | .openWait | .keepWait => [some (.errorNotice 1 1)]
    | .sessionUp => [some (.closeNotice 3)]
    | .idle | .tcpPending => [none]
  | .protocolSequence | .peerClosed | .transportFailure | .connectRetriesExhausted => [none]

/-- The restart of the dead timer, if there is one, with the next unused token. -/
def restart (s : Session) (n : TimerToken) : List Action :=
  if 0 < s.peerDeadTimer then
    Action.cancels .deadTimer (s.timers.get .deadTimer) ++
      [.armTimer .deadTimer n (.ofSeconds s.peerDeadTimer.toNat)]
  else
    []

/-- The timers after the restart of the dead timer. -/
def restarted (s : Session) (n : TimerToken) : TimerSlots :=
  if 0 < s.peerDeadTimer then s.timers.set .deadTimer (some n) else s.timers

/-- What is asked for before the last word. -/
def opener (s : Session) (n : TimerToken) : CloseReason → List Action
  | .peerClosed => s.restart n
  | _ => []

/-- The timers that are left to be cancelled when an event closes the session. -/
def leftover (s : Session) (n : TimerToken) (e : SessionEvent) : CloseReason → TimerSlots
  | .peerClosed => s.restarted n
  | _ => s.slotsAt e

/-- A turn that closes a session for some reason, with a last word or without. -/
structure Departs (s : Session) (n : TimerToken) (e : SessionEvent) (reason : CloseReason)
    (goodbye : Option Message) (t : Turn) : Prop where
  cause : s.Parts e reason goodbye.toList
  allowed : goodbye ∈ s.goodbyes reason
  actions : t.actions = s.opener n reason ++ goodbye.toList.map .send ++
    Turn.cancellations { s with timers := s.leftover n e reason } ++ [.close reason]

end Session

/-! ### What is cancelled -/

theorem Action.mem_cancels {kind : TimerKind} {token : Option TimerToken} {a : Action} :
    a ∈ cancels kind token ↔ ∃ token', token = some token' ∧ a = .cancelTimer kind token' := by
  cases token <;> simp [cancels]

theorem Turn.mem_cancellations {s : Session} {a : Action} : a ∈ cancellations s ↔
    ∃ kind token, s.timers.get kind = some token ∧ a = .cancelTimer kind token := by
  simp only [cancellations, List.mem_flatMap, Action.mem_cancels]
  constructor
  · rintro ⟨kind, -, token, h⟩
    exact ⟨kind, token, h⟩
  · rintro ⟨kind, token, h⟩
    exact ⟨kind, by cases kind <;> decide, token, h⟩

/-! ### Handler by handler -/

namespace Turn

open Session

variable {s : Session} {u : Turn} {n : TimerToken} {e : SessionEvent} {reason : CloseReason}

theorem session_restartDeadTimer_start (s : Session) (n : TimerToken) :
    (start s n).restartDeadTimer.session = { s with timers := s.restarted n } :=
  session_restartDeadTimer _

theorem actions_restartDeadTimer_start (s : Session) (n : TimerToken) :
    (start s n).restartDeadTimer.actions = s.restart n := by
  by_cases hd : 0 < s.peerDeadTimer <;> simp [restartDeadTimer, Session.restart, hd]

/-- Closing cancels what is armed. -/
theorem departs_close (hp : s.Parts e reason []) (hg : none ∈ s.goodbyes reason)
    (ha : u.actions = s.opener n reason) (ht : u.session.timers = s.leftover n e reason) :
    s.Departs n e reason none (u.close reason) where
  cause := hp
  allowed := hg
  actions := by
    rw [actions_close, ha, cancellations, ht]
    simp [cancellations]

/-- So it does after a last word. -/
theorem departs_close_send {m : Message} (hp : s.Parts e reason [m])
    (hg : some m ∈ s.goodbyes reason) (ha : u.actions = s.opener n reason)
    (ht : u.session.timers = s.leftover n e reason) :
    s.Departs n e reason (some m) ((u.send m).close reason) where
  cause := hp
  allowed := hg
  actions := by
    rw [actions_close, actions_send, ha, cancellations, session_send, ht]
    simp [cancellations]

/-- Malformed input is complained of where there is somebody to hear it. -/
theorem departs_formatError (ha : u.actions = []) (hstate : u.session.state = s.state)
    (ht : u.session.timers = s.slotsAt e)
    (hp : s.Parts e .framingError (Action.sent (complaint s.state))) :
    ∃ goodbye, s.Departs n e .framingError goodbye u.formatError := by
  unfold formatError
  cases hs : s.state <;> rw [hs] at hstate hp <;> simp only [hstate]
  case idle | tcpPending =>
    refine ⟨_, departs_close hp ?_ ha ht⟩
    rw [goodbyes, hs]
    exact List.mem_singleton_self _
  case openWait | keepWait | sessionUp =>
    refine ⟨_, departs_close_send hp ?_ ha ht⟩
    rw [goodbyes, hs]
    exact List.mem_singleton_self _

/-- A failed connect closes a session that has had too many of them. -/
theorem departs_connectFailed (ha : u.actions = []) (ht : u.session.timers = s.slotsAt e)
    (hp : s.Parts e .connectRetriesExhausted []) (hc : u.session.closed = false)
    (hclosed : u.connectFailed.session.closed = true) :
    s.Departs n e .connectRetriesExhausted none u.connectFailed := by
  simp only [connectFailed] at hclosed ⊢
  split
  · exact departs_close (u := (u.change _).note _) hp List.mem_cons_self ha ht
  · rename_i hmore
    rw [if_neg hmore] at hclosed
    exact absurd hclosed (by simp [hc])

/-- A timer that runs out in the state it belongs to closes the session, if it is not the one for
KEEPALIVEs. -/
theorem departs_expire {kind : TimerKind} {token : TimerToken} (ha : u.actions = [])
    (ht : u.session.timers = s.slotsAt (.timerExpired kind token))
    (hstate : u.session.state = s.state) (hs : s.state = kind.state)
    (hc : u.session.closed = false) (hclosed : (u.expire kind).session.closed = true) :
    ∃ reason goodbye, s.Departs n (.timerExpired kind token) reason goodbye (u.expire kind) := by
  cases kind with
  | connect =>
    have hturn : u.expire .connect = (u.note (.expired u.session.state .connect)).connectFailed :=
      if_pos (hstate.trans hs)
    rw [hturn] at hclosed ⊢
    exact ⟨_, _, departs_connectFailed ha ht (.connectRetriesExhausted hs rfl) hc hclosed⟩
  | openWait =>
    exact ⟨_, _, departs_close_send (u := (u.note _).note _) (.openWaitExpired hs token)
      List.mem_cons_self ha ht⟩
  | keepWait =>
    exact ⟨_, _, departs_close_send (u := (u.note _).note _) (.keepWaitExpired hs token)
      List.mem_cons_self ha ht⟩
  | deadTimer =>
    exact ⟨_, _, departs_close_send (u := (u.note _).note _) (.deadTimerExpired hs token)
      List.mem_cons_self ha ht⟩
  | keepAlive => exact absurd hclosed (by simp [expire, hc])

/-- A message that breaks off the negotiation is complained of, or closed for in silence. -/
theorem BreaksOff.departs {m : Message} {t : Turn} (h : (start s n).BreaksOff t)
    (hs : s.Waits) : ∃ reason goodbye, s.Departs n (.network m) reason goodbye t := by
  obtain ⟨u, hu, hactions, rfl | rfl⟩ := h
  · obtain ⟨goodbye, h⟩ := departs_formatError (e := .network m) (n := n) hactions
      (congrArg Session.state hu) (congrArg Session.timers hu) (.malformed m)
    exact ⟨_, goodbye, h⟩
  · exact ⟨_, _, departs_close (.outOfOrder hs m) List.mem_cons_self hactions
      (congrArg Session.timers hu)⟩

end Turn

namespace Session

variable {s : Session} {n : TimerToken} {e : SessionEvent} {m : Message}

/-- What closes the session does not move the negotiation on. -/
theorem Phase.advance?_eq_none (h : s.Phase) (hc : s.closed = false)
    (hclosed : (s.handle n e).session.closed = true) : s.advance? e = none := by
  cases ha : s.advance? e with
  | none => rfl
  | some a =>
    have hstill := (advances_handle h hc ha n).still
    rw [hclosed] at hstill
    cases hstill

/-- An offer that does not move the negotiation on is refused. -/
theorem refused_of_advance? (hs : s.state = .openWait) {o : OpenObject}
    (hm : m.content = .ok (.opening o)) (hnone : s.advance? (.network m) = none) :
    s.terms.check o ≠ .acceptable ∧ (s.terms.check o = .negotiable → s.openRetries ≠ 0) := by
  simp only [advance?, hs, hm] at hnone
  constructor
  · intro hv
    simp [hv] at hnone
  · intro hv h0
    simp [hv, h0] at hnone

section Network

variable (hc : s.closed = false) (hclosed : (s.handle n (.network m)).session.closed = true)
include hc hclosed

theorem departs_openWait (h : s.Phase) (hs : s.state = .openWait) :
    ∃ reason goodbye, s.Departs n (.network m) reason goodbye (s.handle n (.network m)) := by
  have hnone := h.advance?_eq_none hc hclosed
  rw [handle_openWait h hs]
  by_cases hm : ∃ o, m.content = .ok (.opening o)
  · obtain ⟨o, hm⟩ := hm
    obtain ⟨hv, hretried⟩ := refused_of_advance? hs hm hnone
    obtain ⟨note, hturn⟩ := Turn.consider_of_refused (t := .start s n) hv hretried
    rw [Turn.inOpenWait_of_opening hm, hturn]
    refine ⟨_, _, Turn.departs_close_send (u := (Turn.start s n).note _)
      (.negotiationFailed (.inl hs) m _) ?_ rfl rfl⟩
    rw [goodbyes, if_pos hs]
    cases (Turn.start s n).session.terms.check o with
    | notNegotiable => exact List.mem_cons_self
    | acceptable | negotiable => exact List.mem_cons_of_mem _ (List.mem_singleton_self _)
  · exact (Turn.breaksOff_inOpenWait fun o ho => hm ⟨o, ho⟩).departs (.inl hs)

theorem departs_keepWait (h : s.Phase) (hs : s.state = .keepWait) :
    ∃ reason goodbye, s.Departs n (.network m) reason goodbye (s.handle n (.network m)) := by
  have hnone := h.advance?_eq_none hc hclosed
  rw [handle_keepWait h hs]
  by_cases hk : m.content = .ok .keepalive
  · simp [advance?, hs, hk] at hnone
  · by_cases hm : ∃ x proposal, m.content = .ok (.error x proposal)
    · obtain ⟨x, proposal, hm⟩ := hm
      rw [advance?_error hs hm, Option.map_eq_none_iff] at hnone
      rw [Turn.inKeepWait_of_not_adoptable (t := .start s n) hm hnone]
      refine ⟨_, _, Turn.departs_close_send (u := (Turn.start s n).note _)
        (.negotiationFailed (.inr hs) m _) ?_ rfl rfl⟩
      rw [goodbyes, hs]
      exact List.mem_singleton_self _
    · exact (Turn.breaksOff_inKeepWait hk fun x proposal hx => hm ⟨x, proposal, hx⟩).departs
        (.inr hs)

/-- A session that is up is closed by what it can not read, and by a CLOSE. -/
theorem departs_sessionUp (h : s.Phase) (hs : s.state = .sessionUp) :
    ∃ reason goodbye, s.Departs n (.network m) reason goodbye (s.handle n (.network m)) := by
  have hstill : (Turn.start s n).restartDeadTimer.session.closed = false := by
    rw [Turn.session_restartDeadTimer_start]
    exact hc
  rw [handle_sessionUp h hs, Turn.inSessionUp] at hclosed ⊢
  cases hm : m.content with
  | error x =>
    obtain ⟨goodbye, hdeparts⟩ := Turn.departs_formatError (s := s) (n := n) (e := .network m)
      (u := (Turn.start s n).note (.malformed .sessionUp x)) rfl rfl rfl (.malformed m)
    exact ⟨_, goodbye, hdeparts⟩
  | ok c =>
    rw [hm] at hclosed
    cases c with
    | close o =>
      refine ⟨_, _, Turn.departs_close (u := (Turn.start s n).restartDeadTimer.note _)
        (.peerClosed hs m) List.mem_cons_self (Turn.actions_restartDeadTimer_start s n) ?_⟩
      rw [Turn.session_note, Turn.session_restartDeadTimer_start]
      rfl
    | keepalive | opening o => exact absurd hclosed (by simp [hstill])
    | error x proposal | data kind => exact absurd hclosed (by simp [hstill])

end Network

/-- A timer that runs out closes the session, or is the last connect timer to do so. -/
theorem departs_expired (hc : s.closed = false) {kind : TimerKind} {token : TimerToken}
    (hs : s.state = kind.state)
    (hclosed : (s.handle n (.timerExpired kind token)).session.closed = true) :
    ∃ reason goodbye, s.Departs n (.timerExpired kind token) reason goodbye
      (s.handle n (.timerExpired kind token)) := by
  rw [handle_eq_take hc, Turn.take, Turn.session_start] at hclosed ⊢
  by_cases hk : s.timers.get kind = some token
  · rw [if_pos hk] at hclosed ⊢
    exact Turn.departs_expire rfl (if_pos hk).symm rfl hs hc hclosed
  · rw [if_neg hk] at hclosed
    exact absurd hclosed (by simp [hc])

theorem departs_connecting (hc : s.closed = false) (hs : s.state = .tcpPending)
    (he : e.isConnectFailure = true) (hclosed : (s.handle n e).session.closed = true) :
    ∃ reason goodbye, s.Departs n e reason goodbye (s.handle n e) := by
  have hp := Parts.connectRetriesExhausted hs he
  cases e with
  | transportFailed | connectionLost =>
    rw [handle_eq_take hc, Turn.take, Turn.session_start, if_pos hs] at hclosed ⊢
    exact ⟨_, _, Turn.departs_connectFailed (u := .start s n) rfl rfl hp hc hclosed⟩
  | timerExpired kind token =>
    cases kind with
    | connect => exact departs_expired hc hs hclosed
    | _ => cases he
  | _ => cases he

/-- **Parting.**  An event that closes a session has it depart for some reason. -/
theorem departs_handle (h : s.Phase) (hc : s.closed = false)
    (hclosed : (s.handle n e).session.closed = true) :
    ∃ reason goodbye, s.Departs n e reason goodbye (s.handle n e) := by
  obtain ⟨reason, said, hp, -⟩ := (outcome_handle h hc n e).finished hclosed
  cases hp with
  | malformed m | outOfOrder _ m | negotiationFailed _ m | peerClosed _ m =>
    cases hs : s.state with
    | idle => exact absurd hs (h.state_ne_idle hc)
    | tcpPending =>
      rw [handle_eq_take hc, Turn.take, Turn.fromNetwork,
        show (Turn.start s n).session.state = _ from hs] at hclosed
      exact absurd hclosed (by simp [hc])
    | openWait => exact departs_openWait hc hclosed h hs
    | keepWait => exact departs_keepWait hc hclosed h hs
    | sessionUp => exact departs_sessionUp hc hclosed h hs
  | connectRetriesExhausted hs he => exact departs_connecting hc hs he hclosed
  | transportFailure hs =>
    rw [handle_eq_take hc, Turn.take, Turn.session_start, if_neg hs]
    exact ⟨_, _, Turn.departs_close (.transportFailure hs) List.mem_cons_self rfl rfl⟩
  | unframeable =>
    rw [handle_eq_take hc, Turn.take]
    obtain ⟨goodbye, h⟩ := Turn.departs_formatError (s := s) (u := (Turn.start s n).note _) (n := n)
      (e := .framingFailed) rfl rfl rfl .unframeable
    exact ⟨_, goodbye, h⟩
  | openWaitExpired hs token | keepWaitExpired hs token | deadTimerExpired hs token =>
    exact departs_expired hc hs hclosed
  | localClose =>
    have hp := Parts.localClose (s := s)
    rw [handle_eq_take hc, Turn.take, Turn.session_start]
    by_cases hcon : s.connected = true
    · rw [if_pos hcon] at hp
      rw [if_pos hcon]
      refine ⟨_, _, Turn.departs_close_send (u := .start s n) hp ?_ rfl rfl⟩
      rw [goodbyes, if_pos hcon]
      exact List.mem_singleton_self _
    · rw [if_neg hcon] at hp
      rw [if_neg hcon]
      refine ⟨_, _, Turn.departs_close (u := .start s n) hp ?_ rfl rfl⟩
      rw [goodbyes, if_neg hcon]
      exact List.mem_singleton_self _

/-- The timers that are left are those that the restart leaves, if there is one. -/
theorem replay_opener {reason : CloseReason} {said : List Message} (hp : s.Parts e reason said)
    (n : TimerToken) : (s.slotsAt e).replay? ((s.opener n reason).map .asked) =
      some (s.leftover n e reason) := by
  cases hp with
  | peerClosed hs m =>
    simp only [opener, restart, leftover, restarted]
    split
    · have hbooks : Ledger.enterAll? ⟨s.timers, n⟩ (Action.cancels .deadTimer
          (s.timers.get .deadTimer) ++ [.armTimer .deadTimer n (.ofSeconds s.peerDeadTimer.toNat)])
          = some ⟨s.timers.set .deadTimer (some n), n + 1⟩ := by
        rw [Ledger.enterAll?_append, Ledger.enterAll?_cancels ⟨s.timers, n⟩, Option.bind_some,
          Ledger.enterAll?_cons]
        simp [Ledger.enter?]
      exact Ledger.replay_asked hbooks
    · rfl
  | _ => rfl

/-- Whoever departs asks for nothing else. -/
theorem Departs.of_mem {reason : CloseReason} {goodbye : Option Message} {t : Turn}
    (h : s.Departs n e reason goodbye t) {a : Action} (ha : a ∈ t.actions) :
    (∃ m, a = .send m ∧ goodbye = some m) ∨ (∃ kind token, a = .cancelTimer kind token) ∨
      (reason = .peerClosed ∧ a = .armTimer .deadTimer n (.ofSeconds s.peerDeadTimer.toNat)) ∨
      a = .close reason := by
  rw [h.actions, List.mem_append, List.mem_append, List.mem_append, List.mem_map] at ha
  rcases ha with ((hopener | ⟨m, hm, rfl⟩) | hcancel) | hclose
  · cases reason with
    | peerClosed =>
      simp only [opener, restart] at hopener
      split at hopener
      · rcases List.mem_append.mp hopener with hcancel | harm
        · obtain ⟨token, -, rfl⟩ := Action.mem_cancels.mp hcancel
          exact .inr (.inl ⟨_, token, rfl⟩)
        · exact .inr (.inr (.inl ⟨rfl, List.mem_singleton.mp harm⟩))
      · cases hopener
    | _ => cases hopener
  · exact .inl ⟨m, rfl, Option.mem_toList.mp hm⟩
  · obtain ⟨kind, token, -, rfl⟩ := Turn.mem_cancellations.mp hcancel
    exact .inr (.inl ⟨kind, token, rfl⟩)
  · exact .inr (.inr (.inr (List.mem_singleton.mp hclose)))

end Session

namespace Party

open Session

variable (p : Party) (initiator : Bool) (n₀ : TimerToken) (cues : List (TimerToken × SessionEvent))

/-- **Parting in order.**  Whatever has happened to a session since its start, an event that closes
it has it say what the cause calls for, cancel each timer that is still armed, and close.  Nothing
else is asked for, except that at a CLOSE of the peer the dead timer is restarted first.  Followed
through all that was told and asked for, no timer is left in the end. -/
theorem departs_in_order (n : TimerToken) (e : SessionEvent)
    (hc : (p.run initiator n₀ cues).session.closed = false)
    (hclosed : ((p.run initiator n₀ cues).tell n e).session.closed = true) :
    let r := p.run initiator n₀ cues
    ∃ reason goodbye,
      goodbye ∈ r.session.goodbyes reason ∧ r.session.Parts e reason goodbye.toList ∧
      (r.session.handle n e).actions =
        r.session.opener n reason ++ goodbye.toList.map .send ++
          Turn.cancellations { r.session with timers := r.session.leftover n e reason } ++
          [.close reason] ∧
      (r.session.slotsAt e).replay? ((r.session.opener n reason).map .asked) =
        some (r.session.leftover n e reason) ∧
      (∀ a ∈ (r.session.handle n e).actions, (∃ m, a = .send m ∧ goodbye = some m) ∨
        (∃ kind token, a = .cancelTimer kind token) ∨
        (reason = .peerClosed ∧
          a = .armTimer .deadTimer n (.ofSeconds r.session.peerDeadTimer.toNat)) ∨
        a = .close reason) ∧
      TimerSlots.replay? {} (r.tell n e).postings = some {} := by
  intro r
  have hphase : r.session.Phase := p.phase_run initiator n₀ cues
  rw [Run.session_tell] at hclosed
  obtain ⟨reason, goodbye, hdeparts⟩ := departs_handle hphase hc hclosed
  refine ⟨reason, goodbye, hdeparts.allowed, hdeparts.cause, hdeparts.actions,
    replay_opener hdeparts.cause n, fun a ha => hdeparts.of_mem ha, ?_⟩
  -- a closed session has no timers, and the run has those of its session
  obtain ⟨_, _, -, hfinished⟩ := (outcome_handle hphase hc n e).finished hclosed
  have hreplay := p.replay_run initiator n₀ (cues ++ [(n, e)])
  rwa [run_concat, Run.session_tell, hfinished.timers] at hreplay

/-- The peer of an accepted session that is up closes it. -/
theorem departs_in_order_peer :
    let p : Party :=
      { peer := .v4 ⟨10, 0, 0, 1⟩ 4189, role := .server, sessionId := 7, settings := {} }
    let r := p.run false 1 [(2, .network (OpenObject.propose 30 120 1).message),
      (3, .network keepaliveMessage)]
    let e := SessionEvent.network CloseCause.noExplanation.message
    r.session.closed = false ∧ (r.tell 5 e).session.closed = true ∧
      (r.session.handle 5 e).actions =
        [.cancelTimer .deadTimer 4, .armTimer .deadTimer 5 (.ofSeconds 120),
          .cancelTimer .keepAlive 3, .cancelTimer .deadTimer 5, .close .peerClosed] ∧
      TimerSlots.replay? {} (r.tell 5 e).postings = some {} := by
  intro p r e
  have hc : r.session.closed = false := by decide +kernel
  have hclosed : (r.tell 5 e).session.closed = true := by decide +kernel
  obtain ⟨reason, goodbye, -, -, -, -, -, hreplay⟩ := departs_in_order p false 1 _ 5 e hc hclosed
  exact ⟨hc, hclosed, by decide +kernel, hreplay⟩

end Party

/-! ### Messages of another version or of no known type -/

namespace Message

variable (m : Message)

/-- A message is of another version or of no known type. -/
def Foreign : Prop := m.version ≠ protocolVersion ∨ m.code = 0 ∨ 7 < m.code

variable {m}

theorem kind?_eq_none (hm : m.code = 0 ∨ 7 < m.code) : m.kind? = none := by
  unfold kind? MessageKind.ofCode?
  split <;> simp_all

/-- Nothing can be made of it, whatever its flags and its body are. -/
theorem Foreign.content (hm : m.Foreign) : ∃ x, m.content = .error x := by
  by_cases hv : m.version = protocolVersion
  · have hkind : m.kind = .error (.unknownKind m.code) := by
      rw [kind, kind?_eq_none (hm.resolve_left fun hne => hne hv)]
    exact ⟨_, by rw [Message.content, if_neg (by simp [hv]), hkind]; rfl⟩
  · exact ⟨_, if_pos hv⟩

end Message

/-- Whether a message is of a known type that is out of turn in a state. -/
def State.excludes (state : State) (m : Message) : Bool :=
  match state, m.kind? with
  | .openWait, some kind => kind ≠ .opening
  | .keepWait, some kind => kind ≠ .keepalive ∧ kind ≠ .error
  | _, _ => false

namespace Turn

variable {t : Turn} {m : Message} {x : FormatError}

/-- What malformed input is told, by the numbers on the wire. -/
theorem complaint_of_reads {state : State}
    (hs : state = .openWait ∨ state = .keepWait ∨ state = .sessionUp) : complaint state =
      [.send (if state = .sessionUp then .closeNotice 3 else .errorNotice 1 1)] := by
  rcases hs with rfl | rfl | rfl <;> rfl

/-- Which of the two ways to break off is taken is told by the type alone. -/
theorem inOpenWait_of_malformed (hx : m.content = .error x) : ∃ note, t.inOpenWait m =
    if State.openWait.excludes m then (t.note note).close .protocolSequence
    else (t.note note).formatError := by
  simp only [inOpenWait, Message.kind]
  cases hk : m.kind? with
  | none => exact ⟨_, (if_neg (by simp [State.excludes, hk])).symm⟩
  | some kind =>
    by_cases hkind : kind = .opening
    · subst hkind
      simp only [hx]
      exact ⟨_, (if_neg (by simp [State.excludes, hk])).symm⟩
    · refine ⟨.expectedOpen kind, ?_⟩
      rw [if_pos (by simp [State.excludes, hk, hkind])]
      cases kind <;> first | rfl | exact absurd rfl hkind

theorem inKeepWait_of_malformed (hx : m.content = .error x) : ∃ note, t.inKeepWait m =
    if State.keepWait.excludes m then (t.note note).close .protocolSequence
    else (t.note note).formatError := by
  simp only [inKeepWait, Message.kind]
  cases hk : m.kind? with
  | none => exact ⟨_, (if_neg (by simp [State.excludes, hk])).symm⟩
  | some kind =>
    by_cases hkind : kind = .keepalive ∨ kind = .error
    · simp only [if_pos hkind, hx]
      refine ⟨_, (if_neg ?_).symm⟩
      rcases hkind with rfl | rfl <;> simp [State.excludes, hk]
    · simp only [if_neg hkind]
      exact ⟨_, (if_pos (by simpa [State.excludes, hk] using hkind)).symm⟩

end Turn

namespace Session

variable {s : Session} {m : Message}

/-- A session that reads messages closes at one that is malformed, in one of the two ways. -/
theorem handle_malformed (h : s.Phase)
    (hs : s.state = .openWait ∨ s.state = .keepWait ∨ s.state = .sessionUp) {x : FormatError}
    (hx : m.content = .error x) (n : TimerToken) : ∃ note, s.handle n (.network m) =
      if s.state.excludes m then ((Turn.start s n).note note).close .protocolSequence
      else ((Turn.start s n).note note).formatError := by
  rcases hs with hs | hs | hs
  · rw [handle_openWait h hs, hs]
    exact Turn.inOpenWait_of_malformed hx
  · rw [handle_keepWait h hs, hs]
    exact Turn.inKeepWait_of_malformed hx
  · rw [handle_sessionUp h hs, hs, Turn.inSessionUp, hx]
    exact ⟨_, rfl⟩

/-- **Foreign messages.**  A message of another version or of no known type closes a session, which
says that it is malformed.  But one that waits for other types looks at the type first, and closes
without a word where it knows the type. -/
theorem foreign_message_closes (h : s.Reached)
    (hs : s.state = .openWait ∨ s.state = .keepWait ∨ s.state = .sessionUp) (hm : m.Foreign)
    (n : TimerToken) :
    (s.handle n (.network m)).session = s.ended ∧
      (s.handle n (.network m)).actions =
        if s.state.excludes m then Turn.cancellations s ++ [.close .protocolSequence]
        else
          .send (if s.state = .sessionUp then .closeNotice 3 else .errorNotice 1 1) ::
            Turn.cancellations s ++ [.close .framingError] := by
  obtain ⟨x, hx⟩ := hm.content
  obtain ⟨note, hturn⟩ := handle_malformed h.phase hs hx n
  rw [hturn]
  by_cases hexcludes : s.state.excludes m = true
  · simp [hexcludes]
  · simp [hexcludes, Turn.complaint_of_reads hs]

/-- An accepted session that waits for an OPEN says so to an OPEN of version 2, and closes without a
word at a KEEPALIVE of version 2. -/
theorem foreign_message_closes_waiting :
    let s := ((init (.v4 ⟨10, 0, 0, 1⟩ 4189) .server false 7 {}).start 1).session
    let opening : Message := { (OpenObject.propose 30 120 1).message with version := 2 }
    let keepalive : Message := { keepaliveMessage with version := 2 }
    s.state = .openWait ∧ opening.Foreign ∧ keepalive.Foreign ∧
      (s.handle 2 (.network opening)).actions =
        [.send (.errorNotice 1 1), .cancelTimer .openWait 1, .close .framingError] ∧
      (s.handle 2 (.network keepalive)).actions =
        [.cancelTimer .openWait 1, .close .protocolSequence] := by
  intro s opening keepalive
  have hreached : s.Reached := .start ..
  have hs : s.state = .openWait := by decide +kernel
  have hopening : opening.Foreign := .inl (by decide)
  have hkeepalive : keepalive.Foreign := .inl (by decide)
  have hsaid := (foreign_message_closes hreached (.inl hs) hopening 2).2
  have hsilent := (foreign_message_closes hreached (.inl hs) hkeepalive 2).2
  exact ⟨hs, hopening, hkeepalive, hsaid.trans (by decide +kernel),
    hsilent.trans (by decide +kernel)⟩

end Session

end PathSession
