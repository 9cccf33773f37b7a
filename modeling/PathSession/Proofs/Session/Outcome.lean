import PathSession.Proofs.Session.Answers

/-!
# What comes of an event

Every event of a session that is not closed has one of three outcomes: the session goes on as it is,
comes up, or ends.  Each says all that was asked of the timers, the peer and the collaborator.

* `Ledger`, `Ledger.enterAll?`: the timers of a session, kept by what is asked of them;
* `Turn.Calm`, `Turn.Opens`: a turn that has asked for timers and messages only;
* `Turn.GoesOn`, `Turn.ComesUp`, `Turn.Finished`: the three outcomes;
* `Session.Parts`: why a session ends, and what it says then;
* `Session.outcome_handle`: every event has one of the outcomes.
-/

namespace PathSession

/-! ### Timers on the books -/

/-- The timers of a session: the token in each slot, and the next unused one. -/
structure Ledger where
  slots : TimerSlots
  next : TimerToken
  deriving DecidableEq, Repr

namespace Ledger

/-- The books after an action.  A timer is armed under the next token while its slot is empty, and
cancelled under the token in its slot; all else is out of order. -/
def enter? (l : Ledger) : Action → Option Ledger
  | .armTimer k token _ =>
    if l.slots.get k = none ∧ token = l.next then
      some { slots := l.slots.set k (some token), next := l.next + 1 }
    else
      none
  | .cancelTimer k token =>
    if l.slots.get k = some token then some { l with slots := l.slots.set k none } else none
  | _ => some l

/-- The books after several actions. -/
def enterAll? (l : Ledger) (actions : List Action) : Option Ledger := actions.foldlM enter? l

variable (l : Ledger)

@[simp] theorem enterAll?_nil : l.enterAll? [] = some l := rfl

theorem enterAll?_cons (a : Action) (actions : List Action) :
    l.enterAll? (a :: actions) = (l.enter? a).bind (·.enterAll? actions) := rfl

theorem enterAll?_append (as bs : List Action) :
    l.enterAll? (as ++ bs) = (l.enterAll? as).bind (·.enterAll? bs) := List.foldlM_append

/-- What an action that is in order can do to the books. -/
theorem enter?_cases {l l' : Ledger} {a : Action} (h : l.enter? a = some l') :
    (∃ k after, a = .armTimer k l.next after ∧ l.slots.get k = none ∧
        l' = { slots := l.slots.set k (some l.next), next := l.next + 1 }) ∨
      (∃ k token, a = .cancelTimer k token ∧ l.slots.get k = some token ∧
        l' = { l with slots := l.slots.set k none }) ∨
      (∀ k token after, a ≠ .armTimer k token after) ∧ l' = l := by
  cases a with
  | armTimer k token after =>
    simp only [enter?] at h
    split at h
    · rename_i hfree
      cases h
      exact .inl ⟨k, after, by rw [hfree.2], hfree.1, by rw [hfree.2]⟩
    · cases h
  | cancelTimer k token =>
    simp only [enter?] at h
    split at h
    · rename_i hk
      cases h
      exact .inr (.inl ⟨k, token, rfl, hk, rfl⟩)
    · cases h
  | _ =>
    cases h
    exact .inr (.inr ⟨by simp, rfl⟩)

/-- Cancelling whatever is armed empties the slot. -/
theorem enterAll?_cancels (k : TimerKind) :
    l.enterAll? (Action.cancels k (l.slots.get k)) = some { l with slots := l.slots.set k none } := by
  cases hk : l.slots.get k with
  | none =>
    have := TimerSlots.set_get l.slots k
    rw [hk] at this
    simp [Action.cancels, this]
  | some token => simp [Action.cancels, enterAll?_cons, enter?, hk]

/-- An action that is not about timers leaves the books as they are. -/
theorem enterAll?_map_send (ms : List Message) : l.enterAll? (ms.map .send) = some l := by
  induction ms with
  | nil => rfl
  | cons m ms ih => exact ih

end Ledger

/-- The timers of a turn so far. -/
def Turn.ledger (t : Turn) : Ledger := { slots := t.session.timers, next := t.nextToken }

/-- The state of a session in which a timer is armed. -/
def TimerKind.state : TimerKind → State
  | connect => .tcpPending
  | openWait => .openWait
  | keepWait => .keepWait
  | keepAlive | deadTimer => .sessionUp

/-! ### Actions by what they are for -/

namespace Action

/-- Whether an action asks for timers, a connection or a message to the peer only. -/
def isQuiet : Action → Bool
  | connect | send _ | armTimer _ _ _ | cancelTimer _ _ => true
  | deliver _ | established | close _ => false

/-- The message that an action hands to the collaborator, if it does. -/
def delivery? : Action → Option Message
  | deliver m => some m
  | _ => none

/-- The messages that actions hand to the collaborator, in order. -/
def delivered (actions : List Action) : List Message := actions.filterMap delivery?

variable (as bs : List Action)

@[simp] theorem delivered_nil : delivered [] = [] := rfl
@[simp] theorem delivered_append : delivered (as ++ bs) = delivered as ++ delivered bs :=
  List.filterMap_append

theorem delivered_of_quiet {as : List Action} (h : ∀ a ∈ as, a.isQuiet = true) :
    delivered as = [] := by
  refine List.filterMap_eq_nil_iff.mpr fun a ha => ?_
  have := h a ha
  cases a with
  | deliver => cases this
  | _ => rfl

@[simp] theorem delivered_map_send (ms : List Message) : delivered (ms.map send) = [] :=
  delivered_of_quiet (by simp [isQuiet])

variable {as}

theorem established_notMem_of_quiet (h : ∀ a ∈ as, a.isQuiet = true) : established ∉ as :=
  fun ha => nomatch h _ ha

theorem close_notMem_of_quiet (h : ∀ a ∈ as, a.isQuiet = true) (reason : CloseReason) :
    close reason ∉ as :=
  fun ha => nomatch h _ ha

end Action

/-- Whether a role hands a received message on to the collaborator.  A malformed one it does not. -/
def Role.takes (role : Role) (m : Message) : Bool :=
  match m.content with
  | .ok c => match c with
    | .error _ _ => role.delivers .error
    | .data kind => role.delivers kind
    | _ => false
  | .error _ => false

/-- Whether an event says that a connect has failed. -/
def SessionEvent.isConnectFailure : SessionEvent → Bool
  | transportFailed | connectionLost | timerExpired .connect _ => true
  | _ => false

/-- The message that an event hands over, if it does. -/
def SessionEvent.handed? : SessionEvent → Option Message
  | fromLocal m => some m
  | _ => none

namespace Session

/-- The local message that an event puts into the queue. -/
def queued (s : Session) : SessionEvent → List Message
  | .fromLocal m => if s.state ≠ .sessionUp ∧ s.role = .client then [m] else []
  | _ => []

/-- The local message that an event has sent at once. -/
def passed (s : Session) : SessionEvent → List Message
  | .fromLocal m => if s.state = .sessionUp ∧ s.role.forwards m then [m] else []
  | _ => []

/-- The received message that an event has delivered. -/
def taken (s : Session) : SessionEvent → List Message
  | .network m => if s.state = .sessionUp ∧ s.role.takes m then [m] else []
  | _ => []

section Handed

variable {s : Session}

theorem queued_of_up (hs : s.state = .sessionUp) (e : SessionEvent) : s.queued e = [] := by
  cases e with
  | fromLocal m => simp [queued, hs]
  | _ => rfl

theorem queued_of_client (hs : s.state ≠ .sessionUp) (hrole : s.role = .client)
    (e : SessionEvent) : s.queued e = e.handed?.toList := by
  cases e with
  | fromLocal m => simp [queued, hs, hrole, SessionEvent.handed?]
  | _ => rfl

theorem queued_of_server (hrole : s.role ≠ .client) (e : SessionEvent) : s.queued e = [] := by
  cases e with
  | fromLocal m => simp [queued, hrole]
  | _ => rfl

theorem passed_of_up (hs : s.state = .sessionUp) (e : SessionEvent) :
    s.passed e = e.handed?.toList.filter s.role.forwards := by
  cases e with
  | fromLocal m =>
    by_cases hm : s.role.forwards m <;> simp [passed, hs, hm, SessionEvent.handed?]
  | _ => rfl

end Handed

/-- Why a session ends when it is told of an event, and what it says to the peer then. -/
inductive Parts (s : Session) : SessionEvent → CloseReason → List Message → Prop
  | connectRetriesExhausted {e : SessionEvent} (hs : s.state = .tcpPending)
      (he : e.isConnectFailure = true) : Parts s e .connectRetriesExhausted []
  | transportFailure (hs : s.state ≠ .tcpPending) : Parts s .connectionLost .transportFailure []
  | unframeable : Parts s .framingFailed .framingError (Action.sent (Turn.complaint s.state))
  | malformed (m : Message) :
      Parts s (.network m) .framingError (Action.sent (Turn.complaint s.state))
  | outOfOrder (hs : s.state = .openWait ∨ s.state = .keepWait) (m : Message) :
      Parts s (.network m) .protocolSequence []
  | negotiationFailed (hs : s.state = .openWait ∨ s.state = .keepWait) (m : Message)
      (e : EstablishmentError) :
      Parts s (.network m) .negotiationFailed [(ErrorObject.establishment e).message none]
  | peerClosed (hs : s.state = .sessionUp) (m : Message) : Parts s (.network m) .peerClosed []
  | openWaitExpired (hs : s.state = .openWait) (token : TimerToken) :
      Parts s (.timerExpired .openWait token) .openWaitExpired
        [(ErrorObject.establishment .openWaitExpired).message none]
  | keepWaitExpired (hs : s.state = .keepWait) (token : TimerToken) :
      Parts s (.timerExpired .keepWait token) .keepWaitExpired
        [(ErrorObject.establishment .keepWaitExpired).message none]
  | deadTimerExpired (hs : s.state = .sessionUp) (token : TimerToken) :
      Parts s (.timerExpired .deadTimer token) .deadTimerExpired
        [CloseCause.deadTimerExpired.message]
  | localClose : Parts s .closeRequested .localClose
      (if s.connected then [CloseCause.noExplanation.message] else [])

end Session

namespace Turn

/-! ### Turns under way -/

/-- A turn that has asked for timers, a connection and messages to the peer, and nothing else. -/
structure Calm (l : Ledger) (s : Session) (t : Turn) : Prop where
  books : l.enterAll? t.actions = some t.ledger
  still : t.session.closed = false
  role : t.session.role = s.role
  queue : t.session.outbound = s.outbound
  quiet : ∀ a ∈ t.actions, a.isQuiet = true

/-- A turn in which the session has said nothing and is still in its state. -/
structure Opens (l : Ledger) (s : Session) (t : Turn) : Prop extends Calm l s t where
  silent : Action.sent t.actions = []
  state : t.session.state = s.state
  connected : t.session.connected = s.connected

variable {l : Ledger} {s : Session} {t : Turn}

namespace Calm

variable (h : Calm l s t)
include h

theorem note (n : Note) : Calm l s (t.note n) := ⟨h.books, h.still, h.role, h.queue, h.quiet⟩

theorem change {f : Session → Session} (ht : (f t.session).timers = t.session.timers)
    (hc : (f t.session).closed = t.session.closed) (hr : (f t.session).role = t.session.role)
    (hq : (f t.session).outbound = t.session.outbound) : Calm l s (t.change f) where
  books := by
    rw [ledger, session_change, ht]
    exact h.books
  still := hc.trans h.still
  role := hr.trans h.role
  queue := hq.trans h.queue
  quiet := h.quiet

theorem enter (target : State) : Calm l s (t.enter target) :=
  ⟨h.books, h.still, h.role, h.queue, h.quiet⟩

theorem send (m : Message) : Calm l s (t.send m) where
  books := by
    rw [actions_send, Ledger.enterAll?_append, h.books]
    rfl
  still := h.still
  role := h.role
  queue := h.queue
  quiet a ha := by
    rcases List.mem_append.mp ha with ha | ha
    · exact h.quiet a ha
    · rw [List.mem_singleton.mp ha]
      rfl

theorem connect : Calm l s (t.act .connect) where
  books := by
    rw [actions_act, Ledger.enterAll?_append, h.books]
    rfl
  still := h.still
  role := h.role
  queue := h.queue
  quiet a ha := by
    rcases List.mem_append.mp ha with ha | ha
    · exact h.quiet a ha
    · rw [List.mem_singleton.mp ha]
      rfl

theorem cancel (k : TimerKind) : Calm l s (t.cancel k) where
  books := by
    rw [actions_cancel, Ledger.enterAll?_append, h.books, Option.bind_some]
    refine (Ledger.enterAll?_cancels t.ledger k).trans ?_
    simp [ledger]
  still := by
    rw [session_cancel]
    exact h.still
  role := by
    rw [session_cancel]
    exact h.role
  queue := by
    rw [session_cancel]
    exact h.queue
  quiet a ha := by
    rw [actions_cancel] at ha
    rcases List.mem_append.mp ha with ha | ha
    · exact h.quiet a ha
    · obtain ⟨token, -, rfl⟩ := Option.mem_toList.mp ha |> Option.map_eq_some_iff.mp
      rfl

theorem arm (k : TimerKind) (after : Millis) : Calm l s (t.arm k after) where
  books := by
    have hcancel := (h.cancel k).books
    rw [actions_cancel] at hcancel
    rw [actions_arm, Ledger.enterAll?_append, hcancel, Option.bind_some, Ledger.enterAll?_cons]
    simp [Ledger.enter?, ledger]
  still := by
    rw [session_arm]
    exact h.still
  role := by
    rw [session_arm]
    exact h.role
  queue := by
    rw [session_arm]
    exact h.queue
  quiet a ha := by
    have hcancel := (h.cancel k).quiet
    rw [actions_cancel] at hcancel
    rw [actions_arm] at ha
    rcases List.mem_append.mp ha with ha | ha
    · exact hcancel a ha
    · rw [List.mem_singleton.mp ha]
      rfl

theorem sendOpen : Calm l s t.sendOpen := h.send _

theorem awaitOpen : Calm l s t.awaitOpen := (h.arm _ _).enter _

theorem awaitAnswer : Calm l s t.awaitAnswer := (h.arm _ _).enter _

theorem greet : Calm l s t.greet := (h.change rfl rfl rfl rfl).send _

theorem restartDeadTimer : Calm l s t.restartDeadTimer := by
  unfold Turn.restartDeadTimer
  split
  · exact h.arm _ _
  · exact h

theorem startKeepalives : Calm l s t.startKeepalives := by
  unfold Turn.startKeepalives
  split
  · exact h
  · simp only
    split
    · exact (h.change rfl rfl rfl rfl).arm _ _
    · exact h.change rfl rfl rfl rfl

theorem cancelAll (kinds : List TimerKind) : Calm l s (kinds.foldl Turn.cancel t) := by
  induction kinds generalizing t with
  | nil => exact h
  | cons k kinds ih => exact ih (h.cancel k)

theorem release : Calm l s t.release := ((h.cancelAll _).change rfl rfl rfl rfl).enter _

end Calm

/-! ### The outcomes -/

/-- A turn after which the session is as it was: up or not, and with its queue. -/
structure GoesOn (l : Ledger) (s : Session) (e : SessionEvent) (t : Turn) : Prop where
  books : l.enterAll? t.actions = some t.ledger
  still : t.session.closed = false
  role : t.session.role = s.role
  up : t.session.state = .sessionUp ↔ s.state = .sessionUp
  queue : t.session.outbound = s.outbound ++ s.queued e
  established : .established ∉ t.actions
  going : ∀ reason, .close reason ∉ t.actions
  sent : s.state = .sessionUp → (Action.sent t.actions).filter s.role.forwards = s.passed e
  delivered : Action.delivered t.actions = s.taken e

/-- A turn in which the session comes up and hands on its queue. -/
structure ComesUp (l : Ledger) (s : Session) (t : Turn) : Prop where
  books : l.enterAll? t.actions = some t.ledger
  still : t.session.closed = false
  role : t.session.role = s.role
  up : t.session.state = .sessionUp
  queue : t.session.outbound = []
  actions : ∃ before, t.actions
      = before ++ .established :: (s.outbound.filter s.role.forwards).map .send ∧
    ∀ a ∈ before, a.isQuiet = true

/-- A turn in which the session says a last thing and closes. -/
structure Finished (l : Ledger) (s : Session) (reason : CloseReason) (said : List Message)
    (t : Turn) : Prop where
  books : l.enterAll? t.actions = some t.ledger
  closed : t.session.closed = true
  role : t.session.role = s.role
  timers : t.session.timers = {}
  queue : t.session.outbound = []
  actions : ∃ before, t.actions = before ++ [.close reason] ∧ Action.sent before = said ∧
    ∀ a ∈ before, a.isQuiet = true

namespace Calm

variable (h : Calm l s t)
include h

theorem close (reason : CloseReason) :
    Finished l s reason (Action.sent t.actions) (t.close reason) := by
  have hrelease := h.release
  have hactions : (t.close reason).actions = t.release.actions ++ [.close reason] := by
    rw [actions_close, actions_release]
  have hnext : (t.close reason).nextToken = t.release.nextToken := by
    simp only [Turn.close]
    split <;> rfl
  have hbooks := hrelease.books
  rw [ledger, session_release] at hbooks
  refine ⟨?_, ?_, ?_, ?_, ?_, t.release.actions, hactions, ?_, hrelease.quiet⟩
  · rw [hactions, Ledger.enterAll?_append, hbooks, ledger, session_close, hnext]
    rfl
  · rw [session_close]
    rfl
  · rw [session_close]
    exact h.role
  · rw [session_close]
    rfl
  · rw [session_close]
    rfl
  · rw [actions_release, Action.sent_append, sent_cancellations, List.append_nil]

theorem goesOn {e : SessionEvent} (hs : s.state ≠ .sessionUp) (ht : t.session.state ≠ .sessionUp)
    (he : s.queued e = []) : GoesOn l s e t where
  books := h.books
  still := h.still
  role := h.role
  up := by simp [hs, ht]
  queue := by rw [h.queue, he, List.append_nil]
  established := Action.established_notMem_of_quiet h.quiet
  going := Action.close_notMem_of_quiet h.quiet
  sent hup := absurd hup hs
  delivered := by
    rw [Action.delivered_of_quiet h.quiet]
    cases e with
    | network m => simp [Session.taken, hs]
    | _ => rfl

end Calm

theorem nextToken_routeFromLocal (m : Message) :
    (t.routeFromLocal m).nextToken = t.nextToken := by
  unfold routeFromLocal
  split <;> rfl

@[simp] theorem nextToken_flush : t.flush.nextToken = t.nextToken := by
  have hfold : ∀ (queue : List Message) (t : Turn),
      (queue.foldl routeFromLocal t).nextToken = t.nextToken := by
    intro queue
    induction queue with
    | nil => exact fun t => rfl
    | cons m queue ih => exact fun t => (ih _).trans (nextToken_routeFromLocal m)
  simp only [flush]
  rw [hfold]
  split <;> rfl

theorem ledger_flush : t.flush.ledger = t.ledger := by
  rw [ledger, session_flush, nextToken_flush, ledger]

theorem state_startKeepalives : t.startKeepalives.session.state = t.session.state := by
  unfold startKeepalives
  split
  · rfl
  · simp only
    split <;> simp

theorem Calm.enterUp (h : Calm l s t) : ComesUp l s t.enterUp := by
  -- what is done before the session counts as established
  let before := (t.enter .sessionUp).startKeepalives.restartDeadTimer.note
    (.up (t.enter .sessionUp).startKeepalives.restartDeadTimer.session.role
      (t.enter .sessionUp).startKeepalives.restartDeadTimer.session.keepalive
      (t.enter .sessionUp).startKeepalives.restartDeadTimer.session.peerDeadTimer)
  have hcalm : Calm l s before := (h.enter _).startKeepalives.restartDeadTimer.note _
  have hturn : t.enterUp = (before.act .established).flush := rfl
  have hactions : t.enterUp.actions
      = before.actions ++ .established :: (s.outbound.filter s.role.forwards).map .send := by
    rw [hturn, actions_flush, session_act, actions_act, hcalm.queue, hcalm.role,
      List.append_assoc, List.singleton_append]
  refine ⟨?_, ?_, ?_, ?_, ?_, before.actions, hactions, hcalm.quiet⟩
  · rw [hactions, Ledger.enterAll?_append, hcalm.books, hturn, ledger_flush]
    exact Ledger.enterAll?_map_send _ _
  · rw [hturn, session_flush]
    exact hcalm.still
  · rw [hturn, session_flush]
    exact hcalm.role
  · rw [hturn, session_flush]
    show (t.enter .sessionUp).startKeepalives.restartDeadTimer.session.state = _
    rw [session_restartDeadTimer]
    exact state_startKeepalives
  · rw [hturn, session_flush]

end Turn

namespace Session

/-- What comes of an event: the session goes on, a message makes it come up, or it ends. -/
inductive Outcome (l : Ledger) (s : Session) : SessionEvent → Turn → Prop
  | goesOn {e : SessionEvent} {t : Turn} (h : t.GoesOn l s e) : Outcome l s e t
  | comesUp {m : Message} {t : Turn} (hs : s.state ≠ .sessionUp) (h : t.ComesUp l s) :
      Outcome l s (.network m) t
  | ends {e : SessionEvent} {t : Turn} {reason : CloseReason} {said : List Message}
      (hp : s.Parts e reason said) (h : t.Finished l s reason said) : Outcome l s e t

/-- A timer is armed exactly in its own state, and those of a session that is up only if they were
agreed on. -/
theorem Phase.timer_iff {s : Session} (h : s.Phase) (kind : TimerKind) :
    (s.timers.get kind).isSome ↔ s.state = kind.state ∧
      (kind = .keepAlive → 0 < s.keepalive) ∧ (kind = .deadTimer → 0 < s.peerDeadTimer) := by
  have hholds := h.holds
  cases hs : s.state <;> rw [hs] at hholds
  case idle | openWait | keepWait =>
    rw [arms_iff.mp hholds.2.2.2.2 kind]
    cases kind <;> simp [TimerKind.state]
  case tcpPending =>
    rw [arms_iff.mp hholds.2.2.2.2.2.2 kind]
    cases kind <;> simp [TimerKind.state]
  case sessionUp =>
    rw [arms_iff.mp hholds.2.2.2.2.2 kind]
    cases kind <;> simp [TimerKind.state]

theorem Phase.state_of_timer {s : Session} (h : s.Phase) {kind : TimerKind}
    (hk : (s.timers.get kind).isSome) : s.state = kind.state := ((h.timer_iff kind).mp hk).1

end Session

namespace Turn

open Session

variable {l : Ledger} {s : Session} {t : Turn} {e : SessionEvent} {m : Message}

namespace Opens

theorem note (h : Opens l s t) (n : Note) : Opens l s (t.note n) :=
  ⟨h.toCalm.note n, h.silent, h.state, h.connected⟩

variable (h : Opens l s t)
include h

/-! ### Ends -/

theorem close {reason : CloseReason} (hp : s.Parts e reason []) :
    Outcome l s e (t.close reason) := by
  have hfinished := h.toCalm.close reason
  rw [h.silent] at hfinished
  exact .ends hp hfinished

theorem close_send {reason : CloseReason} (hp : s.Parts e reason [m]) :
    Outcome l s e ((t.send m).close reason) := by
  have hfinished := (h.toCalm.send m).close reason
  rw [actions_send, Action.sent_append, h.silent] at hfinished
  exact .ends hp hfinished

theorem formatError (hp : s.Parts e .framingError (Action.sent (complaint s.state))) :
    Outcome l s e t.formatError := by
  have hstate := h.state
  unfold Turn.formatError
  cases hs : s.state <;> rw [hs] at hp hstate <;> simp only [hstate]
  · exact h.close hp
  · exact h.close hp
  · exact h.close_send hp
  · exact h.close_send hp
  · exact h.close_send hp

/-! ### Negotiating -/

/-- The proposal of the peer is accepted, countered or refused. -/
theorem consider (hs : s.state = .openWait) (o : OpenObject) :
    Outcome l s (.network m) (t.consider o) := by
  have hup : s.state ≠ .sessionUp := by rw [hs]; decide
  unfold Turn.consider
  split
  · unfold Turn.accept
    simp only
    have hgranted := (((h.toCalm.note (.proposalAccepted o)).change
      (f := fun s => { s with peerKeepalive := o.keepalive, peerDeadTimer := o.deadTimer })
      rfl rfl rfl rfl).send keepaliveMessage).change (f := fun s => { s with remoteOk := true })
      rfl rfl rfl rfl |>.cancel .openWait
    split
    · exact .comesUp hup hgranted.enterUp
    · exact .goesOn (hgranted.awaitAnswer.goesOn hup nofun rfl)
  · split
    · unfold Turn.counter
      simp only
      split
      · exact .goesOn ((((h.toCalm.change rfl rfl rfl rfl).note _).send _).awaitOpen.goesOn hup
          nofun rfl)
      · exact .goesOn (((((h.toCalm.change rfl rfl rfl rfl).note _).send _).cancel
          _).awaitAnswer.goesOn hup nofun rfl)
    · exact (h.note _).close_send (.negotiationFailed (.inl hs) m _)
  · exact (h.note _).close_send (.negotiationFailed (.inl hs) m _)

theorem inOpenWait (hs : s.state = .openWait) : Outcome l s (.network m) (t.inOpenWait m) := by
  unfold Turn.inOpenWait
  split
  · exact (h.note _).formatError (.malformed m)
  · split
    · exact (h.note _).formatError (.malformed m)
    · exact h.consider hs _
    · exact h.formatError (.malformed m)
  · exact (h.note _).close (.outOfOrder (.inl hs) m)

theorem accepted (hs : s.state = .keepWait) : Outcome l s (.network m) t.accepted := by
  have hup : s.state ≠ .sessionUp := by rw [hs]; decide
  have hgranted := (h.toCalm.change (f := fun s => { s with localOk := true }) rfl rfl rfl
    rfl).cancel .keepWait
  unfold Turn.accepted
  simp only
  split
  · exact .comesUp hup hgranted.enterUp
  · exact .goesOn (hgranted.awaitOpen.goesOn hup nofun rfl)

theorem adopt (hs : s.state = .keepWait) (o : OpenObject) :
    Outcome l s (.network m) (t.adopt o) := by
  have hup : s.state ≠ .sessionUp := by rw [hs]; decide
  have hrevised := ((h.toCalm.note (.adopted o)).change
    (f := fun s => { s with keepalive := o.keepalive, deadTimer := o.deadTimer }) rfl rfl rfl
    rfl).sendOpen
  unfold Turn.adopt
  simp only
  split
  · exact .goesOn (hrevised.awaitAnswer.goesOn hup nofun rfl)
  · exact .goesOn ((hrevised.cancel _).awaitOpen.goesOn hup nofun rfl)

theorem inKeepWait (hs : s.state = .keepWait) : Outcome l s (.network m) (t.inKeepWait m) := by
  unfold Turn.inKeepWait
  split
  · exact (h.note _).formatError (.malformed m)
  · split
    · split
      · exact (h.note _).formatError (.malformed m)
      · exact h.accepted hs
      · split
        · exact h.adopt hs _
        · exact (h.note _).close_send (.negotiationFailed (.inr hs) m _)
      · exact h.close (.outOfOrder (.inr hs) m)
    · exact (h.note _).close (.outOfOrder (.inr hs) m)

end Opens

/-! ### Being up -/

theorem nextToken_routeFromNetwork (m : Message) (kind : MessageKind) :
    (t.routeFromNetwork m kind).nextToken = t.nextToken := by
  unfold routeFromNetwork
  split <;> rfl

namespace Calm

theorem routeFromLocal (h : Calm l s t) (m : Message) : Calm l s (t.routeFromLocal m) := by
  unfold Turn.routeFromLocal
  split
  all_goals first
    | exact h.send m
    | exact h.note _

/-- A turn of a session that is up and stays so. -/
theorem goesOn_up (h : Calm l s t) (hs : s.state = .sessionUp)
    (ht : t.session.state = .sessionUp)
    (hsent : (Action.sent t.actions).filter s.role.forwards = s.passed e)
    (he : s.taken e = []) : GoesOn l s e t where
  books := h.books
  still := h.still
  role := h.role
  up := by simp [hs, ht]
  queue := by
    rw [h.queue]
    cases e with
    | fromLocal m => simp [Session.queued, hs]
    | _ => exact (List.append_nil _).symm
  established := Action.established_notMem_of_quiet h.quiet
  going := Action.close_notMem_of_quiet h.quiet
  sent _ := hsent
  delivered := by rw [Action.delivered_of_quiet h.quiet, he]

end Calm

namespace Opens

theorem restartDeadTimer (h : Opens l s t) : Opens l s t.restartDeadTimer := by
  refine ⟨h.toCalm.restartDeadTimer, ?_, ?_, ?_⟩
  · rw [sent_restartDeadTimer, h.silent]
  · rw [session_restartDeadTimer]
    exact h.state
  · rw [session_restartDeadTimer]
    exact h.connected

variable (h : Opens l s t)
include h

theorem goesOn_quiet (hs : s.state = .sessionUp) (hpassed : s.passed e = [])
    (htaken : s.taken e = []) : GoesOn l s e t :=
  h.toCalm.goesOn_up hs (h.state.trans hs) (by rw [h.silent, hpassed]; rfl) htaken

/-- A data message is delivered to those whose role takes it. -/
theorem routeFromNetwork (hs : s.state = .sessionUp) {kind : MessageKind}
    (hk : s.role.takes m = s.role.delivers kind) :
    GoesOn l s (.network m) (t.routeFromNetwork m kind) := by
  have hactions : (t.routeFromNetwork m kind).actions
      = t.actions ++ if s.role.delivers kind then [.deliver m] else [] := by
    rw [actions_routeFromNetwork, h.role]
  have hledger : (t.routeFromNetwork m kind).ledger = t.ledger := by
    rw [ledger, session_routeFromNetwork, nextToken_routeFromNetwork, ledger]
  have hgoes := h.goesOn_quiet (e := .framingFailed) hs rfl rfl
  constructor
  · rw [hactions, Ledger.enterAll?_append, h.books, hledger]
    split <;> rfl
  · rw [session_routeFromNetwork]
    exact hgoes.still
  · rw [session_routeFromNetwork]
    exact hgoes.role
  · rw [session_routeFromNetwork]
    exact hgoes.up
  · rw [session_routeFromNetwork]
    exact hgoes.queue
  · rw [hactions]
    split <;> simp [hgoes.established]
  · intro reason
    rw [hactions]
    split <;> simp [hgoes.going reason]
  · intro _
    rw [hactions, Action.sent_append, h.silent]
    split <;> rfl
  · rw [hactions, Action.delivered_append, hgoes.delivered, Session.taken, hk]
    split
    · rename_i hd
      rw [if_pos ⟨hs, hd⟩]
      rfl
    · rename_i hd
      rw [if_neg fun hd' => hd hd'.2]
      rfl

theorem inSessionUp (hs : s.state = .sessionUp) : Outcome l s (.network m) (t.inSessionUp m) := by
  unfold Turn.inSessionUp
  split
  · exact (h.note _).formatError (.malformed m)
  · rename_i content hm
    have hrestarted := h.restartDeadTimer
    simp only
    split
    · exact .goesOn ((hrestarted.note _).goesOn_quiet hs rfl (by simp [taken, Role.takes, hm]))
    · exact .goesOn ((hrestarted.note _).goesOn_quiet hs rfl (by simp [taken, Role.takes, hm]))
    · exact (hrestarted.note _).close (.peerClosed hs m)
    · exact .goesOn (hrestarted.routeFromNetwork hs (by simp [Role.takes, hm]))
    · exact .goesOn (hrestarted.routeFromNetwork hs (by simp [Role.takes, hm]))

/-! ### Other events -/

theorem fromLocal : Outcome l s (.fromLocal m) (t.fromLocal m) := by
  unfold Turn.fromLocal
  rw [h.state, h.role]
  split
  · rename_i hs
    refine .goesOn ((h.toCalm.routeFromLocal m).goesOn_up hs ?_ ?_ rfl)
    · rw [session_routeFromLocal]
      exact h.state.trans hs
    · rw [actions_routeFromLocal, Action.sent_append, h.silent, h.role, passed]
      by_cases hf : s.role.forwards m = true <;> simp [hf, hs]
  · rename_i hs
    split
    · rename_i hclient
      -- the message waits behind those that came before it
      have hgoes := h.toCalm.goesOn (e := .framingFailed) hs (by rwa [h.state]) rfl
      refine .goesOn ⟨hgoes.books, hgoes.still, hgoes.role, hgoes.up, ?_, hgoes.established,
        hgoes.going, fun hup => absurd hup hs, hgoes.delivered⟩
      simp [queued, hs, hclient, h.queue]
    · rename_i hserver
      exact .goesOn ((h.toCalm.note _).goesOn hs (by rwa [session_note, h.state])
        (by simp [queued, hserver]))

theorem connectFailed (hs : s.state = .tcpPending) (he : e.isConnectFailure = true) :
    Outcome l s e t.connectFailed := by
  have hup : s.state ≠ .sessionUp := by rw [hs]; decide
  have hqueued : s.queued e = [] := by
    cases e with
    | fromLocal m => cases he
    | _ => rfl
  have hcounted : Opens l s (t.change fun s => { s with connectRetries := s.connectRetries + 1 }) :=
    ⟨h.toCalm.change rfl rfl rfl rfl, h.silent, h.state, h.connected⟩
  unfold Turn.connectFailed
  simp only
  split
  · exact (hcounted.note _).close (.connectRetriesExhausted hs he)
  · exact .goesOn ((((hcounted.toCalm.note _).connect.arm _ _).enter _).goesOn hup nofun hqueued)

theorem transportUp : Outcome l s .transportUp t.transportUp := by
  unfold Turn.transportUp
  rw [h.state]
  split
  · rename_i hs
    exact .goesOn ((h.toCalm.greet.cancel _).awaitOpen.goesOn (by rw [hs]; decide) nofun rfl)
  · by_cases hs : s.state = .sessionUp
    · exact .goesOn ((h.note _).goesOn_quiet hs rfl rfl)
    · exact .goesOn ((h.toCalm.note _).goesOn hs (by rwa [session_note, h.state]) rfl)

/-- A timer has run out in the state it belongs to. -/
theorem expire {kind : TimerKind} {token : TimerToken}
    (hs : s.state = kind.state) :
    Outcome l s (.timerExpired kind token) (t.expire kind) := by
  have hnoted := h.note (.expired t.session.state kind)
  unfold Turn.expire
  simp only
  cases kind with
  | connect =>
    rw [session_note, h.state, if_pos (show s.state = .tcpPending from hs)]
    exact (h.note _).connectFailed hs rfl
  | openWait => exact (hnoted.note _).close_send (.openWaitExpired hs token)
  | keepWait => exact (hnoted.note _).close_send (.keepWaitExpired hs token)
  | deadTimer => exact (hnoted.note _).close_send (.deadTimerExpired hs token)
  | keepAlive =>
    refine .goesOn (((hnoted.toCalm.send _).arm _ _).goesOn_up hs ?_ ?_ rfl)
    · simpa using h.state.trans (show s.state = .sessionUp from hs)
    · have hkeepalive : s.role.forwards keepaliveMessage = false := by cases s.role <;> rfl
      simp [h.silent, hkeepalive, passed]

/-- An event that finds nothing to do leaves the session as it is. -/
theorem idle (hqueued : s.queued e = []) (hpassed : s.passed e = []) (htaken : s.taken e = []) :
    Outcome l s e t := by
  by_cases hs : s.state = .sessionUp
  · exact .goesOn (h.goesOn_quiet hs hpassed htaken)
  · exact .goesOn (h.toCalm.goesOn hs (by rwa [h.state]) hqueued)

theorem fromNetwork : Outcome l s (.network m) (t.fromNetwork m) := by
  unfold Turn.fromNetwork
  rw [h.state]
  split
  · rename_i hs
    exact h.inOpenWait hs
  · rename_i hs
    exact h.inKeepWait hs
  · rename_i hs
    exact h.inSessionUp hs
  · rename_i hs
    exact (h.note _).idle rfl rfl (by simp [taken, hs])
  · rename_i hs
    exact (h.note _).idle rfl rfl (by simp [taken, hs])

theorem closeRequested : Outcome l s .closeRequested (t.take .closeRequested) := by
  have hclose := Parts.localClose (s := s)
  simp only [Turn.take, h.connected]
  split
  · rename_i hcon
    rw [if_pos hcon] at hclose
    exact h.close_send hclose
  · rename_i hcon
    rw [if_neg hcon] at hclose
    exact h.close hclose

end Opens

end Turn

namespace Session

/-- The timers of a session as an event finds them: the one that runs out has left its slot. -/
def slotsAt (s : Session) : SessionEvent → TimerSlots
  | .timerExpired kind token =>
    if s.timers.get kind = some token then s.timers.set kind none else s.timers
  | _ => s.timers

variable {s : Session}

/-- **What comes of an event.**  A session that is not closed goes on, comes up, or ends for one of
the reasons there are. -/
theorem outcome_handle (h : s.Phase) (hc : s.closed = false) (n : TimerToken) (e : SessionEvent) :
    Outcome { slots := s.slotsAt e, next := n } s e (s.handle n e) := by
  have hturn : s.handle n e = (Turn.start s n).take e := by simp [handle, hc]
  have hopens : Turn.Opens { slots := s.timers, next := n } s (.start s n) :=
    ⟨⟨rfl, hc, rfl, rfl, List.forall_mem_nil _⟩, rfl, rfl, rfl⟩
  rw [hturn]
  cases e with
  | accepted => exact (hopens.note _).idle rfl rfl rfl
  | connectRequested => exact (hopens.note _).idle rfl rfl rfl
  | transportUp => exact hopens.transportUp
  | transportFailed =>
    simp only [Turn.take]
    split
    · rename_i hs
      exact hopens.connectFailed hs rfl
    · exact hopens.idle rfl rfl rfl
  | connectionLost =>
    simp only [Turn.take]
    split
    · rename_i hs
      exact hopens.connectFailed hs rfl
    · rename_i hs
      exact hopens.close (.transportFailure hs)
  | framingFailed => exact (hopens.note _).formatError .unframeable
  | fromLocal m => exact hopens.fromLocal
  | network m => exact hopens.fromNetwork
  | timerExpired kind token =>
    simp only [Turn.take]
    split
    · rename_i hk
      replace hk : s.timers.get kind = some token := hk
      have hstate : s.state = kind.state :=
        h.state_of_timer (Option.isSome_iff_exists.mpr ⟨token, hk⟩)
      rw [slotsAt, if_pos hk]
      refine Turn.Opens.expire (t := (Turn.start s n).change _) ?_ hstate
      exact ⟨⟨rfl, hc, rfl, rfl, List.forall_mem_nil _⟩, rfl, rfl, rfl⟩
    · rename_i hk
      replace hk : ¬ s.timers.get kind = some token := hk
      rw [slotsAt, if_neg hk]
      exact (hopens.note _).idle rfl rfl rfl
  | closeRequested => exact hopens.closeRequested

/-- A session that starts asks for timers, a connection and messages to the peer only. -/
theorem calm_start (hc : s.closed = false) (n : TimerToken) :
    (s.start n).Calm { slots := s.timers, next := n } s := by
  have hcalm : Turn.Calm { slots := s.timers, next := n } s (.start s n) :=
    ⟨rfl, hc, rfl, rfl, nofun⟩
  simp only [start]
  split
  · exact ((hcalm.arm _ _).connect).enter _
  · exact hcalm.greet.awaitOpen

/-- A session that starts is not up yet. -/
theorem state_start_ne (s : Session) (n : TimerToken) :
    (s.start n).session.state ≠ .sessionUp := by
  simp only [start]
  split <;> simp [Turn.awaitOpen]

/-- Closing is the last thing a turn asks for, and nothing else ends the session. -/
theorem Outcome.closes {l : Ledger} {e : SessionEvent} {t : Turn} (h : Outcome l s e t) :
    l.enterAll? t.actions = some t.ledger ∧
      ((t.session.closed = false ∧ ∀ reason, .close reason ∉ t.actions) ∨
        t.session.closed = true ∧ t.session.timers = {} ∧ ∃ before reason,
          t.actions = before ++ [.close reason] ∧ ∀ reason', .close reason' ∉ before) := by
  cases h with
  | goesOn h => exact ⟨h.books, .inl ⟨h.still, h.going⟩⟩
  | comesUp hs h =>
    obtain ⟨before, hactions, hquiet⟩ := h.actions
    refine ⟨h.books, .inl ⟨h.still, fun reason => ?_⟩⟩
    rw [hactions]
    simp [Action.close_notMem_of_quiet hquiet reason]
  | ends hp h =>
    obtain ⟨before, hactions, -, hquiet⟩ := h.actions
    exact ⟨h.books, .inr ⟨h.closed, h.timers, before, _, hactions,
      Action.close_notMem_of_quiet hquiet⟩⟩

/-- A turn that closes the session has it end for some reason. -/
theorem Outcome.finished {l : Ledger} {e : SessionEvent} {t : Turn} (h : Outcome l s e t)
    (hclosed : t.session.closed = true) :
    ∃ reason said, s.Parts e reason said ∧ t.Finished l s reason said := by
  cases h with
  | goesOn h =>
    rw [h.still] at hclosed
    cases hclosed
  | comesUp _ h =>
    rw [h.still] at hclosed
    cases hclosed
  | ends hp h => exact ⟨_, _, hp, h⟩

/-- A turn that does not has it go on or come up. -/
theorem Outcome.of_still {l : Ledger} {e : SessionEvent} {t : Turn} (h : Outcome l s e t)
    (hstill : t.session.closed = false) :
    t.GoesOn l s e ∨ ∃ m, e = .network m ∧ s.state ≠ .sessionUp ∧ t.ComesUp l s := by
  cases h with
  | goesOn h => exact .inl h
  | comesUp hs h => exact .inr ⟨_, rfl, hs, h⟩
  | ends _ h =>
    rw [h.closed] at hstill
    cases hstill

theorem Outcome.role {l : Ledger} {e : SessionEvent} {t : Turn} (h : Outcome l s e t) :
    t.session.role = s.role := by
  cases h with
  | goesOn h => exact h.role
  | comesUp _ h => exact h.role
  | ends _ h => exact h.role

/-- A closed session drops every event. -/
theorem handle_of_closed (hc : s.closed = true) (n : TimerToken) (e : SessionEvent) :
    (s.handle n e).session = s ∧ (s.handle n e).nextToken = n ∧ (s.handle n e).actions = [] := by
  simp [handle, hc]

end Session

end PathSession
