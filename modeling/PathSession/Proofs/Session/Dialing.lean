import PathSession.Proofs.Session.Phase

/-!
# Who asks for a connection

A session asks for a connection as an initiator only: when it starts, and again when a connect has
failed.  Whether it is an initiator is settled when it is created, and nothing but a failed connect
is counted as one.

* `Action.dials`: an action asks for a connection, or gives up asking;
* `Session.failsAt`: an event says that a connect has failed;
* `Turn.Undialled`, `Session.undialled_handle`: a turn without either, and when there is one;
* `Session.handle_of_fails`: the turn when a connect has failed;
* `Turn.Grounded`, `Session.grounded_start`, `Session.grounded_handle`: the turns of an acceptor.
-/

namespace PathSession

namespace Action

/-- Whether an action asks for a connection, or gives up asking. -/
def dials : Action → Bool
  | connect | close .connectRetriesExhausted => true
  | _ => false

theorem dials_of_mem_cancels {k : TimerKind} {token : Option TimerToken} {a : Action}
    (h : a ∈ cancels k token) : a.dials = false := by
  cases token with
  | none => cases h
  | some token =>
    rw [List.mem_singleton.mp h]
    rfl

end Action

/-- What a session dials by: whether it does, how often it may fail, and how often it has. -/
structure Dial where
  initiator : Bool
  limit : UInt32
  failures : Nat
  deriving DecidableEq, Repr

namespace Session

/-- What a session dials by. -/
def dial (s : Session) : Dial :=
  { initiator := s.initiator, limit := s.settings.maxConnectRetries, failures := s.connectRetries }

/-- Whether an event tells a session that a connect has failed: it waits for its connection, and
the connect failed, the connection was lost, or the timer that is armed for it has run out. -/
def failsAt (s : Session) (e : SessionEvent) : Bool :=
  decide (s.state = .tcpPending) && match e with
    | .transportFailed | .connectionLost => true
    | .timerExpired .connect token => s.timers.get .connect = some token
    | _ => false

section

variable {s : Session} {e : SessionEvent}

theorem failsAt_of_ne (hs : s.state ≠ .tcpPending) (e : SessionEvent) : s.failsAt e = false := by
  simp [failsAt, hs]

theorem state_ne_of_not_failsAt (he : e = .transportFailed ∨ e = .connectionLost)
    (hnot : s.failsAt e = false) : s.state ≠ .tcpPending := by
  rcases he with rfl | rfl <;> simpa [failsAt] using hnot

theorem get_connect_ne_of_not_failsAt {token : TimerToken} (hs : s.state = .tcpPending)
    (hnot : s.failsAt (.timerExpired .connect token) = false) :
    s.timers.get .connect ≠ some token := by
  simpa [failsAt, hs] using hnot

end

end Session

namespace Turn

theorem dials_of_mem_cancellations {s : Session} {a : Action} (h : a ∈ cancellations s) :
    a.dials = false := by
  obtain ⟨k, -, h⟩ := List.mem_flatMap.mp h
  exact Action.dials_of_mem_cancels h

/-- A turn of a session that has neither asked for a connection nor given up. -/
structure Undialled (s : Session) (t : Turn) : Prop where
  dial : t.session.dial = s.dial
  pending : t.session.state = .tcpPending → s.state = .tcpPending
  still : ∀ a ∈ t.actions, a.dials = false

namespace Undialled

variable {s : Session} {t : Turn} (h : Undialled s t)
include h

theorem extend {t' : Turn} {new : List Action} (hd : t'.session.dial = t.session.dial)
    (hs : t'.session.state = t.session.state ∨ t'.session.state ≠ .tcpPending)
    (ha : t'.actions = t.actions ++ new) (hnew : ∀ a ∈ new, a.dials = false) :
    Undialled s t' where
  dial := hd.trans h.dial
  pending hp := h.pending (hs.elim (fun hs => hs.symm.trans hp) fun hs => absurd hp hs)
  still a hmem := by
    rw [ha] at hmem
    exact (List.mem_append.mp hmem).elim (h.still a) (hnew a)

theorem not_connect : .connect ∉ t.actions := fun hmem => nomatch h.still _ hmem

theorem not_exhausted : .close .connectRetriesExhausted ∉ t.actions :=
  fun hmem => nomatch h.still _ hmem

/-! ### Moves -/

theorem note (n : Note) : Undialled s (t.note n) := ⟨h.dial, h.pending, h.still⟩

theorem change {f : Session → Session} (hd : (f t.session).dial = t.session.dial)
    (hs : (f t.session).state = t.session.state) : Undialled s (t.change f) :=
  ⟨hd.trans h.dial, fun hp => h.pending (hs.symm.trans hp), h.still⟩

theorem enter (target : State) (ht : target ≠ .tcpPending) : Undialled s (t.enter target) :=
  ⟨h.dial, fun hp => absurd hp ht, h.still⟩

theorem act {a : Action} (ha : a.dials = false) : Undialled s (t.act a) :=
  h.extend rfl (.inl rfl) (actions_act t a) (by simpa using ha)

theorem send (m : Message) : Undialled s (t.send m) := h.act rfl

theorem cancel (k : TimerKind) : Undialled s (t.cancel k) := by
  refine h.extend ?_ (.inl ?_) (actions_cancel t k) fun a => Action.dials_of_mem_cancels
  · rw [session_cancel]
    rfl
  · rw [session_cancel]

theorem arm (k : TimerKind) (after : Millis) : Undialled s (t.arm k after) := by
  have hcancel := h.cancel k
  have hactions : (t.arm k after).actions =
      (t.cancel k).actions ++ [.armTimer k t.nextToken after] := by
    rw [actions_arm, actions_cancel]
  refine hcancel.extend ?_ (.inl ?_) hactions (by simp [Action.dials])
  · rw [session_arm, session_cancel]
    rfl
  · rw [session_arm, session_cancel]

theorem close {reason : CloseReason} (hr : (Action.close reason).dials = false) :
    Undialled s (t.close reason) := by
  refine h.extend ?_ (.inr ?_) ((actions_close t reason).trans (List.append_assoc ..))
    fun a ha => ?_
  · rw [session_close]
    rfl
  · rw [session_close]
    exact nofun
  · rcases List.mem_append.mp ha with ha | ha
    · exact dials_of_mem_cancellations ha
    · rwa [List.mem_singleton.mp ha]

theorem refuse (e : EstablishmentError) {reason : CloseReason}
    (hr : (Action.close reason).dials = false) : Undialled s (t.refuse e reason) :=
  (h.send _).close hr

theorem formatError : Undialled s t.formatError := by
  unfold Turn.formatError
  cases t.session.state <;> dsimp only
  · exact h.close rfl
  · exact h.close rfl
  · exact (h.send _).close rfl
  · exact (h.send _).close rfl
  · exact (h.send _).close rfl

theorem routeFromLocal (m : Message) : Undialled s (t.routeFromLocal m) := by
  unfold Turn.routeFromLocal
  split
  all_goals first
    | exact h.send m
    | exact h.note _

theorem routeFromNetwork (m : Message) (kind : MessageKind) :
    Undialled s (t.routeFromNetwork m kind) := by
  unfold Turn.routeFromNetwork
  split
  all_goals first
    | exact h.act rfl
    | exact h.note _

theorem awaitOpen : Undialled s t.awaitOpen := (h.arm _ _).enter _ nofun

theorem awaitAnswer : Undialled s t.awaitAnswer := (h.arm _ _).enter _ nofun

theorem greet : Undialled s t.greet := (h.change rfl rfl).send _

theorem restartDeadTimer : Undialled s t.restartDeadTimer := by
  unfold Turn.restartDeadTimer
  split
  · exact h.arm _ _
  · exact h

theorem startKeepalives : Undialled s t.startKeepalives := by
  unfold Turn.startKeepalives
  split
  · exact h
  · simp only
    split
    · exact (h.change rfl rfl).arm _ _
    · exact h.change rfl rfl

theorem flush : Undialled s t.flush := by
  refine h.extend ?_ (.inl ?_) (actions_flush t) fun a ha => ?_
  · rw [session_flush]
    rfl
  · rw [session_flush]
  · obtain ⟨m, -, rfl⟩ := List.mem_map.mp ha
    rfl

theorem established : Undialled s (t.act .established) := h.act rfl

theorem enterUp : Undialled s t.enterUp :=
  ((h.enter .sessionUp nofun).startKeepalives.restartDeadTimer.note _).established.flush

/-! ### Negotiating -/

theorem consider (o : OpenObject) : Undialled s (t.consider o) := by
  unfold Turn.consider
  split
  · unfold Turn.accept
    simp only
    have haccepted := ((((h.note (.proposalAccepted o)).change
      (f := fun s => { s with peerKeepalive := o.keepalive, peerDeadTimer := o.deadTimer })
      rfl rfl).send keepaliveMessage).change (f := fun s => { s with remoteOk := true }) rfl
      rfl).cancel .openWait
    split
    · exact haccepted.enterUp
    · exact haccepted.awaitAnswer
  · split
    · unfold Turn.counter
      simp only
      split
      · exact (((h.change rfl rfl).note _).send _).awaitOpen
      · exact ((((h.change rfl rfl).note _).send _).cancel _).awaitAnswer
    · exact (h.note _).refuse _ rfl
  · exact (h.note _).refuse _ rfl

theorem inOpenWait (m : Message) : Undialled s (t.inOpenWait m) := by
  unfold Turn.inOpenWait
  split
  · exact (h.note _).formatError
  · split
    · exact (h.note _).formatError
    · exact h.consider _
    · exact h.formatError
  · exact (h.note _).close rfl

theorem accepted : Undialled s t.accepted := by
  unfold Turn.accepted
  simp only
  split
  · exact ((h.change rfl rfl).cancel _).enterUp
  · exact ((h.change rfl rfl).cancel _).awaitOpen

theorem adopt (proposal : OpenObject) : Undialled s (t.adopt proposal) := by
  unfold Turn.adopt
  simp only
  split
  · exact (((h.note _).change rfl rfl).send _).awaitAnswer
  · exact ((((h.note _).change rfl rfl).send _).cancel _).awaitOpen

theorem inKeepWait (m : Message) : Undialled s (t.inKeepWait m) := by
  unfold Turn.inKeepWait
  split
  · exact (h.note _).formatError
  · split
    · split
      · exact (h.note _).formatError
      · exact h.accepted
      · split
        · exact h.adopt _
        · exact (h.note _).refuse _ rfl
      · exact h.close rfl
    · exact (h.note _).close rfl

theorem inSessionUp (m : Message) : Undialled s (t.inSessionUp m) := by
  unfold Turn.inSessionUp
  split
  · exact (h.note _).formatError
  · simp only
    split
    · exact h.restartDeadTimer.note _
    · exact h.restartDeadTimer.note _
    · exact (h.restartDeadTimer.note _).close rfl
    · exact h.restartDeadTimer.routeFromNetwork _ _
    · exact h.restartDeadTimer.routeFromNetwork _ _

/-! ### Events -/

theorem fromNetwork (m : Message) : Undialled s (t.fromNetwork m) := by
  unfold Turn.fromNetwork
  split
  · exact h.inOpenWait m
  · exact h.inKeepWait m
  · exact h.inSessionUp m
  · exact h.note _
  · exact h.note _

theorem fromLocal (m : Message) : Undialled s (t.fromLocal m) := by
  unfold Turn.fromLocal
  split
  · exact h.routeFromLocal m
  · split
    · exact (h.note _).change rfl rfl
    · exact h.note _

theorem expire {kind : TimerKind} (hs : kind = .connect → t.session.state ≠ .tcpPending) :
    Undialled s (t.expire kind) := by
  have hnoted := h.note (.expired t.session.state kind)
  unfold Turn.expire
  cases kind with
  | connect =>
    dsimp only
    rw [if_neg (by simpa using hs rfl)]
    exact hnoted
  | openWait => exact (hnoted.note _).refuse _ rfl
  | keepWait => exact (hnoted.note _).refuse _ rfl
  | deadTimer => exact ((hnoted.note _).send _).close rfl
  | keepAlive => exact (hnoted.send _).arm _ _

theorem transportUp : Undialled s t.transportUp := by
  unfold Turn.transportUp
  split
  · exact (h.greet.cancel _).awaitOpen
  · exact h.note _

end Undialled

/-- A turn of an acceptor that has asked for no connection. -/
structure Grounded (t : Turn) : Prop where
  acceptor : t.session.initiator = false
  still : .connect ∉ t.actions

theorem Undialled.grounded {s : Session} {t : Turn} (h : Undialled s t)
    (hs : s.initiator = false) : t.Grounded :=
  ⟨(congrArg Dial.initiator h.dial).trans hs, h.not_connect⟩

end Turn

namespace Session

variable {s : Session}

theorem undialled_start (s : Session) (n : TimerToken) : Turn.Undialled s (.start s n) :=
  ⟨rfl, id, nofun⟩

/-- Unless an event tells of a failed connect, the session neither asks for a connection nor gives
up. -/
theorem undialled_handle (n : TimerToken) {e : SessionEvent} (he : s.failsAt e = false) :
    (s.handle n e).Undialled s := by
  have hstart := undialled_start s n
  simp only [handle]
  split
  · exact hstart.note _
  · cases e with
    | accepted => exact hstart.note _
    | connectRequested => exact hstart.note _
    | transportUp => exact hstart.transportUp
    | transportFailed =>
      have hs := state_ne_of_not_failsAt (.inl rfl) he
      rw [Turn.take, Turn.session_start, if_neg hs]
      exact hstart
    | connectionLost =>
      have hs := state_ne_of_not_failsAt (.inr rfl) he
      rw [Turn.take, Turn.session_start, if_neg hs]
      exact hstart.close rfl
    | framingFailed => exact (hstart.note _).formatError
    | network m => exact hstart.fromNetwork m
    | fromLocal m => exact hstart.fromLocal m
    | timerExpired kind token =>
      simp only [Turn.take]
      split
      · rename_i hk
        refine (hstart.change rfl rfl).expire ?_
        rintro rfl hs
        exact get_connect_ne_of_not_failsAt (s := s) hs he hk
      · exact hstart.note _
    | closeRequested =>
      simp only [Turn.take]
      split
      · exact (hstart.send _).close rfl
      · exact hstart.close rfl

/-- The turn when a connect has failed.  The timer for it may have run out. -/
theorem handle_of_fails (hc : s.closed = false) (n : TimerToken) {e : SessionEvent}
    (he : s.failsAt e = true) : ∃ (t : Turn) (timers : TimerSlots),
      s.handle n e = t.connectFailed ∧ t.session = { s with timers } ∧ t.actions = [] := by
  obtain ⟨hs, he⟩ := Bool.and_eq_true_iff.mp he
  replace hs : s.state = .tcpPending := of_decide_eq_true hs
  have hturn : s.handle n e = (Turn.start s n).take e := by simp [handle, hc]
  rw [hturn]
  cases e with
  | transportFailed => exact ⟨.start s n, s.timers, if_pos hs, rfl, rfl⟩
  | connectionLost => exact ⟨.start s n, s.timers, if_pos hs, rfl, rfl⟩
  | timerExpired kind token =>
    cases kind with
    | connect =>
      have hk : (Turn.start s n).session.timers.get .connect = some token := of_decide_eq_true he
      exact ⟨_, _, (if_pos hk).trans (if_pos hs), rfl, rfl⟩
    | _ => cases he
  | _ => cases he

theorem grounded_start (hs : s.initiator = false) (n : TimerToken) : (s.start n).Grounded := by
  simp only [start]
  rw [if_neg (by simp [hs])]
  exact (undialled_start s n).greet.awaitOpen.grounded hs

/-- An acceptor never asks for a connection. -/
theorem grounded_handle (h : s.Phase) (hs : s.initiator = false) (n : TimerToken)
    (e : SessionEvent) : (s.handle n e).Grounded := by
  -- it never waits for a connection to come up
  have hstate : s.state ≠ .tcpPending := fun hpending => by
    rw [(h.of_tcpPending hpending).1.initiator] at hs
    cases hs
  exact (undialled_handle n (failsAt_of_ne hstate e)).grounded hs

end Session

end PathSession
