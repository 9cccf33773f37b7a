import PathSession.Proofs.Session.Outcome

/-!
# The pace of a session

A timer supervises what a session waits for, and is restarted whenever that begins anew: a connect,
the wait for an OPEN or for an answer, the quiet of the peer, the next KEEPALIVE.  No turn misses
such a restart, and none makes one more.

* `Action.armings`: the timers that actions arm, and how long for;
* `Beat`: a turn with the event it answers, and what it shows of the session;
* `Beat.Restarts`, `Session.lasts`: what restarts a timer, and how long it runs then;
* `Pace`, `Paced`: all that a session which goes on can do about its timers in a turn;
* `Session.paced_start`, `Session.paced_handle`: it does one of these;
* `Paced.arms_iff`: a timer is armed exactly when it is restarted, and for as long as it lasts.
-/

namespace PathSession

/-! ### What actions arm -/

namespace Action

/-- The timer that an action arms and how long for, if it does. -/
def arming? : Action → Option (TimerKind × Millis)
  | armTimer kind _ after => some (kind, after)
  | _ => none

/-- The timers that actions arm and how long for, in order. -/
def armings (actions : List Action) : List (TimerKind × Millis) := actions.filterMap arming?

variable (as bs : List Action)

@[simp] theorem armings_nil : armings [] = [] := rfl
@[simp] theorem armings_append : armings (as ++ bs) = armings as ++ armings bs :=
  List.filterMap_append
@[simp] theorem armings_armTimer (kind : TimerKind) (token : TimerToken) (after : Millis) :
    armings (armTimer kind token after :: as) = (kind, after) :: armings as := rfl
@[simp] theorem armings_connect : armings (connect :: as) = armings as := rfl
@[simp] theorem armings_send (m : Message) : armings (send m :: as) = armings as := rfl
@[simp] theorem armings_deliver (m : Message) : armings (deliver m :: as) = armings as := rfl
@[simp] theorem armings_established : armings (established :: as) = armings as := rfl
@[simp] theorem armings_close (reason : CloseReason) : armings (close reason :: as) = armings as :=
  rfl

@[simp] theorem armings_cancels (kind : TimerKind) (token : Option TimerToken) :
    armings (cancels kind token) = [] := by
  cases token <;> rfl

@[simp] theorem armings_map_send (ms : List Message) : armings (ms.map send) = [] := by
  induction ms with
  | nil => rfl
  | cons m ms ih => exact ih

variable {as}

theorem mem_armings {kind : TimerKind} {after : Millis} :
    (kind, after) ∈ armings as ↔ ∃ token, .armTimer kind token after ∈ as := by
  rw [armings, List.mem_filterMap]
  constructor
  · rintro ⟨a, ha, harms⟩
    cases a with
    | armTimer kind' token after' =>
      cases harms
      exact ⟨token, ha⟩
    | _ => cases harms
  · rintro ⟨token, ha⟩
    exact ⟨_, ha, rfl⟩

end Action

namespace Ledger

variable {l l' : Ledger} {actions : List Action} {kind : TimerKind} {token : TimerToken}

/-- A token is in its slot since before, if no timer of that kind is armed, or it was handed out for
one that is. -/
theorem origin (h : l.enterAll? actions = some l') (hk : l'.slots.get kind = some token) :
    (l.slots.get kind = some token ∧ ∀ token' after, .armTimer kind token' after ∉ actions) ∨
      l.next ≤ token ∧ ∃ after, .armTimer kind token after ∈ actions := by
  induction actions generalizing l with
  | nil =>
    cases h
    exact .inl ⟨hk, by simp⟩
  | cons a actions ih =>
    rw [enterAll?_cons] at h
    obtain ⟨l₁, hl₁, h⟩ := Option.bind_eq_some_iff.mp h
    rcases ih h with ⟨hslot, hnone⟩ | ⟨hle, after, hmem⟩
    · rcases enter?_cases hl₁ with ⟨k, after, rfl, -, rfl⟩ | ⟨k, token', rfl, -, rfl⟩ | ⟨hne, rfl⟩
      · rw [TimerSlots.get_set] at hslot
        split at hslot
        · rename_i hkind
          cases hslot
          exact .inr ⟨Nat.le_refl _, after, by rw [hkind]; exact List.mem_cons_self⟩
        · rename_i hkind
          exact .inl ⟨hslot, by simpa [hkind] using hnone⟩
      · rw [TimerSlots.get_set] at hslot
        split at hslot
        · cases hslot
        · exact .inl ⟨hslot, by simpa using hnone⟩
      · refine .inl ⟨hslot, fun token' after hmem => ?_⟩
        rcases List.mem_cons.mp hmem with heq | hmem
        · exact hne _ _ _ heq.symm
        · exact hnone _ _ hmem
    · refine .inr ⟨Nat.le_trans ?_ hle, after, List.mem_cons_of_mem _ hmem⟩
      rcases enter?_cases hl₁ with ⟨k, after, -, -, rfl⟩ | ⟨k, token', -, -, rfl⟩ | ⟨-, rfl⟩
      · exact Nat.le_succ _
      · exact Nat.le_refl _
      · exact Nat.le_refl _

end Ledger

/-! ### Beats -/

/-- A turn with the session that takes it and the event it answers. -/
structure Beat where
  session : Session
  event : SessionEvent
  turn : Turn

namespace Beat

variable (b : Beat)

/-- The session comes to a state. -/
def Enters (target : State) : Prop :=
  b.session.state ≠ target ∧ b.turn.session.state = target

/-- The session was in a state and still is. -/
def Stays (state : State) : Prop := b.session.state = state ∧ b.turn.session.state = state

/-- The session asks for a connect. -/
def Connects : Prop := .connect ∈ b.turn.actions

/-- The session sends a counter proposal. -/
def Counters : Prop := ∃ o : OpenObject,
  .send ((ErrorObject.establishment .negotiable).message (some o)) ∈ b.turn.actions

/-- The peer sends a counter proposal that the session takes over. -/
def Adopts : Prop :=
  ∃ m e proposal o, b.event = .network m ∧ m.content = .ok (.error e proposal) ∧
    Turn.adoptable b.session.settings.policy e proposal = some o

/-- The session receives a well-formed message. -/
def Hears : Prop := ∃ m c, b.event = .network m ∧ m.content = .ok c

/-- The messages that the session sends while it is up, in order. -/
def said : List Message :=
  Action.sent (if b.session.state = .sessionUp then b.turn.actions
    else Action.sinceUp b.turn.actions)

/-- The KEEPALIVEs that the session sends while it is up. -/
def keepalives : List Message := b.said.filter (·.kind? = some .keepalive)

/-- What a timer is restarted by. -/
def Restarts : TimerKind → Prop
  | .connect => b.Connects
  | .openWait => b.Enters .openWait ∨ b.Stays .openWait ∧ b.Counters
  | .keepWait => b.Enters .keepWait ∨ b.Stays .keepWait ∧ b.Adopts
  | .keepAlive => b.Enters .sessionUp ∨ b.keepalives ≠ []
  | .deadTimer => b.Hears

variable {b}

/-- A session that does not come up sends no KEEPALIVE as one that is. -/
theorem keepalives_of_not_up (hs : b.session.state ≠ .sessionUp)
    (h : .established ∉ b.turn.actions) : b.keepalives = [] := by
  rw [keepalives, said, if_neg hs, Action.sinceUp_eq_nil h]
  rfl

/-- A session that stays up without a KEEPALIVE lets its keepalive timer run. -/
theorem not_restarts_keepAlive (hup : b.Stays .sessionUp) (hsilent : b.keepalives = []) :
    ¬ b.Restarts .keepAlive := by
  rintro (henters | hsaid)
  · exact henters.1 hup.1
  · exact hsaid hsilent

theorem restarts_keepAlive {m : Message} (hsaid : b.keepalives = [m]) :
    b.Restarts .keepAlive := .inr (by rw [hsaid]; exact List.cons_ne_nil _ _)

theorem not_hears_of_expired {kind : TimerKind} {token : TimerToken}
    (hevent : b.event = .timerExpired kind token) : ¬ b.Hears := by
  rintro ⟨m, c, hm, -⟩
  rw [hevent] at hm
  cases hm

end Beat

/-- How long a timer runs once it is restarted. -/
def Session.lasts (s : Session) : TimerKind → Millis
  | .connect => s.settings.connectTimeout
  | .openWait => s.settings.openWait
  | .keepWait => s.settings.keepWait
  | .keepAlive => .ofSeconds s.keepalive.toNat
  | .deadTimer => .ofSeconds s.peerDeadTimer.toNat

/-! ### The pace -/

/-- All that a session which goes on can do about its timers in a turn, with those that it arms. -/
inductive Pace (b : Beat) : List TimerKind → Prop
  | waits (hs : b.session.state ≠ .sessionUp) (hsame : b.turn.session.state = b.session.state)
      (hactions : b.turn.actions = []) (hadopts : b.session.state = .keepWait → ¬ b.Adopts) :
      Pace b []
  | connects (hs : b.session.state ≠ .sessionUp) (hafter : b.turn.session.state = .tcpPending)
      (hsilent : .established ∉ b.turn.actions) (hconnects : b.Connects) : Pace b [.connect]
  | awaitsOpen (hs : b.session.state ≠ .sessionUp) (hafter : b.turn.session.state = .openWait)
      (hsilent : .established ∉ b.turn.actions)
      (hagain : b.session.state = .openWait → b.Counters) : Pace b [.openWait]
  | awaitsAnswer (hs : b.session.state ≠ .sessionUp) (hafter : b.turn.session.state = .keepWait)
      (hsilent : .established ∉ b.turn.actions)
      (hagain : b.session.state = .keepWait → b.Adopts) : Pace b [.keepWait]
  | comesUp (hs : b.session.state ≠ .sessionUp) (hafter : b.turn.session.state = .sessionUp)
      (hhears : b.Hears) (hsilent : b.keepalives = []) :
      Pace b ((if 0 < b.turn.session.keepalive then [.keepAlive] else []) ++
        if 0 < b.turn.session.peerDeadTimer then [.deadTimer] else [])
  | hears (hup : b.Stays .sessionUp) (hhears : b.Hears) (hsilent : b.keepalives = []) :
      Pace b (if 0 < b.turn.session.peerDeadTimer then [.deadTimer] else [])
  | relays (hup : b.Stays .sessionUp) (hdeaf : ¬ b.Hears) (hsilent : b.keepalives = []) : Pace b []
  | beats (hup : b.Stays .sessionUp) (token : TimerToken)
      (hevent : b.event = .timerExpired .keepAlive token)
      (harmed : b.session.timers.get .keepAlive = some token)
      (hsaid : b.keepalives = [keepaliveMessage]) : Pace b [.keepAlive]

/-- A turn of a session that goes on at its pace.  What was agreed stays so while it is up. -/
structure Paced (b : Beat) : Prop where
  settings : b.turn.session.settings = b.session.settings
  agreed : b.session.state = .sessionUp → b.turn.session.keepalive = b.session.keepalive ∧
    b.turn.session.peerDeadTimer = b.session.peerDeadTimer
  pace : ∃ kinds, Pace b kinds ∧
    Action.armings b.turn.actions = kinds.map fun k => (k, b.turn.session.lasts k)

/-! ### Handler by handler -/

/-- No role hands on a KEEPALIVE. -/
theorem Role.kind_ne_keepalive_of_forwards {role : Role} {m : Message}
    (h : role.forwards m = true) : m.kind? ≠ some .keepalive := by
  intro hk
  simp [Role.forwards, Message.kind, hk] at h

namespace Turn

/-- A turn under way that has armed nothing and does not come up. -/
structure Unarmed (s : Session) (t : Turn) : Prop where
  settings : t.session.settings = s.settings
  armings : Action.armings t.actions = []
  established : .established ∉ t.actions

variable {s : Session} {t : Turn} {e : SessionEvent}

theorem armings_startKeepalives (hu : t.session.keepaliveStarted = false) :
    Action.armings t.startKeepalives.actions = Action.armings t.actions ++
      (if 0 < t.session.keepalive then [.keepAlive] else []).map
        fun k => (k, t.session.lasts k) := by
  unfold startKeepalives
  rw [hu]
  by_cases hk : 0 < t.session.keepalive <;> simp [hk, Session.lasts]

theorem armings_restartDeadTimer : Action.armings t.restartDeadTimer.actions =
    Action.armings t.actions ++
      (if 0 < t.session.peerDeadTimer then [.deadTimer] else []).map
        fun k => (k, t.session.lasts k) := by
  unfold restartDeadTimer
  by_cases hd : 0 < t.session.peerDeadTimer <;> simp [hd, Session.lasts]

namespace Unarmed

variable (h : Unarmed s t)
include h

theorem note (n : Note) : Unarmed s (t.note n) := ⟨h.settings, h.armings, h.established⟩

theorem change {f : Session → Session} (hf : (f t.session).settings = t.session.settings) :
    Unarmed s (t.change f) :=
  ⟨hf.trans h.settings, h.armings, h.established⟩

theorem act {a : Action} (harming : Action.armings [a] = []) (hup : a ≠ .established) :
    Unarmed s (t.act a) where
  settings := h.settings
  armings := by rw [actions_act, Action.armings_append, h.armings, harming, List.append_nil]
  established := by simpa [Ne.symm hup] using h.established

theorem send (m : Message) : Unarmed s (t.send m) := h.act rfl nofun

theorem cancel (k : TimerKind) : Unarmed s (t.cancel k) where
  settings := by simpa using h.settings
  armings := by simpa using h.armings
  established := by simpa using h.established

theorem sendOpen : Unarmed s t.sendOpen := h.send _

theorem greet : Unarmed s t.greet := (h.change rfl).send _

theorem awaitOpen (hs : s.state ≠ .sessionUp) (hagain : s.state = .openWait →
      ∃ o, .send ((ErrorObject.establishment .negotiable).message (some o)) ∈ t.actions) :
    Paced ⟨s, e, t.awaitOpen⟩ where
  settings := by simpa [Turn.awaitOpen] using h.settings
  agreed hup := absurd hup hs
  pace := by
    refine ⟨_, .awaitsOpen hs (by simp [Turn.awaitOpen]) ?_ fun hstate => ?_, ?_⟩
    · simpa [actions_awaitOpen] using h.established
    · obtain ⟨o, ho⟩ := hagain hstate
      exact ⟨o, by simp [actions_awaitOpen, ho]⟩
    · simp [h.armings, Turn.awaitOpen, Session.lasts]

theorem awaitAnswer (hs : s.state ≠ .sessionUp)
    (hagain : s.state = .keepWait → Beat.Adopts ⟨s, e, t.awaitAnswer⟩) :
    Paced ⟨s, e, t.awaitAnswer⟩ where
  settings := by simpa [Turn.awaitAnswer] using h.settings
  agreed hup := absurd hup hs
  pace := by
    refine ⟨_, .awaitsAnswer hs (by simp [Turn.awaitAnswer]) ?_ hagain, ?_⟩
    · simpa [actions_awaitAnswer] using h.established
    · simp [h.armings, Turn.awaitAnswer, Session.lasts]

theorem enterUp (hu : t.session.keepaliveStarted = false) (hs : s.state ≠ .sessionUp)
    (hhears : Beat.Hears ⟨s, e, t.enterUp⟩) : Paced ⟨s, e, t.enterUp⟩ := by
  obtain ⟨timers, hsession, -⟩ := session_enterUp hu
  obtain ⟨arms, hactions, -, hnot⟩ := actions_enterUp hu
  refine ⟨?_, fun hup => absurd hup hs, _, .comesUp hs ?_ hhears ?_, ?_⟩
  · rw [hsession]
    exact h.settings
  · rw [hsession]
  · -- all that follows is what the role hands on
    have hsince : Action.sinceUp t.enterUp.actions = .established ::
        (t.session.outbound.filter t.session.role.forwards).map .send := by
      rw [hactions, Action.sinceUp_of_notMem (by simp [h.established, hnot])]
      rfl
    rw [Beat.keepalives, Beat.said, if_neg hs, hsince, Action.sent_established,
      Action.sent_map_send, List.filter_eq_nil_iff]
    intro m hm
    have hkind := Role.kind_ne_keepalive_of_forwards (List.mem_filter.mp hm).2
    simpa using hkind
  · have hu' : (t.enter .sessionUp).session.keepaliveStarted = false := hu
    have harmings : Action.armings t.enterUp.actions = Action.armings
        ((t.enter .sessionUp).startKeepalives.restartDeadTimer).actions := by
      simp [Turn.enterUp]
    rw [harmings, armings_restartDeadTimer, armings_startKeepalives hu', actions_enter, h.armings,
      session_startKeepalives hu', hsession, List.nil_append, List.map_append]
    rfl

end Unarmed

/-- An event that finds nothing to do. -/
theorem paced_idle (ha : t.actions = []) (hstate : t.session.state = s.state)
    (hsettings : t.session.settings = s.settings)
    (hagreed : t.session.keepalive = s.keepalive ∧ t.session.peerDeadTimer = s.peerDeadTimer)
    (he : ∀ m, e = .network m → s.state = .tcpPending) : Paced ⟨s, e, t⟩ := by
  refine ⟨hsettings, fun _ => hagreed, [], ?_, by rw [ha]; rfl⟩
  by_cases hup : s.state = .sessionUp
  · refine .relays ⟨hup, hstate.trans hup⟩ ?_ ?_
    · rintro ⟨m, c, hm, -⟩
      rw [he m hm] at hup
      cases hup
    · rw [Beat.keepalives, Beat.said, if_pos hup, ha]
      rfl
  · refine .waits hup hstate ha fun hkeep => ?_
    rintro ⟨m, e', proposal, o, hm, -⟩
    rw [show s.state = .keepWait from hkeep] at he
    cases he m hm

section Handlers

variable (ha : t.actions = [])
include ha

theorem unarmed_of_nil : Unarmed t.session t := ⟨rfl, by rw [ha]; rfl, by simp [ha]⟩

/-! #### Received messages -/

theorem paced_accept (h : t.session.Phase) (hs : t.session.state = .openWait) {m : Message}
    {o : OpenObject} (hm : m.content = .ok (.opening o)) :
    Paced ⟨t.session, .network m, t.accept o⟩ := by
  obtain ⟨hn, -, -⟩ := h.of_openWait hs
  have hup : t.session.state ≠ .sessionUp := by rw [hs]; decide
  have hgranted := ((((unarmed_of_nil ha).note (.proposalAccepted o)).change
    (f := fun s => { s with peerKeepalive := o.keepalive, peerDeadTimer := o.deadTimer })
    rfl).send keepaliveMessage).change (f := fun s => { s with remoteOk := true }) rfl
    |>.cancel .openWait
  unfold accept
  simp only
  split
  · exact hgranted.enterUp (by simpa using hn.unstarted) hup ⟨m, _, rfl, hm⟩
  · exact hgranted.awaitAnswer hup fun hkeep => by rw [hs] at hkeep; cases hkeep

theorem paced_counter (hs : t.session.state = .openWait) (m : Message) (o : OpenObject) :
    Paced ⟨t.session, .network m, t.counter o⟩ := by
  have hup : t.session.state ≠ .sessionUp := by rw [hs]; decide
  have hcounted := (unarmed_of_nil ha).change
    (f := fun s => { s with openRetries := s.openRetries + 1 }) rfl
  unfold counter
  simp only
  split
  · exact ((hcounted.note _).send _).awaitOpen hup fun _ =>
      ⟨_, List.mem_append_right _ List.mem_cons_self⟩
  · exact (((hcounted.note _).send _).cancel _).awaitAnswer hup fun hkeep => by
      rw [hs] at hkeep
      cases hkeep

theorem paced_inOpenWait (h : t.session.Phase) (hs : t.session.state = .openWait) (m : Message) :
    Paced ⟨t.session, .network m, t.inOpenWait m⟩ ∨ (t.inOpenWait m).session.closed = true := by
  unfold inOpenWait
  split
  · exact .inr (by rw [session_formatError]; rfl)
  · split
    · exact .inr (by rw [session_formatError]; rfl)
    · rename_i o hm
      unfold consider
      split
      · exact .inl (paced_accept ha h hs hm)
      · split
        · exact .inl (paced_counter ha hs m o)
        · exact .inr (by rw [session_refuse]; rfl)
      · exact .inr (by rw [session_refuse]; rfl)
    · exact .inr (by rw [session_formatError]; rfl)
  · exact .inr (by rw [session_close]; rfl)

theorem paced_accepted (h : t.session.Phase) (hs : t.session.state = .keepWait) {m : Message}
    (hm : m.content = .ok .keepalive) : Paced ⟨t.session, .network m, t.accepted⟩ := by
  obtain ⟨hn, -, -⟩ := h.of_keepWait hs
  have hup : t.session.state ≠ .sessionUp := by rw [hs]; decide
  have hgranted := ((unarmed_of_nil ha).change
    (f := fun s => { s with localOk := true }) rfl).cancel .keepWait
  unfold accepted
  simp only
  split
  · exact hgranted.enterUp (by simpa using hn.unstarted) hup ⟨m, _, rfl, hm⟩
  · exact hgranted.awaitOpen hup fun hopen => by rw [hs] at hopen; cases hopen

theorem paced_adopt (hs : t.session.state = .keepWait) {m : Message} {e : ErrorObject}
    {proposal : Option OpenObject} {o : OpenObject} (hm : m.content = .ok (.error e proposal))
    (ho : adoptable t.session.settings.policy e proposal = some o) :
    Paced ⟨t.session, .network m, t.adopt o⟩ := by
  have hup : t.session.state ≠ .sessionUp := by rw [hs]; decide
  have hrevised := (((unarmed_of_nil ha).note (.adopted o)).change
    (f := fun s => { s with keepalive := o.keepalive, deadTimer := o.deadTimer }) rfl).sendOpen
  unfold adopt
  simp only
  split
  · exact hrevised.awaitAnswer hup fun _ => ⟨m, e, proposal, o, rfl, hm, ho⟩
  · exact (hrevised.cancel _).awaitOpen hup fun hopen => by rw [hs] at hopen; cases hopen

theorem paced_inKeepWait (h : t.session.Phase) (hs : t.session.state = .keepWait) (m : Message) :
    Paced ⟨t.session, .network m, t.inKeepWait m⟩ ∨ (t.inKeepWait m).session.closed = true := by
  unfold inKeepWait
  split
  · exact .inr (by rw [session_formatError]; rfl)
  · split
    · split
      · exact .inr (by rw [session_formatError]; rfl)
      · rename_i hm
        exact .inl (paced_accepted ha h hs hm)
      · rename_i e proposal hm
        split
        · rename_i o ho
          exact .inl (paced_adopt ha hs hm ho)
        · exact .inr (by rw [session_refuse]; rfl)
      · exact .inr (by rw [session_close]; rfl)
    · exact .inr (by rw [session_close]; rfl)

/-- A session that is up restarts its dead timer for a well-formed message, and sends nothing. -/
theorem paced_hears (hs : t.session.state = .sessionUp) {m : Message} {c : Content}
    (hm : m.content = .ok c) {t' : Turn} (hsession : t'.session = t.restartDeadTimer.session)
    (hactions : ∃ as, t'.actions = t.restartDeadTimer.actions ++ as ∧ Action.armings as = [] ∧
      Action.sent as = []) : Paced ⟨t.session, .network m, t'⟩ := by
  obtain ⟨as, hactions, harmings, hsent⟩ := hactions
  rw [session_restartDeadTimer] at hsession
  refine ⟨by rw [hsession], fun _ => by rw [hsession]; exact ⟨rfl, rfl⟩, _,
    .hears ⟨hs, by rw [hsession]; exact hs⟩ ⟨m, c, rfl, hm⟩ ?_, ?_⟩
  · rw [Beat.keepalives, Beat.said, if_pos hs, hactions, Action.sent_append, hsent,
      sent_restartDeadTimer, ha]
    rfl
  · rw [hactions, Action.armings_append, harmings, armings_restartDeadTimer, ha, hsession]
    exact List.append_nil _

theorem paced_inSessionUp (hs : t.session.state = .sessionUp) (m : Message) :
    Paced ⟨t.session, .network m, t.inSessionUp m⟩ ∨ (t.inSessionUp m).session.closed = true := by
  unfold inSessionUp
  split
  · exact .inr (by rw [session_formatError]; rfl)
  · rename_i c hm
    have hroute : ∀ kind,
        Paced ⟨t.session, .network m, t.restartDeadTimer.routeFromNetwork m kind⟩ := fun kind =>
      paced_hears ha hs hm (session_routeFromNetwork ..) ⟨_, actions_routeFromNetwork .., by
        split <;> rfl, by split <;> rfl⟩
    simp only
    split
    · exact .inl (paced_hears ha hs hm rfl ⟨[], (List.append_nil _).symm, rfl, rfl⟩)
    · exact .inl (paced_hears ha hs hm rfl ⟨[], (List.append_nil _).symm, rfl, rfl⟩)
    · exact .inr (by rw [session_close]; rfl)
    · exact .inl (hroute _)
    · exact .inl (hroute _)

theorem paced_fromNetwork (h : t.session.Phase) (hc : t.session.closed = false) (m : Message) :
    Paced ⟨t.session, .network m, t.fromNetwork m⟩ ∨ (t.fromNetwork m).session.closed = true := by
  unfold fromNetwork
  split
  · rename_i hs
    exact paced_inOpenWait ha h hs m
  · rename_i hs
    exact paced_inKeepWait ha h hs m
  · rename_i hs
    exact paced_inSessionUp ha hs m
  · rename_i hs
    exact absurd hs (h.state_ne_idle hc)
  · rename_i hs
    exact .inl (paced_idle ha rfl rfl ⟨rfl, rfl⟩ fun _ _ => hs)

/-! #### Other events -/

theorem paced_fromLocal (m : Message) : Paced ⟨t.session, .fromLocal m, t.fromLocal m⟩ := by
  unfold fromLocal
  split
  · rename_i hs
    refine ⟨by rw [session_routeFromLocal], fun _ => by
      rw [session_routeFromLocal]; exact ⟨rfl, rfl⟩, [],
      .relays ⟨hs, by rw [session_routeFromLocal]; exact hs⟩ ?_ ?_, ?_⟩
    · rintro ⟨m', c, hm, -⟩
      cases hm
    · rw [Beat.keepalives, Beat.said, if_pos hs, actions_routeFromLocal, ha]
      split
      · rename_i hm
        have hkind := Role.kind_ne_keepalive_of_forwards hm
        simp [hkind]
      · rfl
    · rw [actions_routeFromLocal, ha]
      split <;> rfl
  · split
    · exact paced_idle ha rfl rfl ⟨rfl, rfl⟩ nofun
    · exact paced_idle ha rfl rfl ⟨rfl, rfl⟩ nofun

end Handlers

theorem Unarmed.connectFailed (h : Unarmed s t) (hs : s.state ≠ .sessionUp) :
    Paced ⟨s, e, t.connectFailed⟩ ∨ t.connectFailed.session.closed = true := by
  have hcounted := h.change (f := fun s => { s with connectRetries := s.connectRetries + 1 }) rfl
  unfold Turn.connectFailed
  simp only
  split
  · exact .inr (by rw [session_close]; rfl)
  · have hasked := (hcounted.note
      (.connectRetried (t.session.connectRetries + 1))).act (a := .connect) rfl nofun
    refine .inl ⟨?_, fun hup => absurd hup hs, _, .connects hs rfl ?_ ?_, ?_⟩
    · simpa using h.settings
    · simpa using hasked.established
    · simp [Beat.Connects]
    · simp [h.armings, Session.lasts]

theorem paced_transportUp (ha : t.actions = []) :
    Paced ⟨t.session, .transportUp, t.transportUp⟩ := by
  unfold transportUp
  split
  · rename_i hs
    exact ((unarmed_of_nil ha).greet.cancel _).awaitOpen (by rw [hs]; decide)
      fun hopen => by rw [hs] at hopen; cases hopen
  · exact paced_idle ha rfl rfl ⟨rfl, rfl⟩ nofun

/-- A timer has run out: its slot is empty, and the session connects once more, goes on sending
KEEPALIVEs, or ends. -/
theorem paced_expire (ha : t.actions = []) (h : s.Phase) {kind : TimerKind} {token : TimerToken}
    (hk : s.timers.get kind = some token)
    (hsession : t.session = { s with timers := s.timers.set kind none }) :
    Paced ⟨s, .timerExpired kind token, t.expire kind⟩ ∨ (t.expire kind).session.closed = true := by
  have hstate : s.state = kind.state :=
    h.state_of_timer (Option.isSome_iff_exists.mpr ⟨token, hk⟩)
  have hblank : Unarmed s t := ⟨by rw [hsession], by rw [ha]; rfl, by simp [ha]⟩
  unfold expire
  cases kind with
  | connect =>
    simp only [session_note, hsession, hstate, TimerKind.state, if_true]
    exact (hblank.note _).connectFailed (by rw [hstate]; decide)
  | openWait => exact .inr (by rw [session_refuse]; rfl)
  | keepWait => exact .inr (by rw [session_refuse]; rfl)
  | deadTimer => exact .inr (by rw [session_close]; rfl)
  | keepAlive =>
    replace hstate : s.state = .sessionUp := hstate
    refine .inl ⟨?_, fun _ => ?_, _, .beats ⟨hstate, ?_⟩ token rfl hk ?_, ?_⟩
    · simp [hsession]
    · simp [hsession]
    · simp [hsession, hstate]
    · rw [Beat.keepalives, Beat.said, if_pos hstate]
      simp [ha]
      decide
    · simp [ha, Session.lasts]

end Turn

namespace Session

variable {s : Session}

/-- **The pace of a session.**  A session that is told of an event goes on at its pace, or ends. -/
theorem paced_handle (h : s.Phase) (hc : s.closed = false) (n : TimerToken) (e : SessionEvent) :
    Paced ⟨s, e, s.handle n e⟩ ∨ (s.handle n e).session.closed = true := by
  have hturn : s.handle n e = (Turn.start s n).take e := by simp [handle, hc]
  have hidle : ∀ {e : SessionEvent} {t : Turn}, t.actions = [] → t.session = s →
      (∀ m, e ≠ .network m) → Paced ⟨s, e, t⟩ := fun ht hs he =>
    Turn.paced_idle ht (by rw [hs]) (by rw [hs]) (by rw [hs]; exact ⟨rfl, rfl⟩)
      fun m hm => absurd hm (he m)
  have hblank : Turn.Unarmed s (.start s n) := Turn.unarmed_of_nil (t := .start s n) rfl
  rw [hturn]
  cases e with
  | accepted => exact .inl (hidle rfl rfl (by simp))
  | connectRequested => exact .inl (hidle rfl rfl (by simp))
  | transportUp => exact .inl (Turn.paced_transportUp (t := .start s n) rfl)
  | transportFailed =>
    simp only [Turn.take]
    split
    · rename_i hs
      replace hs : s.state = .tcpPending := hs
      exact hblank.connectFailed (by rw [hs]; decide)
    · exact .inl (hidle rfl rfl (by simp))
  | connectionLost =>
    simp only [Turn.take]
    split
    · rename_i hs
      replace hs : s.state = .tcpPending := hs
      exact hblank.connectFailed (by rw [hs]; decide)
    · exact .inr (by rw [Turn.session_close]; rfl)
  | framingFailed => exact .inr (by rw [Turn.take, Turn.session_formatError]; rfl)
  | network m => exact Turn.paced_fromNetwork (t := .start s n) rfl h hc m
  | fromLocal m => exact .inl (Turn.paced_fromLocal (t := .start s n) rfl m)
  | timerExpired kind token =>
    simp only [Turn.take]
    split
    · rename_i hk
      exact Turn.paced_expire (t := (Turn.start s n).change _) rfl h hk rfl
    · exact .inl (hidle rfl rfl (by simp))
  | closeRequested =>
    simp only [Turn.take]
    exact .inr (by rw [Turn.session_close]; rfl)

/-- A session that starts connects or waits for the peer's OPEN. -/
theorem paced_start (hs : s.state = .idle) (n : TimerToken) (e : SessionEvent) :
    Paced ⟨s, e, s.start n⟩ := by
  have hblank : Turn.Unarmed s (.start s n) := Turn.unarmed_of_nil (t := .start s n) rfl
  have hup : s.state ≠ .sessionUp := by rw [hs]; decide
  simp only [start]
  split
  · refine ⟨?_, fun h => absurd h hup, _, .connects hup rfl ?_ ?_, ?_⟩
    · simp
    · simp
    · simp [Beat.Connects]
    · simp [Session.lasts]
  · exact hblank.greet.awaitOpen hup fun hopen => by rw [hs] at hopen; cases hopen

end Session

/-! ### Restarts -/

namespace Pace

variable {b : Beat} {kinds : List TimerKind} (h : Pace b kinds)
include h

/-- Coming up is the answer to a well-formed message. -/
theorem hears_of_enters (hup : b.Enters .sessionUp) : b.Hears := by
  obtain ⟨hs, hafter⟩ := hup
  cases h with
  | comesUp _ _ hhears => exact hhears
  | waits _ hsame => exact absurd (hsame.symm.trans hafter) hs
  | connects _ hwaits | awaitsOpen _ hwaits | awaitsAnswer _ hwaits =>
    rw [hafter] at hwaits
    cases hwaits
  | hears hup | relays hup | beats hup => exact absurd hup.1 hs

/-- A session that is not up was not before, and sends no KEEPALIVE as one that is. -/
theorem of_not_up (hs : b.turn.session.state ≠ .sessionUp) :
    b.session.state ≠ .sessionUp ∧ b.keepalives = [] := by
  cases h with
  | waits hup _ hactions => exact ⟨hup, Beat.keepalives_of_not_up hup (by simp [hactions])⟩
  | connects hup _ hsilent | awaitsOpen hup _ hsilent | awaitsAnswer hup _ hsilent =>
    exact ⟨hup, Beat.keepalives_of_not_up hup hsilent⟩
  | comesUp _ hafter => exact absurd hafter hs
  | hears hup | relays hup | beats hup => exact absurd hup.2 hs

/-- A timer that a session has afterwards is armed exactly if it is restarted. -/
theorem mem_iff (hphase : b.turn.session.Phase) {kind : TimerKind}
    (hk : (b.turn.session.timers.get kind).isSome) : kind ∈ kinds ↔ b.Restarts kind := by
  obtain ⟨hkind, halive, hdead⟩ := (hphase.timer_iff kind).mp hk
  cases h with
  | waits hs hsame hactions hadopts =>
    rw [hsame] at hkind
    refine iff_of_false List.not_mem_nil fun hrestarts => ?_
    cases kind with
    | connect =>
      rw [Beat.Restarts, Beat.Connects, hactions] at hrestarts
      cases hrestarts
    | openWait =>
      rcases hrestarts with ⟨hne, -⟩ | ⟨-, o, ho⟩
      · exact hne hkind
      · rw [hactions] at ho
        cases ho
    | keepWait =>
      rcases hrestarts with ⟨hne, -⟩ | ⟨-, hadopts'⟩
      · exact hne hkind
      · exact hadopts hkind hadopts'
    | keepAlive | deadTimer => exact hs hkind
  | connects hs hafter hsilent hconnects =>
    rw [hafter] at hkind
    cases kind with
    | connect => exact iff_of_true List.mem_cons_self hconnects
    | _ => cases hkind
  | awaitsOpen hs hafter hsilent hagain =>
    rw [hafter] at hkind
    cases kind with
    | openWait =>
      refine iff_of_true List.mem_cons_self ?_
      by_cases hopen : b.session.state = .openWait
      · exact .inr ⟨⟨hopen, hafter⟩, hagain hopen⟩
      · exact .inl ⟨hopen, hafter⟩
    | _ => cases hkind
  | awaitsAnswer hs hafter hsilent hagain =>
    rw [hafter] at hkind
    cases kind with
    | keepWait =>
      refine iff_of_true List.mem_cons_self ?_
      by_cases hkeep : b.session.state = .keepWait
      · exact .inr ⟨⟨hkeep, hafter⟩, hagain hkeep⟩
      · exact .inl ⟨hkeep, hafter⟩
    | _ => cases hkind
  | comesUp hs hafter hhears hsilent =>
    rw [hafter] at hkind
    cases kind with
    | keepAlive => exact iff_of_true (by simp [halive rfl]) (.inl ⟨hs, hafter⟩)
    | deadTimer => exact iff_of_true (by simp [hdead rfl]) hhears
    | _ => cases hkind
  | hears hstays hhears hsilent =>
    rw [hstays.2] at hkind
    cases kind with
    | keepAlive =>
      exact iff_of_false (by split <;> simp) (Beat.not_restarts_keepAlive hstays hsilent)
    | deadTimer => exact iff_of_true (by simp [hdead rfl]) hhears
    | _ => cases hkind
  | relays hstays hdeaf hsilent =>
    rw [hstays.2] at hkind
    cases kind with
    | keepAlive => exact iff_of_false List.not_mem_nil (Beat.not_restarts_keepAlive hstays hsilent)
    | deadTimer => exact iff_of_false List.not_mem_nil hdeaf
    | _ => cases hkind
  | beats hstays token hevent harmed hsaid =>
    rw [hstays.2] at hkind
    cases kind with
    | keepAlive => exact iff_of_true List.mem_cons_self (Beat.restarts_keepAlive hsaid)
    | deadTimer => exact iff_of_false (by simp) (Beat.not_hears_of_expired hevent)
    | _ => cases hkind

end Pace

namespace Paced

variable {b : Beat} (h : Paced b)
include h

theorem lasts_keepAlive (hup : b.session.state = .sessionUp) :
    b.turn.session.lasts .keepAlive = b.session.lasts .keepAlive := by
  rw [Session.lasts, Session.lasts, (h.agreed hup).1]

section Timers

variable (hphase : b.turn.session.Phase) {kind : TimerKind}
variable (hk : (b.turn.session.timers.get kind).isSome)
include hphase hk

/-- **Restarts are exact.**  A timer of a session that goes on is armed in a turn exactly if the
turn restarts it, and for as long as it lasts. -/
theorem arms_iff (after : Millis) : (kind, after) ∈ Action.armings b.turn.actions ↔
    b.Restarts kind ∧ after = b.turn.session.lasts kind := by
  obtain ⟨kinds, hpace, harmings⟩ := h.pace
  rw [harmings, List.mem_map, ← hpace.mem_iff hphase hk]
  constructor
  · rintro ⟨k, hmem, heq⟩
    cases heq
    exact ⟨hmem, rfl⟩
  · rintro ⟨hmem, rfl⟩
    exact ⟨kind, hmem, rfl⟩

/-- A timer that is not restarted lasts as long as before. -/
theorem lasts_eq (hnot : ¬ b.Restarts kind) :
    b.turn.session.lasts kind = b.session.lasts kind := by
  obtain ⟨kinds, hpace, -⟩ := h.pace
  have hkind : b.turn.session.state = kind.state := hphase.state_of_timer hk
  cases kind with
  | connect | openWait | keepWait => rw [Session.lasts, Session.lasts, h.settings]
  | keepAlive =>
    refine h.lasts_keepAlive ?_
    by_contra hs
    exact hnot (.inl ⟨hs, hkind⟩)
  | deadTimer =>
    have hup : b.session.state = .sessionUp := by
      by_contra hs
      exact hnot (hpace.hears_of_enters ⟨hs, hkind⟩)
    rw [Session.lasts, Session.lasts, (h.agreed hup).2]

end Timers

end Paced

end PathSession
