import PathSession.Proofs.Session.Moves

/-!
# What holds in each state of a session

A session that was started once and then given any events, in any order and with any tokens, has in
each of its states exactly the timers, flags and queue that belong to the state.

* `Session.Reached`: the sessions that can come about;
* `Session.Holds`, `Session.Phase`: the invariant;
* `Session.phase_handle`: one event keeps it;
* `Session.reached_invariant`: it holds of every session that can come about.
-/

namespace PathSession

namespace TimerSlots

variable {s : TimerSlots} {kind : TimerKind}

/-- No timer of another kind is armed. -/
def Only (s : TimerSlots) (kind : TimerKind) : Prop := ∀ k, k ≠ kind → (s.get k).isSome = false

/-- Once the only timer is cancelled, none is left. -/
theorem Only.cleared (h : s.Only kind) (k : TimerKind) :
    ((s.set kind none).get k).isSome = false := by
  by_cases hk : k = kind
  · rw [hk, get_set_self]
    rfl
  · rw [get_set, if_neg hk]
    exact h k hk

/-- Once it is armed again, it is the one that is armed. -/
theorem Only.armed_iff (h : s.Only kind) (token : TimerToken) (k : TimerKind) :
    ((s.set kind (some token)).get k).isSome ↔ k = kind := by
  by_cases hk : k = kind
  · simp [hk]
  · simp [get_set, hk, h k hk]

end TimerSlots

namespace Session

/-- Sessions that were started once and then given events.  Tokens are shared between sessions, so
the next unused one may be any at each event. -/
inductive Reached : Session → Prop
  | start (peer : PeerAddress) (role : Role) (initiator : Bool) (sessionId : UInt8)
      (settings : Settings) (nextToken : TimerToken) :
      Reached ((init peer role initiator sessionId settings).start nextToken).session
  | handle {s : Session} (h : Reached s) (nextToken : TimerToken) (e : SessionEvent) :
      Reached (s.handle nextToken e).session

/-- Exactly the timers of the given kinds are armed. -/
def Arms (s : Session) (p : TimerKind → Prop) : Prop := ∀ k, k ∈ s.timers.armed ↔ p k

/-- What holds of a session in the given state. -/
def Holds (s : Session) : State → Prop
  | .idle => s.closed = true ∧ s.localOk = false ∧ s.remoteOk = false ∧ s.outbound = [] ∧
      s.Arms fun _ => False
  | .tcpPending => s.closed = false ∧ s.keepaliveStarted = false ∧ s.initiator = true ∧
      s.connected = false ∧ s.localOk = false ∧ s.remoteOk = false ∧ s.Arms (· = .connect)
  | .openWait => s.closed = false ∧ s.keepaliveStarted = false ∧ s.connected = true ∧
      s.remoteOk = false ∧ s.Arms (· = .openWait)
  | .keepWait => s.closed = false ∧ s.keepaliveStarted = false ∧ s.connected = true ∧
      s.localOk = false ∧ s.Arms (· = .keepWait)
  | .sessionUp => s.closed = false ∧ s.connected = true ∧ s.localOk = true ∧ s.remoteOk = true ∧
      s.outbound = [] ∧
      s.Arms fun k => k = .keepAlive ∧ 0 < s.keepalive ∨ k = .deadTimer ∧ 0 < s.peerDeadTimer

/-- The invariant of a started session. -/
structure Phase (s : Session) : Prop where
  holds : s.Holds s.state
  server_queue : s.role = .server → s.outbound = []
  openRetries_le : s.openRetries ≤ 1

/-- What is the case while there is no transport yet, the timer aside. -/
structure Connecting (s : Session) : Prop where
  still : s.closed = false
  unstarted : s.keepaliveStarted = false
  initiator : s.initiator = true
  unconnected : s.connected = false
  localOk : s.localOk = false
  remoteOk : s.remoteOk = false
  server_queue : s.role = .server → s.outbound = []
  openRetries_le : s.openRetries ≤ 1

theorem connecting_iff {s : Session} : s.Connecting ↔
    s.closed = false ∧ s.keepaliveStarted = false ∧ s.initiator = true ∧ s.connected = false ∧
      s.localOk = false ∧ s.remoteOk = false ∧ (s.role = .server → s.outbound = []) ∧
      s.openRetries ≤ 1 :=
  ⟨fun h => ⟨h.1, h.2, h.3, h.4, h.5, h.6, h.7, h.8⟩,
    fun ⟨h1, h2, h3, h4, h5, h6, h7, h8⟩ => ⟨h1, h2, h3, h4, h5, h6, h7, h8⟩⟩

/-- What the two waiting states have in common. -/
structure Negotiating (s : Session) : Prop where
  still : s.closed = false
  unstarted : s.keepaliveStarted = false
  connected : s.connected = true
  server_queue : s.role = .server → s.outbound = []
  openRetries_le : s.openRetries ≤ 1

theorem negotiating_iff {s : Session} : s.Negotiating ↔
    s.closed = false ∧ s.keepaliveStarted = false ∧ s.connected = true ∧
      (s.role = .server → s.outbound = []) ∧ s.openRetries ≤ 1 :=
  ⟨fun h => ⟨h.1, h.2, h.3, h.4, h.5⟩, fun ⟨h1, h2, h3, h4, h5⟩ => ⟨h1, h2, h3, h4, h5⟩⟩

/-- The timers armed in a session, read off its slots. -/
theorem arms_iff {s : Session} {p : TimerKind → Prop} :
    s.Arms p ↔ ∀ k, (s.timers.get k).isSome ↔ p k := by
  simp only [Arms, TimerSlots.mem_armed]

theorem Arms.armed_eq_nil {s : Session} (h : s.Arms fun _ => False) : s.timers.armed = [] :=
  List.eq_nil_iff_forall_not_mem.mpr fun k => (h k).mp

theorem Arms.armed_eq_singleton {s : Session} {kind : TimerKind} (h : s.Arms (· = kind)) :
    s.timers.armed = [kind] := by
  have hget : ∀ k, (s.timers.get k).isSome = decide (k = kind) := by
    intro k
    have := arms_iff.mp h k
    by_cases hk : k = kind <;> simp_all
  simp only [TimerSlots.armed, hget, TimerKind.all]
  cases kind <;> rfl

namespace Phase

variable {s : Session} (h : s.Phase)
include h

theorem of_tcpPending (hs : s.state = .tcpPending) :
    s.Connecting ∧ s.timers.Only .connect := by
  obtain ⟨hholds, hq, hr⟩ := h
  rw [hs] at hholds
  obtain ⟨h1, h2, h3, h4, h5, h6, h7⟩ := hholds
  refine ⟨⟨h1, h2, h3, h4, h5, h6, hq, hr⟩, fun k hk => ?_⟩
  simpa [hk] using arms_iff.mp h7 k

theorem of_openWait (hs : s.state = .openWait) :
    s.Negotiating ∧ s.remoteOk = false ∧ s.timers.Only .openWait := by
  obtain ⟨hholds, hq, hr⟩ := h
  rw [hs] at hholds
  obtain ⟨h1, h2, h3, h4, h5⟩ := hholds
  refine ⟨⟨h1, h2, h3, hq, hr⟩, h4, fun k hk => ?_⟩
  simpa [hk] using arms_iff.mp h5 k

theorem of_keepWait (hs : s.state = .keepWait) :
    s.Negotiating ∧ s.localOk = false ∧ s.timers.Only .keepWait := by
  obtain ⟨hholds, hq, hr⟩ := h
  rw [hs] at hholds
  obtain ⟨h1, h2, h3, h4, h5⟩ := hholds
  refine ⟨⟨h1, h2, h3, hq, hr⟩, h4, fun k hk => ?_⟩
  simpa [hk] using arms_iff.mp h5 k

theorem state_ne_idle (hc : s.closed = false) : s.state ≠ .idle := by
  intro hs
  have hholds := h.holds
  rw [hs] at hholds
  rw [hholds.1] at hc
  cases hc

theorem not_up_of_closed (hc : s.closed = true) : s.state ≠ .sessionUp := by
  intro hs
  have hholds := h.holds
  rw [hs] at hholds
  rw [hholds.1] at hc
  cases hc

theorem still_of_up (hs : s.state = .sessionUp) : s.closed = false :=
  Bool.eq_false_iff.mpr fun hc => h.not_up_of_closed hc hs

theorem outbound_of_up (hs : s.state = .sessionUp) : s.outbound = [] := by
  have hholds := h.holds
  rw [hs] at hholds
  exact hholds.2.2.2.2.1

/-- Where the connect timer or the keepalive timer is armed, it tells the state. -/
theorem state_of_armed {kind : TimerKind} (hk : (s.timers.get kind).isSome) :
    kind = .connect ∧ s.state = .tcpPending ∨ kind = .keepAlive ∧ s.state = .sessionUp ∨
      kind = .openWait ∨ kind = .keepWait ∨ kind = .deadTimer := by
  have hholds := h.holds
  -- each state arms timers of its own kinds only
  cases hs : s.state <;> rw [hs] at hholds
  · exact absurd hk (by simpa using arms_iff.mp hholds.2.2.2.2 kind)
  · have := (arms_iff.mp hholds.2.2.2.2.2.2 kind).mp hk
    simp [this]
  · have := (arms_iff.mp hholds.2.2.2.2 kind).mp hk
    simp [this]
  · have := (arms_iff.mp hholds.2.2.2.2 kind).mp hk
    simp [this]
  · rcases (arms_iff.mp hholds.2.2.2.2.2 kind).mp hk with ⟨hkind, -⟩ | ⟨hkind, -⟩ <;>
      simp [hkind]

end Phase

theorem phase_ended {s : Session} (h : s.openRetries ≤ 1) : s.ended.Phase where
  holds := ⟨rfl, rfl, rfl, rfl, arms_iff.mpr fun k => by simp [ended]⟩
  server_queue _ := rfl
  openRetries_le := h

end Session

namespace Turn

open Session

variable {t : Turn}

/-! ### Coming up -/

theorem session_restartDeadTimer (t : Turn) :
    t.restartDeadTimer.session = { t.session with
      timers := if 0 < t.session.peerDeadTimer
        then t.session.timers.set .deadTimer (some t.nextToken) else t.session.timers } := by
  unfold restartDeadTimer
  split <;> simp

theorem session_startKeepalives (h : t.session.keepaliveStarted = false) :
    t.startKeepalives.session = { t.session with
      keepaliveStarted := true
      timers := if 0 < t.session.keepalive
        then t.session.timers.set .keepAlive (some t.nextToken) else t.session.timers } := by
  unfold startKeepalives
  rw [h]
  by_cases hk : 0 < t.session.keepalive <;> simp [hk]

/-- Coming up changes the state, starts the two timers that are wanted and empties the queue. -/
theorem session_enterUp (h : t.session.keepaliveStarted = false) :
    ∃ timers, t.enterUp.session = { t.session with
        state := .sessionUp, keepaliveStarted := true, timers, outbound := [] } ∧
      ∀ k, (timers.get k).isSome ↔ (t.session.timers.get k).isSome ∨
        (k = .keepAlive ∧ 0 < t.session.keepalive ∨
          k = .deadTimer ∧ 0 < t.session.peerDeadTimer) := by
  refine ⟨(t.enter .sessionUp).startKeepalives.restartDeadTimer.session.timers, ?_, fun k => ?_⟩
  · simp [enterUp, session_restartDeadTimer, session_startKeepalives, h]
  · by_cases hk : 0 < t.session.keepalive <;> by_cases hd : 0 < t.session.peerDeadTimer <;>
      cases k <;>
      simp [session_restartDeadTimer, session_startKeepalives, h, hk, hd, TimerSlots.get_set]

/-! ### The invariant, handler by handler -/

/-- Both sides have accepted, no timer is left, and the session comes up. -/
theorem phase_enterUp (h : t.session.Negotiating) (hl : t.session.localOk = true)
    (hr : t.session.remoteOk = true) (ht : ∀ k, (t.session.timers.get k).isSome = false) :
    t.enterUp.session.Phase := by
  obtain ⟨timers, hs, harmed⟩ := session_enterUp h.unstarted
  rw [hs]
  refine ⟨⟨h.still, h.connected, hl, hr, rfl, arms_iff.mpr fun k => ?_⟩, fun _ => rfl,
    h.openRetries_le⟩
  rw [harmed k, ht k]
  simp

theorem phase_awaitOpen (h : t.session.Negotiating) (hr : t.session.remoteOk = false)
    (ht : t.session.timers.Only .openWait) : t.awaitOpen.session.Phase := by
  simp only [awaitOpen, session_enter, session_arm]
  exact ⟨⟨h.still, h.unstarted, h.connected, hr, arms_iff.mpr (ht.armed_iff _)⟩, h.server_queue,
    h.openRetries_le⟩

theorem phase_awaitAnswer (h : t.session.Negotiating) (hl : t.session.localOk = false)
    (ht : t.session.timers.Only .keepWait) : t.awaitAnswer.session.Phase := by
  simp only [awaitAnswer, session_enter, session_arm]
  exact ⟨⟨h.still, h.unstarted, h.connected, hl, arms_iff.mpr (ht.armed_iff _)⟩, h.server_queue,
    h.openRetries_le⟩

/-! ### Waiting for an OPEN -/

section OpenWait

variable (h : t.session.Phase) (hs : t.session.state = .openWait)
include h hs

theorem phase_accept (offer : OpenObject) : (t.accept offer).session.Phase := by
  obtain ⟨hn, -, ht⟩ := h.of_openWait hs
  unfold accept
  simp only
  split
  · rename_i hl
    exact phase_enterUp (by simpa [negotiating_iff] using hn) (by simpa using hl) (by simp)
      (by simpa using ht.cleared)
  · rename_i hl
    exact phase_awaitAnswer (by simpa [negotiating_iff] using hn) (by simpa using hl)
      (fun k _ => by simpa using ht.cleared k)

theorem phase_counter (h0 : t.session.openRetries = 0) (offer : OpenObject) :
    (t.counter offer).session.Phase := by
  obtain ⟨hn, hr, ht⟩ := h.of_openWait hs
  have hn' : Negotiating { t.session with openRetries := t.session.openRetries + 1 } := by
    simpa [negotiating_iff, h0] using hn
  unfold counter
  simp only
  split
  · exact phase_awaitOpen (by simpa [negotiating_iff] using hn') (by simpa using hr)
      (by simpa using ht)
  · rename_i hl
    exact phase_awaitAnswer (by simpa [negotiating_iff] using hn') (by simpa using hl)
      (fun k _ => by simpa using ht.cleared k)

theorem phase_consider (offer : OpenObject) : (t.consider offer).session.Phase := by
  unfold consider
  split
  · exact phase_accept h hs offer
  · split
    · rename_i h0
      exact phase_counter h hs h0 offer
    · rw [session_refuse]
      exact phase_ended h.openRetries_le
  · rw [session_refuse]
    exact phase_ended h.openRetries_le

theorem phase_inOpenWait (m : Message) : (t.inOpenWait m).session.Phase := by
  have hr := h.openRetries_le
  unfold inOpenWait
  split
  · rw [session_formatError]
    exact phase_ended hr
  · split
    · rw [session_formatError]
      exact phase_ended hr
    · exact phase_consider h hs _
    · rw [session_formatError]
      exact phase_ended hr
  · rw [session_close]
    exact phase_ended hr

end OpenWait

/-! ### Waiting for an answer -/

section KeepWait

variable (h : t.session.Phase) (hs : t.session.state = .keepWait)
include h hs

theorem phase_accepted : t.accepted.session.Phase := by
  obtain ⟨hn, -, ht⟩ := h.of_keepWait hs
  unfold accepted
  simp only
  split
  · rename_i hr
    exact phase_enterUp (by simpa [negotiating_iff] using hn) (by simp) (by simpa using hr)
      (by simpa using ht.cleared)
  · rename_i hr
    exact phase_awaitOpen (by simpa [negotiating_iff] using hn) (by simpa using hr)
      (fun k _ => by simpa using ht.cleared k)

theorem phase_adopt (proposal : OpenObject) : (t.adopt proposal).session.Phase := by
  obtain ⟨hn, hl, ht⟩ := h.of_keepWait hs
  unfold adopt
  simp only
  split
  · exact phase_awaitAnswer (by simpa [sendOpen, negotiating_iff] using hn)
      (by simpa [sendOpen] using hl) (by simpa [sendOpen] using ht)
  · rename_i hr
    exact phase_awaitOpen (by simpa [sendOpen, negotiating_iff] using hn)
      (by simpa [sendOpen] using hr) (fun k _ => by simpa [sendOpen] using ht.cleared k)

theorem phase_inKeepWait (m : Message) : (t.inKeepWait m).session.Phase := by
  have hr := h.openRetries_le
  unfold inKeepWait
  split
  · rw [session_formatError]
    exact phase_ended hr
  · split
    · split
      · rw [session_formatError]
        exact phase_ended hr
      · exact phase_accepted h hs
      · split
        · exact phase_adopt h hs _
        · rw [session_refuse]
          exact phase_ended hr
      · rw [session_close]
        exact phase_ended hr
    · rw [session_close]
      exact phase_ended hr

end KeepWait

/-! ### Being up -/

section SessionUp

variable (h : t.session.Phase) (hs : t.session.state = .sessionUp)
include h hs

theorem phase_restartDeadTimer : t.restartDeadTimer.session.Phase := by
  obtain ⟨hholds, hq, hr⟩ := h
  rw [hs] at hholds
  obtain ⟨h1, h2, h3, h4, h5, h6⟩ := hholds
  rw [session_restartDeadTimer]
  refine ⟨?_, hq, hr⟩
  rw [hs]
  refine ⟨h1, h2, h3, h4, h5, arms_iff.mpr fun k => ?_⟩
  have hk := arms_iff.mp h6 k
  by_cases hd : 0 < t.session.peerDeadTimer
  · by_cases hkd : k = .deadTimer
    · simp [hd, hkd]
    · simp only [hd, if_true, TimerSlots.get_set, if_neg hkd]
      simpa [hkd] using hk
  · simpa [hd] using hk

theorem phase_inSessionUp (m : Message) : (t.inSessionUp m).session.Phase := by
  have hup := phase_restartDeadTimer h hs
  unfold inSessionUp
  split
  · rw [session_formatError]
    exact phase_ended h.openRetries_le
  · simp only
    split
    · exact hup
    · exact hup
    · rw [session_close]
      exact phase_ended hup.openRetries_le
    · rw [session_routeFromNetwork]
      exact hup
    · rw [session_routeFromNetwork]
      exact hup

/-- The KEEPALIVE timer is armed again after each expiry. -/
theorem phase_expire_keepAlive {token : TimerToken}
    (hk : t.session.timers.get .keepAlive = some token) :
    ((t.change fun s => { s with timers := s.timers.set .keepAlive none }).expire
      .keepAlive).session.Phase := by
  obtain ⟨hholds, hq, hr⟩ := h
  rw [hs] at hholds
  obtain ⟨h1, h2, h3, h4, h5, h6⟩ := hholds
  simp only [expire, session_arm, session_send, session_note, session_change, TimerSlots.set_set]
  refine ⟨?_, hq, hr⟩
  rw [hs]
  refine ⟨h1, h2, h3, h4, h5, arms_iff.mpr fun k => ?_⟩
  -- the timer was armed, so keepalives are wanted
  have hpos := (arms_iff.mp h6 .keepAlive).mp (by simp [hk])
  by_cases hkk : k = .keepAlive
  · simpa [hkk] using hpos
  · simpa [TimerSlots.get_set, hkk] using arms_iff.mp h6 k

end SessionUp

/-! ### Connecting -/

/-- A connect that fails is repeated or ends the session, whether its timer still runs or not. -/
theorem phase_connectFailed (h : t.session.Connecting)
    (ht : t.session.timers.Only .connect) : t.connectFailed.session.Phase := by
  unfold connectFailed
  simp only
  split
  · rw [session_close]
    exact phase_ended h.openRetries_le
  · simp only [session_enter, session_arm, session_act, session_note, session_change]
    exact ⟨⟨h.still, h.unstarted, h.initiator, h.unconnected, h.localOk, h.remoteOk,
      arms_iff.mpr (ht.armed_iff _)⟩, h.server_queue, h.openRetries_le⟩

theorem phase_transportUp (h : t.session.Phase) : t.transportUp.session.Phase := by
  unfold transportUp
  split
  · rename_i hs
    obtain ⟨hc, ht⟩ := h.of_tcpPending hs
    refine phase_awaitOpen ?_ (by simpa [greet, sendOpen] using hc.remoteOk) (fun k _ => ?_)
    · simpa [greet, sendOpen, negotiating_iff] using
        And.intro hc.still ⟨hc.unstarted, hc.server_queue, hc.openRetries_le⟩
    · simpa [greet, sendOpen] using ht.cleared k
  · exact h

/-! ### Any event -/

theorem phase_fromNetwork (h : t.session.Phase) (m : Message) :
    (t.fromNetwork m).session.Phase := by
  unfold fromNetwork
  split
  · rename_i hs
    exact phase_inOpenWait h hs m
  · rename_i hs
    exact phase_inKeepWait h hs m
  · rename_i hs
    exact phase_inSessionUp h hs m
  · exact h
  · exact h

/-- A message waits in the queue of a client that is neither closed nor up. -/
theorem phase_fromLocal (h : t.session.Phase) (hc : t.session.closed = false) (m : Message) :
    (t.fromLocal m).session.Phase := by
  unfold fromLocal
  split
  · rw [session_routeFromLocal]
    exact h
  · rename_i hup
    split
    · rename_i hclient
      obtain ⟨hholds, -, hr⟩ := h
      simp only [session_change, session_note]
      refine ⟨?_, fun hserver => ?_, hr⟩
      · -- the queue is only spoken of in states that are excluded here
        cases hs : t.session.state with
        | idle =>
          rw [hs] at hholds
          exact absurd hholds.1 (by simp [hc])
        | sessionUp => exact absurd hs hup
        | tcpPending | openWait | keepWait =>
          rw [hs] at hholds
          exact hholds
      · simp [hclient] at hserver
    · exact h

/-- An armed timer runs out. -/
theorem phase_expire (h : t.session.Phase) {kind : TimerKind} {token : TimerToken}
    (hk : t.session.timers.get kind = some token) :
    ((t.change fun s => { s with timers := s.timers.set kind none }).expire kind).session.Phase := by
  have hstate := h.state_of_armed (by rw [hk]; rfl)
  have hr := h.openRetries_le
  rcases hstate with ⟨rfl, hs⟩ | ⟨rfl, hs⟩ | rfl | rfl | rfl
  · obtain ⟨hc, ht⟩ := h.of_tcpPending hs
    simp only [expire, session_note, session_change, hs, if_true]
    exact phase_connectFailed (by simpa [connecting_iff] using hc) fun k _ => ht.cleared k
  · exact phase_expire_keepAlive h hs hk
  · rw [expire, session_refuse]
    exact phase_ended hr
  · rw [expire, session_refuse]
    exact phase_ended hr
  · rw [expire, session_close]
    exact phase_ended hr

theorem phase_take (h : t.session.Phase) (hc : t.session.closed = false) (e : SessionEvent) :
    (t.take e).session.Phase := by
  have hr := h.openRetries_le
  cases e with
  | accepted | connectRequested => exact h
  | transportUp => exact phase_transportUp h
  | transportFailed =>
    simp only [take]
    split
    · rename_i hs
      obtain ⟨hc, ht⟩ := h.of_tcpPending hs
      exact phase_connectFailed hc ht
    · exact h
  | connectionLost =>
    simp only [take]
    split
    · rename_i hs
      obtain ⟨hc, ht⟩ := h.of_tcpPending hs
      exact phase_connectFailed hc ht
    · rw [session_close]
      exact phase_ended hr
  | framingFailed =>
    rw [take, session_formatError]
    exact phase_ended hr
  | network m => exact phase_fromNetwork h m
  | fromLocal m => exact phase_fromLocal h hc m
  | timerExpired kind token =>
    simp only [take]
    split
    · rename_i hk
      exact phase_expire h hk
    · exact h
  | closeRequested =>
    simp only [take, session_close]
    split <;> exact phase_ended hr

end Turn

namespace Session

theorem phase_start (peer : PeerAddress) (role : Role) (initiator : Bool) (sessionId : UInt8)
    (settings : Settings) (n : TimerToken) :
    ((init peer role initiator sessionId settings).start n).session.Phase := by
  cases initiator with
  | true =>
    simp only [start, init, Turn.session_start, if_true, Turn.session_enter, Turn.session_act,
      Turn.session_arm]
    refine ⟨⟨rfl, rfl, rfl, rfl, rfl, rfl, arms_iff.mpr fun k => ?_⟩, fun _ => rfl, Nat.zero_le _⟩
    cases k <;> simp [TimerSlots.get_set]
  | false =>
    refine Turn.phase_awaitOpen ?_ rfl (fun k _ => ?_)
    · simp [negotiating_iff, init, Turn.greet, Turn.sendOpen]
    · cases k <;> rfl

/-- Every event keeps the invariant. -/
theorem phase_handle {s : Session} (h : s.Phase) (n : TimerToken) (e : SessionEvent) :
    (s.handle n e).session.Phase := by
  simp only [handle]
  split
  · exact h
  · rename_i hc
    exact Turn.phase_take h (by simpa using hc) e

theorem Reached.phase {s : Session} (h : Reached s) : s.Phase := by
  induction h with
  | start peer role initiator sessionId settings n =>
    exact phase_start peer role initiator sessionId settings n
  | handle h n e ih => exact phase_handle ih n e

/-- **The phase invariant.**  A session that was started once is closed exactly when it is idle, and
in each of its states exactly the timers, flags and queue that belong to the state are there. -/
theorem reached_invariant {s : Session} (h : Reached s) :
    (s.closed = true ↔ s.state = .idle) ∧
      (s.state = .idle → s.timers.armed = [] ∧ s.localOk = false ∧ s.remoteOk = false ∧
        s.outbound = []) ∧
      (s.state = .tcpPending → s.initiator = true ∧ s.connected = false ∧ s.localOk = false ∧
        s.remoteOk = false ∧ s.timers.armed = [.connect]) ∧
      (s.state = .openWait → s.connected = true ∧ s.remoteOk = false ∧
        s.timers.armed = [.openWait]) ∧
      (s.state = .keepWait → s.connected = true ∧ s.localOk = false ∧
        s.timers.armed = [.keepWait]) ∧
      (s.state = .sessionUp → s.localOk = true ∧ s.remoteOk = true ∧ s.outbound = [] ∧
        ∀ k, k ∈ s.timers.armed ↔
          k = .keepAlive ∧ 0 < s.keepalive ∨ k = .deadTimer ∧ 0 < s.peerDeadTimer) ∧
      (s.role = .server → s.outbound = []) ∧ s.openRetries ≤ 1 := by
  obtain ⟨hholds, hq, hr⟩ := h.phase
  -- one clause speaks of the state at hand, and the other four are about other states
  cases hs : s.state <;> rw [hs] at hholds
  · obtain ⟨h1, h2, h3, h4, h5⟩ := hholds
    exact ⟨by simp [h1], fun _ => ⟨h5.armed_eq_nil, h2, h3, h4⟩, nofun, nofun, nofun, nofun, hq, hr⟩
  · obtain ⟨h1, h2, h3, h4, h5, h6, h7⟩ := hholds
    exact ⟨by simp [h1], nofun, fun _ => ⟨h3, h4, h5, h6, h7.armed_eq_singleton⟩, nofun, nofun,
      nofun, hq, hr⟩
  · obtain ⟨h1, h2, h3, h4, h5⟩ := hholds
    exact ⟨by simp [h1], nofun, nofun, fun _ => ⟨h3, h4, h5.armed_eq_singleton⟩, nofun, nofun,
      hq, hr⟩
  · obtain ⟨h1, h2, h3, h4, h5⟩ := hholds
    exact ⟨by simp [h1], nofun, nofun, nofun, fun _ => ⟨h3, h4, h5.armed_eq_singleton⟩, nofun,
      hq, hr⟩
  · obtain ⟨h1, h2, h3, h4, h5, h6⟩ := hholds
    exact ⟨by simp [h1], nofun, nofun, nofun, nofun, fun _ => ⟨h3, h4, h5, h6⟩, hq, hr⟩

/-- An accepted session that came up with both of its timers. -/
theorem reached_invariant_up :
    let opened := ((init (.v4 ⟨10, 0, 0, 1⟩ 4189) .server false 7 {}).start 1).session
    let answered := (opened.handle 2 (.network (OpenObject.propose 30 120 1).message)).session
    let up := (answered.handle 3 (.network keepaliveMessage)).session
    up.Reached ∧ up.state = .sessionUp ∧ up.timers.armed = [.keepAlive, .deadTimer] ∧
      ∀ k, k ∈ up.timers.armed ↔
        k = .keepAlive ∧ 0 < up.keepalive ∨ k = .deadTimer ∧ 0 < up.peerDeadTimer := by
  intro opened answered up
  have hreached : up.Reached := (Reached.start ..).handle 2 _ |>.handle 3 _
  have hstate : up.state = .sessionUp := by decide +kernel
  obtain ⟨-, -, -, -, -, hup, -, -⟩ := reached_invariant hreached
  exact ⟨hreached, hstate, by decide +kernel, (hup hstate).2.2.2⟩

end Session

end PathSession
