import PathSession.Proofs.Engine.Chronicle
import PathSession.Proofs.Engine.Supervision
import PathSession.Proofs.Network.Provenance

/-!
# How long timers are armed for

Each timer of a node is armed for as long as its settings say, or for a number of seconds that an
octet can hold.  All three durations of the settings are used, if only by clients where it is the
time that a connection may take.

* `Chronicle.timed_run`: no node arms a timer for longer than its settings grant;
* `Chronicle.arms_connect`, `arms_openWait`, `arms_keepWait`: some tasks have it arm one for each of
  the durations;
* `Chronicle.arms_within_iff`: so a limit that octets meet is one for its timers exactly if it is
  one for the durations.
-/

namespace PathSession

/-! ### Tasks -/

namespace Handler

variable {h : Handler} {peer : PeerAddress} {e : SessionEvent}

theorem requests_of_session? {s : Session} (hs : h.session? peer = some s) :
    (h.process peer e).requests =
      (s.handle h.nextToken e).actions.filterMap (Action.request? peer) := by
  rcases h.process_turn peer e with ⟨s', hs', hp⟩ | ⟨hnone, -⟩ | ⟨hnone, -⟩
  · obtain rfl := Option.some.inj (hs.symm.trans hs')
    exact requests_of_settle hp
  · rw [hs] at hnone
    cases hnone
  · rw [hs] at hnone
    cases hnone

theorem requests_of_creates (hnone : h.session? peer = none) (he : e.creates = true) :
    (h.process peer e).requests =
      (h.opening peer (e = .connectRequested)).actions.filterMap (Action.request? peer) := by
  rcases h.process_turn peer e with ⟨s, hs, -⟩ | ⟨-, -, hp⟩ | ⟨-, hnot, -⟩
  · rw [hnone] at hs
    cases hs
  · exact requests_of_settle (hp.trans (h.create_eq peer _))
  · rw [he] at hnot
    cases hnot

end Handler

/-- Whether a node of a role can be given some tasks: only a client is asked for a session. -/
def Role.MayGet (role : Role) (tasks : List Task) : Prop :=
  ∀ t ∈ tasks, t.event = .connectRequested → role = .client

namespace Chronicle

variable {c : Chronicle} {role : Role} {settings : Settings} {firstId : UInt8} {peer : PeerAddress}

theorem session?_init (role : Role) (settings : Settings) (firstId : UInt8) (p : PeerAddress) :
    (init role settings firstId).handler.session? p = none := Table.get?_empty p

/-- A node keeps to its settings, and a server accepts all of its sessions. -/
structure Timed (role : Role) (settings : Settings) (c : Chronicle) : Prop where
  lives : c.handler.Lives
  keeps : c.handler.settings = settings
  configured : c.handler.Configured
  acceptors : role = .server → ∀ p s, c.handler.session? p = some s → s.initiator = false
  granted : ∀ peer kind token after, .arm peer kind token after ∈ c.requests →
    settings.Grants after kind ∧ (kind = .connect → role = .client)

theorem timed_init (role : Role) (settings : Settings) (firstId : UInt8) :
    (init role settings firstId).Timed role settings := by
  have hnone := session?_init role settings firstId
  refine ⟨Handler.lives_init role settings firstId, rfl, fun p s hs => ?_, fun _ p s hs => ?_,
    fun _ _ _ _ harm => absurd harm List.not_mem_nil⟩
  · rw [hnone] at hs
    cases hs
  · rw [hnone] at hs
    cases hs

theorem Timed.take (h : c.Timed role settings) {t : Task}
    (ht : t.event = .connectRequested → role = .client) : (c.take t).Timed role settings := by
  have hserver := fun hrole : role = .server => Handler.acceptors_process h.lives
    (h.acceptors hrole) t.peer (e := t.event) fun hcreates => by
      cases he : t.event with
      | accepted => rfl
      | connectRequested => cases hrole.symm.trans (ht he)
      | _ =>
        rw [he] at hcreates
        cases hcreates
  refine ⟨Handler.lives_process h.lives t.peer t.event, ?_, h.configured.process h.lives _ _,
    fun hrole => (hserver hrole).1, fun peer kind token after harm => ?_⟩
  · exact (c.handler.settings_process t.peer t.event).trans h.keeps
  · rw [requests_take] at harm
    rcases List.mem_append.mp harm with harm | harm
    · exact h.granted _ _ _ _ harm
    · obtain ⟨hgrants, hconnect⟩ := Handler.timed_process h.lives h.configured harm
      rw [h.keeps] at hgrants
      refine ⟨hgrants, fun hk => ?_⟩
      cases hrole : role with
      | client => rfl
      | server => exact absurd (hconnect hk) ((hserver hrole).2 t.peer)

/-- Whatever the tasks of a node, it arms timers for what its settings grant. -/
theorem timed_run (settings : Settings) (firstId : UInt8) {tasks : List Task}
    (ht : role.MayGet tasks) : (run role settings firstId tasks).Timed role settings := by
  induction tasks using List.reverseRecOn with
  | nil => exact timed_init role settings firstId
  | append_singleton tasks t ih =>
    rw [run_concat]
    exact (ih fun t' ht' => ht t' (List.mem_append_left _ ht')).take
      (ht t (List.mem_append_right _ (List.mem_singleton_self t)))

/-! ### All durations are used -/

/-- A node that is first told of a session arms what the new session does. -/
theorem arms_opening {e : SessionEvent} (he : e.creates = true) {kind : TimerKind}
    {token : TimerToken} {after : Millis}
    (harm : .armTimer kind token after ∈
      ((init role settings firstId).handler.opening peer (e = .connectRequested)).actions) :
    .arm peer kind token after ∈ (run role settings firstId [⟨peer, e⟩]).requests := by
  have hrun : run role settings firstId [⟨peer, e⟩] =
      (init role settings firstId).take ⟨peer, e⟩ := rfl
  rw [hrun, requests_take, Handler.requests_of_creates (session?_init ..) he]
  exact List.mem_append_right _ (Action.arm_mem_requests.mpr ⟨rfl, harm⟩)

/-- A client that is asked for a session waits for its connection. -/
theorem arms_connect (role : Role) (settings : Settings) (firstId : UInt8) (peer : PeerAddress) :
    ∃ token, .arm peer .connect token settings.connectTimeout ∈
      (run role settings firstId [⟨peer, .connectRequested⟩]).requests := by
  refine ⟨.first, arms_opening rfl ?_⟩
  simp [Handler.opening, Session.start, Session.init, init, Handler.init]

/-- A node that accepts a connection waits for an OPEN. -/
theorem arms_openWait (role : Role) (settings : Settings) (firstId : UInt8) (peer : PeerAddress) :
    ∃ token, .arm peer .openWait token settings.openWait ∈
      (run role settings firstId [⟨peer, .accepted⟩]).requests := by
  refine ⟨.first, arms_opening rfl ?_⟩
  simp [Handler.opening, Session.start, Session.init, init, Handler.init, Turn.greet,
    Turn.awaitOpen, Turn.sendOpen]

/-- If it then gets an OPEN that it accepts, it waits for the answer to its own. -/
theorem arms_keepWait (role : Role) {settings : Settings} (hp : settings.policy.Ordered)
    (firstId : UInt8) (peer : PeerAddress) :
    let o := OpenObject.propose settings.policy.keepalive.low settings.policy.deadTimer.low 0
    ∃ token, .arm peer .keepWait token settings.keepWait ∈
      (run role settings firstId
        [⟨peer, .accepted⟩, ⟨peer, .network o.message⟩]).requests := by
  intro o
  let h := (init role settings firstId).handler
  let c := (init role settings firstId).take ⟨peer, .accepted⟩
  have hnone : h.session? peer = none := session?_init role settings firstId peer
  obtain ⟨s, hs, -⟩ | ⟨-, -, -, hafter⟩ | ⟨-, hnot, -⟩ :=
    Handler.process_self (Handler.lives_init role settings firstId) peer .accepted
  · cases hnone.symm.trans hs
  · have hsession : c.handler.session? peer = some (h.opening peer false).session := hafter
    have hphase := Session.phase_start peer role false h.ids.draw.1 settings h.nextToken
    have hv : settings.policy.check o = .acceptable := Policy.check_eq_acceptable.mpr
      ⟨Bounds.contains_iff.mpr ⟨le_rfl, UInt8.le_iff_toNat_le.mp hp.1⟩,
        Bounds.contains_iff.mpr ⟨le_rfl, UInt8.le_iff_toNat_le.mp hp.2⟩⟩
    have harm := Session.arms_keepWait hphase rfl rfl (OpenObject.content_propose ..) hv
      c.handler.nextToken
    refine ⟨c.handler.nextToken, ?_⟩
    rw [show run role settings firstId [⟨peer, .accepted⟩, ⟨peer, .network o.message⟩] =
      c.take ⟨peer, .network o.message⟩ from rfl, requests_take,
      Handler.requests_of_session? hsession]
    exact List.mem_append_right _ (Action.arm_mem_requests.mpr ⟨rfl, harm⟩)
  · cases hnot

/-- **All timers of a node are short enough if the durations of its settings are.**  Let a limit be
given that no number of seconds in an octet exceeds.  Whatever a node is asked to do, its timers are
armed for no longer than that, exactly if each duration of its settings is within the limit; save
that a server never uses the one for connections. -/
theorem arms_within_iff (role : Role) {settings : Settings} (hp : settings.policy.Ordered)
    {limit : Millis} (hl : Millis.ofSeconds 255 ≤ limit) :
    (∀ firstId tasks, role.MayGet tasks → ∀ peer kind token after,
        .arm peer kind token after ∈ (run role settings firstId tasks).requests →
          after ≤ limit) ↔
      (role = .client → settings.connectTimeout ≤ limit) ∧ settings.openWait ≤ limit ∧
        settings.keepWait ≤ limit := by
  constructor
  · intro h
    let peer := PeerAddress.v4 ⟨0, 0, 0, 0⟩ 0
    obtain ⟨token, harm⟩ := arms_connect role settings 1 peer
    obtain ⟨token', harm'⟩ := arms_openWait role settings 1 peer
    obtain ⟨token'', harm''⟩ := arms_keepWait role hp 1 peer
    refine ⟨fun hrole => h _ _ ?_ _ _ _ _ harm, h _ _ ?_ _ _ _ _ harm', h _ _ ?_ _ _ _ _ harm''⟩
    · exact fun _ _ _ => hrole
    · simp [Role.MayGet]
    · simp [Role.MayGet]
  · rintro ⟨hconnect, hopen, hkeep⟩ firstId tasks ht peer kind token after harm
    obtain ⟨hgrants, hrole⟩ := (timed_run settings firstId ht).granted _ _ _ _ harm
    cases kind with
    | connect => exact hgrants.le.trans (hconnect (hrole rfl))
    | openWait => exact hgrants.le.trans hopen
    | keepWait => exact hgrants.le.trans hkeep
    | keepAlive | deadTimer =>
      obtain ⟨v, rfl⟩ := hgrants
      exact (Millis.ofSeconds_octet_le v).trans hl

end Chronicle

end PathSession
