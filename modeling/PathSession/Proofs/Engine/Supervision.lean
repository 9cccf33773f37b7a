import Mathlib.Logic.Function.Basic
import PathSession.Config.Basic
import PathSession.Engine.Clocked
import PathSession.Proofs.Engine.Timekeeping
import PathSession.Proofs.Session.Durations
import PathSession.Proofs.Timers.Deadlines

/-!
# Every deadline is counted from the right moment

On a clock that stops at every deadline, what a session waits for is supervised exactly.  Each timer
is due as long after its last restart as it lasts, whatever else has happened meanwhile.  The expiry
of the keepalive timer is itself a restart, so KEEPALIVEs keep to a fixed beat.

* `Timeline`, `Timeline.Reached`: sessions and timers on a clock, with what each session has been
  through;
* `Latest`, `keepalives`: what a history says of the past;
* `Upkeep`: a session that is up against its history, with what each turn makes of it;
* `Lived`: the same of any session, `Lived.beat` its step;
* `Timeline.Punctual`: the deadlines of all timers against the histories, `Punctual.take` its step;
* `Timeline.Supervised`: when the timers of a session are due;
* `Timeline.supervision_exact`: they are, as long as timers are within reach of the queue.
-/

namespace PathSession

/-- A timer is requested for the peer whose session arms it. -/
theorem Action.arm_mem_requests {as : List Action} {peer q : PeerAddress} {kind : TimerKind}
    {token : TimerToken} {after : Millis} :
    .arm q kind token after ∈ as.filterMap (request? peer) ↔
      q = peer ∧ .armTimer kind token after ∈ as := by
  rw [List.mem_filterMap]
  constructor
  · rintro ⟨a, ha, harms⟩
    cases a <;> cases harms
    exact ⟨rfl, ha⟩
  · rintro ⟨rfl, ha⟩
    exact ⟨_, ha, rfl⟩

namespace Handler

variable {h : Handler} {peer : PeerAddress} {e : SessionEvent}

/-- The turn that an event leads to, unless it is discarded. -/
def beat? (h : Handler) (peer : PeerAddress) (e : SessionEvent) : Option Beat :=
  match h.session? peer with
  | some s => some { session := s, event := e, turn := s.handle h.nextToken e }
  | none =>
    if e.creates then
      some
        { session := .init peer h.role (e = .connectRequested) h.ids.draw.1 h.settings
          event := e
          turn := h.opening peer (e = .connectRequested) }
    else
      none

/-- What a task comes to, by the turn that its event leads to. -/
structure Takes (h : Handler) (peer : PeerAddress) (e : SessionEvent) (b : Beat) : Prop where
  event : b.event = e
  before : h.session? peer = some b.session ∨
    h.session? peer = none ∧ e.creates = true ∧ b.session.state = .idle ∧
      b.session.settings = h.settings
  requests : (h.process peer e).requests = b.turn.actions.filterMap (Action.request? peer)
  after : (h.process peer e).next.session? peer =
    if b.turn.session.closed then none else some b.turn.session
  phase : b.turn.session.Phase
  paced : Paced b ∨ b.turn.session.closed = true

/-- A session that goes on does so at its pace. -/
theorem Takes.paced_of_after {b : Beat} (ht : h.Takes peer e b) {s : Session}
    (hs : (h.process peer e).next.session? peer = some s) : s = b.turn.session ∧ Paced b := by
  rw [ht.after] at hs
  split at hs
  · cases hs
  · rename_i hopen
    exact ⟨(Option.some.inj hs).symm, ht.paced.resolve_right hopen⟩

/-- A task is a turn, or it is discarded. -/
theorem process_beat (hl : h.Lives) (peer : PeerAddress) (e : SessionEvent) :
    (∃ b, h.beat? peer e = some b ∧ h.Takes peer e b) ∨
      h.beat? peer e = none ∧ h.session? peer = none ∧ (h.process peer e).next = h ∧
        (h.process peer e).requests = [] := by
  have hrequests : ∀ {as : List Action},
      (h.process peer e).effects = as.flatMap (Action.effects peer) →
        (h.process peer e).requests = as.filterMap (Action.request? peer) := fun heffects => by
    rw [Handled.requests, heffects]
    exact Action.filterMap_effects (fun a => by cases a <;> rfl) _
  rcases process_self hl peer e with ⟨s, hs, heffects, hafter⟩ | ⟨hnone, he, heffects, hafter⟩ |
    ⟨hnone, he, hnext, heffects⟩
  · obtain ⟨hphase, hc⟩ := hl peer s hs
    exact .inl ⟨⟨s, e, s.handle h.nextToken e⟩, by rw [beat?, hs], rfl, .inl hs,
      hrequests heffects, hafter, Session.phase_handle hphase _ e,
      Session.paced_handle hphase hc _ e⟩
  · have hstill : (h.opening peer (e = .connectRequested)).session.closed = false :=
      (h.calm_opening peer _).still
    refine .inl ⟨⟨_, e, h.opening peer (e = .connectRequested)⟩, ?_, rfl,
      .inr ⟨hnone, he, rfl, rfl⟩, hrequests heffects, ?_, Session.phase_start ..,
      .inl (Session.paced_start rfl _ e)⟩
    · rw [beat?, hnone]
      exact if_pos he
    · rw [hafter, hstill]
      rfl
  · refine .inr ⟨?_, hnone, hnext, ?_⟩
    · rw [beat?, hnone, he]
      rfl
    · rw [Handled.requests, heffects]
      rfl

/-- Every session has the settings of its node. -/
def Configured (h : Handler) : Prop := ∀ p s, h.session? p = some s → s.settings = h.settings

theorem Configured.process (hc : h.Configured) (hl : h.Lives) (peer : PeerAddress)
    (e : SessionEvent) : (h.process peer e).next.Configured := by
  intro p s hs
  rw [settings_process]
  by_cases hp : p = peer
  · subst hp
    rcases process_beat hl p e with ⟨b, -, htakes⟩ | ⟨-, hnone, hnext, -⟩
    · obtain ⟨rfl, hpaced⟩ := htakes.paced_of_after hs
      rw [hpaced.settings]
      rcases htakes.before with hbefore | ⟨-, -, -, hsettings⟩
      · exact hc p _ hbefore
      · exact hsettings
    · rw [hnext, hnone] at hs
      cases hs
  · exact hc p s (session?_process_of_ne hl hp ▸ hs)

theorem requests_of_settle {h' : Handler} {t : Turn} (hp : h.process peer e = h'.settle peer t) :
    (h.process peer e).requests = t.actions.filterMap (Action.request? peer) := by
  rw [hp]
  exact (h'.settle_spec t).1

/-- A task arms timers for what the settings of the node grant, and the one for a connection only
as it asks for one. -/
theorem timed_process (hl : h.Lives) (hc : h.Configured) {q : PeerAddress} {kind : TimerKind}
    {token : TimerToken} {after : Millis}
    (harm : .arm q kind token after ∈ (h.process peer e).requests) :
    h.settings.Grants after kind ∧
      (kind = .connect → .connect peer ∈ (h.process peer e).commands) := by
  have hsettled : ∀ {h' : Handler} {t : Turn}, h.process peer e = h'.settle peer t →
      t.Timed h.settings → h.settings.Grants after kind ∧
        (kind = .connect → .connect peer ∈ (h.process peer e).commands) := by
    intro h' t hp ht
    rw [requests_of_settle hp] at harm
    obtain ⟨hgrants, hconnect⟩ := ht _ _ _ (Action.arm_mem_requests.mp harm).2
    refine ⟨hgrants, fun hk => ?_⟩
    rw [hp, (h'.settle_spec t).2.1]
    exact List.mem_filterMap.mpr ⟨.connect, hconnect hk, rfl⟩
  rcases h.process_turn peer e with ⟨s, hs, hp⟩ | ⟨-, -, hp⟩ | ⟨-, -, -, heffects⟩
  · obtain ⟨hphase, hopen⟩ := hl peer s hs
    have htimed := Session.timed_handle hphase hopen h.nextToken e
    rw [hc peer s hs] at htimed
    exact hsettled hp htimed
  · exact hsettled (hp.trans (h.create_eq peer _)) (Session.timed_start rfl h.nextToken)
  · rw [Handled.requests, heffects] at harm
    cases harm

/-- A token in a slot was there before, and no timer of that kind is armed, or it was handed out for
one that is. -/
theorem slot_origin (hl : h.Lives) {kind : TimerKind} {token : TimerToken}
    (hk : ((h.process peer e).next.slots peer).get kind = some token) :
    ((h.slotsAt peer e).get kind = some token ∧
        ∀ token' after, .arm peer kind token' after ∉ (h.process peer e).requests) ∨
      h.nextToken ≤ token ∧
        ∃ after, .arm peer kind token after ∈ (h.process peer e).requests := by
  obtain ⟨actions, hrequests, hbooks⟩ := process_books hl peer e
  simp only [hrequests, Action.arm_mem_requests, true_and]
  exact Ledger.origin hbooks hk

end Handler

/-! ### Histories -/

/-- When the latest turn of a kind was taken.  Histories have the latest turn first. -/
inductive Latest (P : Beat → Prop) : List (Millis × Beat) → Millis → Prop
  | here {time : Millis} {b : Beat} (earlier : List (Millis × Beat)) (h : P b) :
      Latest P ((time, b) :: earlier) time
  | before {time time' : Millis} {b : Beat} {earlier : List (Millis × Beat)}
      (h : Latest P earlier time) (hb : ¬ P b) : Latest P ((time', b) :: earlier) time

theorem Latest.unique {P : Beat → Prop} {history : List (Millis × Beat)} {time time' : Millis}
    (h : Latest P history time) (h' : Latest P history time') : time = time' := by
  induction h with
  | here earlier hb =>
    cases h' with
    | here => rfl
    | before _ hnot => exact absurd hb hnot
  | before _ hnot ih =>
    cases h' with
    | here _ hb => exact absurd hb hnot
    | before h' => exact ih h'

/-- When KEEPALIVEs were sent by a session that was up, oldest first. -/
def keepalives : List (Millis × Beat) → List Millis
  | [] => []
  | (time, b) :: earlier => keepalives earlier ++ b.keepalives.map fun _ => time

/-- A session came up once, was heard of then and possibly later, and has sent `n` KEEPALIVEs since
it came up, one at each full interval. -/
structure Upkeep (interval : Millis) (history : List (Millis × Beat)) (now up heard : Millis)
    (n : Nat) : Prop where
  entered : Latest (·.Enters .sessionUp) history up
  hears : Latest Beat.Hears history heard
  order : up ≤ heard
  past : heard ≤ now
  sent : keepalives history = (List.range n).map fun i => up + (i + 1) * interval
  last : Latest (·.Restarts .keepAlive) history (up + n * interval)

namespace Upkeep

variable {interval now now' up heard : Millis} {history : List (Millis × Beat)} {n : Nat} {b : Beat}

theorem comesUp (hquiet : keepalives history = []) (henters : b.Enters .sessionUp)
    (hhears : b.Hears) (hsilent : b.keepalives = []) :
    Upkeep interval ((now, b) :: history) now now now 0 where
  entered := .here _ henters
  hears := .here _ hhears
  order := le_rfl
  past := le_rfl
  sent := by
    rw [keepalives, hsilent, hquiet]
    rfl
  last := by
    rw [Nat.zero_mul]
    exact .here _ (.inl henters)

variable (h : Upkeep interval history now up heard n)
include h

/-- Time passes. -/
theorem mono (hnow : now ≤ now') : Upkeep interval history now' up heard n :=
  { h with past := Nat.le_trans h.past hnow }

/-- The keepalive timer is next due when one more interval is over. -/
theorem due_of_latest {time : Millis} (htime : Latest (·.Restarts .keepAlive) history time) :
    time + interval = up + (n + 1) * interval := by
  rw [htime.unique h.last, Nat.add_mul, Nat.one_mul, Nat.add_assoc]

/-- The session stays up and sends no KEEPALIVE, whether it hears of its peer or not. -/
theorem quiet (hup : b.Stays .sessionUp) (hsilent : b.keepalives = []) :
    ∃ heard', Upkeep interval ((now, b) :: history) now up heard' n := by
  have hsent : keepalives ((now, b) :: history) = keepalives history := by
    rw [keepalives, hsilent]
    exact List.append_nil _
  have hentered : Latest (·.Enters .sessionUp) ((now, b) :: history) up :=
    h.entered.before fun henters => henters.1 hup.1
  have hlast : Latest (·.Restarts .keepAlive) ((now, b) :: history) (up + n * interval) :=
    h.last.before (Beat.not_restarts_keepAlive hup hsilent)
  by_cases hhears : b.Hears
  · exact ⟨now, hentered, .here _ hhears, Nat.le_trans h.order h.past, le_rfl, hsent.trans h.sent,
      hlast⟩
  · exact ⟨heard, hentered, h.hears.before hhears, h.order, h.past, hsent.trans h.sent, hlast⟩

/-- The session stays up and sends its next KEEPALIVE. -/
theorem beat {m : Message} (hup : b.Stays .sessionUp) (hdeaf : ¬ b.Hears)
    (hsaid : b.keepalives = [m]) (hnow : now = up + (n + 1) * interval) :
    Upkeep interval ((now, b) :: history) now up heard (n + 1) where
  entered := h.entered.before fun henters => henters.1 hup.1
  hears := h.hears.before hdeaf
  order := h.order
  past := h.past
  sent := by
    rw [keepalives, hsaid, h.sent, List.range_succ, List.map_append, hnow]
    rfl
  last := by
    rw [← hnow]
    exact .here _ (Beat.restarts_keepAlive hsaid)

end Upkeep

/-- A session against its history: it keeps up with its keepalive interval while it is up, and has
sent no KEEPALIVE before. -/
structure Lived (s : Session) (history : List (Millis × Beat)) (now : Millis) : Prop where
  quiet : s.state ≠ .sessionUp → keepalives history = []
  upkeep : s.state = .sessionUp → ∃ up heard n, Upkeep (s.lasts .keepAlive) history now up heard n

namespace Lived

variable {s : Session} {history : List (Millis × Beat)} {now now' : Millis}

theorem init (hs : s.state = .idle) : Lived s [] now :=
  ⟨fun _ => rfl, fun hup => by rw [hs] at hup; cases hup⟩

/-- Time passes. -/
theorem mono (h : Lived s history now) (hnow : now ≤ now') : Lived s history now' := by
  refine ⟨h.quiet, fun hup => ?_⟩
  obtain ⟨up, heard, n, hupkeep⟩ := h.upkeep hup
  exact ⟨up, heard, n, hupkeep.mono hnow⟩

/-- The session goes on.  If it is told that its keepalive timer has run out, then as long after the
last restart of this timer as it lasts. -/
theorem beat {b : Beat} (h : Lived b.session history now) (hb : Paced b)
    (hdue : ∀ token, b.event = .timerExpired .keepAlive token →
      b.session.timers.get .keepAlive = some token →
        ∃ time, Latest (·.Restarts .keepAlive) history time ∧
          now = time + b.session.lasts .keepAlive) :
    Lived b.turn.session ((now, b) :: history) now := by
  obtain ⟨kinds, hpace, -⟩ := hb.pace
  refine ⟨fun hs => ?_, fun hs => ?_⟩
  · obtain ⟨hbefore, hsilent⟩ := hpace.of_not_up hs
    rw [keepalives, hsilent, h.quiet hbefore]
    rfl
  · cases hpace with
    | waits hne hsame => exact absurd (hsame.symm.trans hs) hne
    | connects hne hafter | awaitsOpen hne hafter | awaitsAnswer hne hafter =>
      rw [hs] at hafter
      cases hafter
    | comesUp hne hafter hhears hsilent =>
      exact ⟨now, now, 0, .comesUp (h.quiet hne) ⟨hne, hafter⟩ hhears hsilent⟩
    | hears hup hhears hsilent | relays hup hdeaf hsilent =>
      obtain ⟨up, heard, n, hupkeep⟩ := h.upkeep hup.1
      obtain ⟨heard', hquiet⟩ := hupkeep.quiet hup hsilent
      rw [hb.lasts_keepAlive hup.1]
      exact ⟨up, heard', n, hquiet⟩
    | beats hup token hevent harmed hsaid =>
      obtain ⟨up, heard, n, hupkeep⟩ := h.upkeep hup.1
      obtain ⟨time, htime, hnow⟩ := hdue token hevent harmed
      rw [hb.lasts_keepAlive hup.1]
      exact ⟨up, heard, n + 1, hupkeep.beat hup (Beat.not_hears_of_expired hevent) hsaid
        (hnow.trans (hupkeep.due_of_latest htime))⟩

end Lived

/-! ### On a clock -/

/-- Carrying out effects asks the timers for what the effects request. -/
theorem ClockedEngine.foldl_schedule? {Q : Type} [AlarmQueue Q] (effects : List Effect)
    (s : Schedule Q) :
    effects.foldl schedule? s = (effects.filterMap Effect.request?).foldl Schedule.apply s := by
  induction effects generalizing s with
  | nil => rfl
  | cons x effects ih =>
    rw [List.foldl_cons, ih]
    cases x <;> rfl

/-- Sessions and timers on a clock, and what each session has been through. -/
structure Timeline (Q : Type) where
  engine : ClockedEngine Q
  history : PeerAddress → List (Millis × Beat)

namespace Timeline

variable {Q : Type} [AlarmQueue Q]

/-- Nothing has happened. -/
def init (role : Role) (settings : Settings) (firstId : UInt8) : Timeline Q :=
  { engine := .init (.init role settings firstId), history := fun _ => [] }

def now (w : Timeline Q) : Millis := w.engine.schedule.now

/-- The timers and the clock are others. -/
def reset (w : Timeline Q) (s : Schedule Q) : Timeline Q :=
  { w with engine := { w.engine with schedule := s } }

/-- An event is handled now.  The history of a new session begins with it. -/
def take (w : Timeline Q) (peer : PeerAddress) (e : SessionEvent) : Timeline Q :=
  { engine := (w.engine.take peer e).1
    history := match w.engine.handler.beat? peer e with
      | some b =>
        Function.update w.history peer ((w.now, b) ::
          if (w.engine.handler.session? peer).isSome then w.history peer else [])
      | none => w.history }

/-- What can come about on a clock.  Tasks of any kind but expiries are handled as they come, and an
expiry at its deadline.  Time passes up to the soonest deadline at most. -/
inductive Reached (role : Role) (settings : Settings) (firstId : UInt8) : Timeline Q → Prop
  | init : Reached role settings firstId (init role settings firstId)
  | task {w : Timeline Q} (h : Reached role settings firstId w) (t : Task) (ht : t.expiry? = none) :
      Reached role settings firstId (w.take t.peer t.event)
  | expire {w : Timeline Q} (h : Reached role settings firstId w) {horizon : Millis} {a : Alarm}
      {s : Schedule Q} (he : w.engine.schedule.expire? horizon = some (a, s)) :
      Reached role settings firstId ((w.reset s).take a.peer (.timerExpired a.kind a.token))
  | wait {w : Timeline Q} (h : Reached role settings firstId w) (horizon : Millis)
      (hnow : w.now ≤ horizon) (hdue : ∀ a ∈ w.engine.schedule.queue, horizon ≤ a.deadline) :
      Reached role settings firstId (w.reset (w.engine.schedule.rest horizon))

variable {role : Role} {settings : Settings} {firstId : UInt8} {w : Timeline Q}

theorem schedule_take (w : Timeline Q) (peer : PeerAddress) (e : SessionEvent) :
    (w.take peer e).engine.schedule =
      (w.engine.handler.process peer e).requests.foldl Schedule.apply w.engine.schedule :=
  ClockedEngine.foldl_schedule? _ _

theorem now_take (w : Timeline Q) (peer : PeerAddress) (e : SessionEvent) :
    (w.take peer e).now = w.now := by
  rw [now, schedule_take, Schedule.now_foldl_apply, now]

/-- What the session that an event goes to has been through.  A new one has been through nothing. -/
def earlier (w : Timeline Q) (peer : PeerAddress) : List (Millis × Beat) :=
  if (w.engine.handler.session? peer).isSome then w.history peer else []

theorem history_take {peer : PeerAddress} {e : SessionEvent} {b : Beat}
    (hbeat : w.engine.handler.beat? peer e = some b) :
    (w.take peer e).history = Function.update w.history peer ((w.now, b) :: w.earlier peer) := by
  rw [take, hbeat]
  rfl

theorem broken_of_take {peer : PeerAddress} {e : SessionEvent}
    (hb : (w.take peer e).engine.schedule.broken = false) :
    w.engine.schedule.broken = false := by
  by_contra hb'
  rw [schedule_take, Schedule.broken_foldl (by simpa using hb')] at hb
  cases hb

/-! #### Sessions, timers and requests -/

/-- The sessions and their timers, with nothing on its way between them. -/
def clockwork (w : Timeline Q) : Clockwork Q :=
  { handler := w.engine.handler, requests := [], schedule := w.engine.schedule, tasks := [] }

/-- Whatever is requested is carried out. -/
theorem carryOut_all {channel : PeerAddress → Nat} {handler : Handler}
    {requests : List TimerRequest} {schedule : Schedule Q} {tasks : List Task}
    (h : Clockwork.Reached channel role settings firstId { handler, requests, schedule, tasks }) :
    Clockwork.Reached channel role settings firstId
      { handler, requests := [], schedule := requests.foldl Schedule.apply schedule, tasks } := by
  induction requests generalizing schedule with
  | nil => exact h
  | cons r requests ih => exact ih (h.carryOut rfl)

/-- A task that waits alone is handled, and its requests are carried out. -/
theorem clockwork_take {channel : PeerAddress → Nat} {peer : PeerAddress} {e : SessionEvent}
    (h : Clockwork.Reached channel role settings firstId
      { w.clockwork with tasks := [{ peer, event := e }] }) :
    Clockwork.Reached channel role settings firstId (w.take peer e).clockwork := by
  have hworked := h.work (show _ = [] ++ { peer, event := e } :: [] from rfl) nofun
  have hcarried := carryOut_all hworked
  rw [clockwork, schedule_take]
  exact hcarried

theorem Reached.clockwork (h : Reached role settings firstId w) :
    Clockwork.Reached (fun _ => 0) role settings firstId w.clockwork := by
  induction h with
  | init => exact .init
  | task h t ht ih => exact clockwork_take (ih.submit t ht)
  | @expire w h horizon a s he ih => exact clockwork_take (w := w.reset s) (ih.expire he)
  | wait h horizon hnow hdue ih => exact ih.rest _

theorem Reached.lives (h : Reached role settings firstId w) : w.engine.handler.Lives :=
  h.clockwork.accounted.lives

/-- The timers that wait are those in the slots of the sessions. -/
theorem Reached.kept (h : Reached role settings firstId w)
    (hb : w.engine.schedule.broken = false) :
    Kept w.engine.handler.slots w.engine.handler.nextToken w.engine.schedule.timers [] [] :=
  h.clockwork.accounted.kept hb

theorem init_session? {p : PeerAddress} {s : Session}
    (hs : (init role settings firstId : Timeline Q).engine.handler.session? p = some s) :
    False := by
  simp [init, ClockedEngine.init, Handler.session?, Handler.init, Registry.empty] at hs

theorem Reached.configured (h : Reached role settings firstId w) :
    w.engine.handler.settings = settings ∧ w.engine.handler.Configured := by
  induction h with
  | init => exact ⟨rfl, fun p s hs => (init_session? hs).elim⟩
  | task h t ht ih =>
    exact ⟨(Handler.settings_process _ _ _).trans ih.1, ih.2.process h.lives _ _⟩
  | expire h he ih => exact ⟨(Handler.settings_process _ _ _).trans ih.1, ih.2.process h.lives _ _⟩
  | wait h horizon hnow hdue ih => exact ih

/-! #### Deadlines -/

/-- What requests, expiries and the passing of time keep of a schedule holds all along. -/
theorem Reached.schedule_induction {P : Schedule Q → Prop} (h : Reached role settings firstId w)
    (hempty : P .empty) (happly : ∀ s r, P s → P (s.apply r))
    (hexpire : ∀ s horizon a s', s.expire? horizon = some (a, s') → P s → P s')
    (hrest : ∀ s horizon, (∀ a ∈ s.queue, horizon ≤ a.deadline) → P s → P (s.rest horizon)) :
    P w.engine.schedule := by
  have htake : ∀ (w : Timeline Q) peer e, P w.engine.schedule →
      P (w.take peer e).engine.schedule := by
    intro w peer e hw
    rw [schedule_take]
    exact List.foldlRecOn _ _ hw fun s hs r _ => happly s r hs
  induction h with
  | init => exact hempty
  | task h t ht ih => exact htake _ _ _ ih
  | @expire w h horizon a s he ih => exact htake (w.reset s) _ _ (hexpire _ _ _ _ he ih)
  | wait h horizon hnow hdue ih => exact hrest _ _ hdue ih

/-- The clock stops at every deadline, so nothing is ever overdue. -/
theorem Reached.prompt (h : Reached role settings firstId w) : w.engine.schedule.Prompt :=
  h.schedule_induction Schedule.prompt_empty (fun _ r hs => hs.apply r)
    (fun _ _ _ _ he hs => (hs.expire he).1) fun _ _ hdue _ => Schedule.prompt_rest hdue

/-- Sessions have lived by the clock, and the deadline of each timer is counted from the latest turn
that restarted it. -/
structure Punctual (w : Timeline Q) : Prop where
  lived : ∀ p s, w.engine.handler.session? p = some s → Lived s (w.history p) w.now
  counted : ∀ a ∈ w.engine.schedule.queue, ∀ s, w.engine.handler.session? a.peer = some s →
    ∃ time, Latest (·.Restarts a.kind) (w.history a.peer) time ∧
      a.deadline = time + s.lasts a.kind

theorem punctual_init : (init role settings firstId : Timeline Q).Punctual :=
  ⟨fun _ _ hs => (init_session? hs).elim, fun _ _ _ hs => (init_session? hs).elim⟩

namespace Punctual

variable (h : w.Punctual) {peer : PeerAddress} {e : SessionEvent} {b : Beat}
variable (htakes : w.engine.handler.Takes peer e b)
include h

section Takes

include htakes

theorem lived_earlier : Lived b.session (w.earlier peer) w.now := by
  rcases htakes.before with hs | ⟨hnone, -, hidle, -⟩
  · rw [earlier, hs]
    exact h.lived peer _ hs
  · rw [earlier, hnone]
    exact Lived.init hidle

/-- The session that is told of an event goes on.  Its timers were armed by an earlier turn and have
not been restarted, or they are armed now. -/
theorem counted_take (hl : w.engine.handler.Lives) {a : Alarm} (hpeer : a.peer = peer)
    (ha : a ∈ (w.take peer e).engine.schedule.queue)
    (hbelow : a ∈ w.engine.schedule.queue → a.token < w.engine.handler.nextToken)
    (hslot : ((w.engine.handler.process peer e).next.slots peer).get a.kind = some a.token)
    (hpaced : Paced b) (hk : (b.turn.session.timers.get a.kind).isSome) :
    ∃ time, Latest (·.Restarts a.kind) ((w.now, b) :: w.earlier peer) time ∧
      a.deadline = time + b.turn.session.lasts a.kind := by
  have harms := hpaced.arms_iff htakes.phase hk
  rw [schedule_take] at ha
  have hqueue := Schedule.deadline_of_apply ha
  rw [hpeer] at hqueue
  rcases Handler.slot_origin hl hslot with ⟨hold, hnone⟩ | ⟨hle, -⟩
  · have hwaits : a ∈ w.engine.schedule.queue :=
      hqueue.resolve_right fun ⟨after, hmem, _⟩ => hnone a.token after hmem
    have hnot : ¬ b.Restarts a.kind := by
      intro hrestarts
      obtain ⟨token, hmem⟩ := Action.mem_armings.mp ((harms _).mpr ⟨hrestarts, rfl⟩)
      refine hnone token (b.turn.session.lasts a.kind) ?_
      rw [htakes.requests]
      exact Action.arm_mem_requests.mpr ⟨rfl, hmem⟩
    have hbefore : w.engine.handler.session? peer = some b.session := by
      refine htakes.before.resolve_right ?_
      rintro ⟨hnone, -⟩
      rw [Handler.slotsAt, hnone, TimerSlots.get_empty] at hold
      cases hold
    obtain ⟨time, hlatest, hdeadline⟩ := h.counted a hwaits b.session (hpeer ▸ hbefore)
    refine ⟨time, ?_, ?_⟩
    · rw [earlier, hbefore, ← hpeer]
      exact hlatest.before hnot
    · rw [hdeadline, hpaced.lasts_eq htakes.phase hk hnot]
  · -- the token is new, so the timer that waits under it is the one that is armed now
    rcases hqueue with hwaits | ⟨after, hmem, hdeadline⟩
    · exact absurd (hbelow hwaits) (Nat.not_lt.mpr hle)
    · rw [htakes.requests] at hmem
      have harming := Action.mem_armings.mpr ⟨_, (Action.arm_mem_requests.mp hmem).2⟩
      obtain ⟨hrestarts, rfl⟩ := (harms after).mp harming
      exact ⟨w.now, .here _ hrestarts, hdeadline⟩

end Takes

/-- An event is handled by a session or discarded. -/
theorem take (hl : w.engine.handler.Lives)
    (hbelow : ∀ a ∈ w.engine.schedule.queue, a.token < w.engine.handler.nextToken)
    (hlisted : ∀ a ∈ (w.take peer e).engine.schedule.queue,
      ((w.take peer e).engine.handler.slots a.peer).get a.kind = some a.token)
    (hdue : ∀ s token, w.engine.handler.session? peer = some s →
      e = .timerExpired .keepAlive token → s.timers.get .keepAlive = some token →
        ∃ time, Latest (·.Restarts .keepAlive) (w.history peer) time ∧
          w.now = time + s.lasts .keepAlive) : (w.take peer e).Punctual := by
  rcases Handler.process_beat hl peer e with ⟨b, hbeat, htakes⟩ | ⟨hbeat, -, hnext, hrequests⟩
  · refine ⟨fun q s hs => ?_, fun a ha s hs => ?_⟩
    · rw [now_take, history_take hbeat]
      by_cases hq : q = peer
      · subst hq
        obtain ⟨rfl, hpaced⟩ := htakes.paced_of_after hs
        rw [Function.update_self]
        refine (h.lived_earlier htakes).beat hpaced fun token hevent htoken => ?_
        rw [htakes.event] at hevent
        rcases htakes.before with hbefore | ⟨-, hcreates, -⟩
        · rw [earlier, hbefore]
          exact hdue _ token hbefore hevent htoken
        · rw [hevent] at hcreates
          cases hcreates
      · rw [Function.update_of_ne hq]
        exact h.lived q s (by rwa [← Handler.session?_process_of_ne hl hq])
    · rw [history_take hbeat]
      by_cases hq : a.peer = peer
      · have hslot := hlisted a ha
        rw [hq] at hs hslot
        obtain ⟨rfl, hpaced⟩ := htakes.paced_of_after hs
        have hk : (b.turn.session.timers.get a.kind).isSome := by
          rw [Handler.slots, hs] at hslot
          rw [hslot]
          rfl
        rw [hq, Function.update_self]
        exact h.counted_take htakes hl hq ha (hbelow a) hslot hpaced hk
      · have hwaits : a ∈ w.engine.schedule.queue := by
          rw [schedule_take] at ha
          refine (Schedule.deadline_of_apply ha).resolve_right ?_
          rintro ⟨after, hmem, -⟩
          rw [htakes.requests] at hmem
          exact hq (Action.arm_mem_requests.mp hmem).1
        rw [Function.update_of_ne hq]
        exact h.counted a hwaits s (by rwa [← Handler.session?_process_of_ne hl hq])
  · have hengine : (w.engine.take peer e).1 = w.engine := by
      show ClockedEngine.mk _ _ = _
      rw [hnext, ClockedEngine.foldl_schedule?,
        show (w.engine.handler.process peer e).effects.filterMap _ = [] from hrequests]
      rfl
    rw [Timeline.take, hbeat, hengine]
    exact h

end Punctual

/-- The schedule and the clock move on, and no session is told. -/
theorem Punctual.reset (h : w.Punctual) {s : Schedule Q} (hnow : w.now ≤ s.now)
    (hsub : ∀ a ∈ s.queue, a ∈ w.engine.schedule.queue) : (w.reset s).Punctual :=
  ⟨fun p s hs => (h.lived p s hs).mono hnow,
    fun a ha s hs => h.counted a (hsub a ha) s hs⟩

theorem Reached.punctual (h : Reached role settings firstId w)
    (hb : w.engine.schedule.broken = false) : w.Punctual := by
  induction h with
  | init => exact punctual_init
  | @task w h t ht ih =>
    have hb' := broken_of_take hb
    have hkept' := (h.task t ht).kept hb
    refine (ih hb').take h.lives (fun a ha => (h.kept hb').below a.timer ?_)
      (fun a ha => hkept'.listed a.timer (List.mem_map_of_mem ha)) fun s token _ hevent => ?_
    · exact List.mem_append_right _ (List.mem_append_left _ (List.mem_map_of_mem ha))
    · obtain ⟨peer, e⟩ := t
      obtain rfl : e = .timerExpired .keepAlive token := hevent
      cases ht
  | @expire w h horizon a s he ih =>
    have hb₁ : s.broken = false := broken_of_take (w := w.reset s) hb
    obtain ⟨-, -, -, -, hbroken⟩ := Schedule.expire?_eq_some he
    have hb' : w.engine.schedule.broken = false := hbroken ▸ hb₁
    have hpunctual := ih hb'
    obtain ⟨-, hnow, hqueue⟩ := h.prompt.expire he
    have ha : a ∈ w.engine.schedule.queue := by
      rw [hqueue]
      exact List.mem_cons_self
    have hsub : ∀ b ∈ s.queue, b ∈ w.engine.schedule.queue := by
      intro b hb
      rw [hqueue]
      exact List.mem_cons_of_mem _ hb
    have hkept' := (h.expire he).kept hb
    have hmoved : (w.reset s).Punctual := by
      refine hpunctual.reset ?_ hsub
      rw [hnow]
      exact h.prompt a ha
    refine hmoved.take h.lives (fun b hb => (h.kept hb').below b.timer ?_)
      (fun b hb => hkept'.listed b.timer (List.mem_map_of_mem hb)) fun s' token hs' hevent _ => ?_
    · exact List.mem_append_right _ (List.mem_append_left _ (List.mem_map_of_mem (hsub b hb)))
    · -- the expiry is handled at its deadline
      obtain ⟨hkind, -⟩ := SessionEvent.timerExpired.inj hevent
      obtain ⟨time, hlatest, hdeadline⟩ := hpunctual.counted a ha s' hs'
      rw [hkind] at hlatest hdeadline
      exact ⟨time, hlatest, hnow.trans hdeadline⟩
  | @wait w h horizon hnow hdue ih =>
    exact (ih hb).reset hnow fun a ha => Schedule.queue_rest w.engine.schedule horizon ▸ ha

/-- A timer in a slot waits once, and is due as long after its last restart as it lasts. -/
theorem Reached.due (h : Reached role settings firstId w)
    (hb : w.engine.schedule.broken = false) {p : PeerAddress} {s : Session}
    (hs : w.engine.handler.session? p = some s) {kind : TimerKind}
    (hk : (s.timers.get kind).isSome) :
    ∃ time, Latest (·.Restarts kind) (w.history p) time ∧ w.now ≤ time + s.lasts kind ∧
      w.engine.schedule.deadlines p kind = [time + s.lasts kind] := by
  have hkept := h.kept hb
  obtain ⟨token, htoken⟩ := Option.isSome_iff_exists.mp hk
  have hslot : (w.engine.handler.slots p).get kind = some token := by
    rw [Handler.slots, hs, htoken]
  obtain ⟨a, ha, htimer⟩ := List.mem_map.mp
    ((hkept.kept { peer := p, kind, token } hslot).resolve_right List.not_mem_nil)
  cases htimer
  obtain ⟨time, hlatest, hdeadline⟩ := (h.punctual hb).counted a ha s hs
  refine ⟨time, hlatest, ?_, ?_⟩
  · rw [← hdeadline]
    exact h.prompt a ha
  · rw [← hdeadline]
    have hdistinct : (w.engine.schedule.timers.map Timer.token).Nodup := by
      simpa using hkept.distinct
    refine Schedule.deadlines_eq_singleton hdistinct ha fun b hb hpeer hkind => ?_
    have hb' := hkept.listed b.timer (List.mem_map_of_mem hb)
    rw [show b.timer.peer = a.peer from hpeer, show b.timer.kind = a.kind from hkind] at hb'
    exact Option.some.inj (hb'.symm.trans hslot)

/-- What a session waits for is supervised.  The one timer that it has for that is due as long as
configured after the session last asked for a connect; came to wait for an OPEN, or sent a counter
proposal while it did; came to wait for an answer, or took over a counter proposal while it did.
Once it is up, the dead timer is due as long as the peer asked for after the session came up or was
last sent a well-formed message; and KEEPALIVEs have been sent at each full interval since it came
up, at no other time, and the next one is due at the next interval, which is not over yet. -/
structure Supervised (w : Timeline Q) (settings : Settings) (p : PeerAddress) (s : Session) :
    Prop where
  connect : s.state = .tcpPending → ∃ time, Latest Beat.Connects (w.history p) time ∧
    w.engine.schedule.deadlines p .connect = [time + settings.connectTimeout]
  openWait : s.state = .openWait → ∃ time,
    Latest (fun b => b.Enters .openWait ∨ b.Stays .openWait ∧ b.Counters) (w.history p) time ∧
      w.engine.schedule.deadlines p .openWait = [time + settings.openWait]
  keepWait : s.state = .keepWait → ∃ time,
    Latest (fun b => b.Enters .keepWait ∨ b.Stays .keepWait ∧ b.Adopts) (w.history p) time ∧
      w.engine.schedule.deadlines p .keepWait = [time + settings.keepWait]
  deadTimer : s.state = .sessionUp → 0 < s.peerDeadTimer → ∃ up heard,
    Latest (·.Enters .sessionUp) (w.history p) up ∧ Latest Beat.Hears (w.history p) heard ∧
      w.engine.schedule.deadlines p .deadTimer =
        [max up heard + .ofSeconds s.peerDeadTimer.toNat]
  keepAlive : s.state = .sessionUp → 0 < s.keepalive → ∃ up n,
    Latest (·.Enters .sessionUp) (w.history p) up ∧
      keepalives (w.history p) =
        (List.range n).map (fun i => up + (i + 1) * .ofSeconds s.keepalive.toNat) ∧
      w.now ≤ up + (n + 1) * .ofSeconds s.keepalive.toNat ∧
      w.engine.schedule.deadlines p .keepAlive =
        [up + (n + 1) * .ofSeconds s.keepalive.toNat]

/-- As long as no timer was armed too far ahead, all sessions are supervised. -/
theorem Reached.supervised (h : Reached role settings firstId w)
    (hb : w.engine.schedule.broken = false) {p : PeerAddress} {s : Session}
    (hs : w.engine.handler.session? p = some s) : w.Supervised settings p s := by
  obtain ⟨hconfig, hconfigured⟩ := h.configured
  have hlived := (h.punctual hb).lived p s hs
  have harmed := fun kind => ((h.lives p s hs).1.timer_iff kind).mpr
  have hwaits : ∀ kind : TimerKind, s.state = kind.state → kind ≠ .keepAlive →
      kind ≠ .deadTimer → ∃ time, Latest (·.Restarts kind) (w.history p) time ∧
        w.engine.schedule.deadlines p kind = [time + s.lasts kind] :=
    fun kind hstate hkeep hdead => by
      obtain ⟨time, hlatest, -, hdue⟩ := h.due hb hs (harmed _ ⟨hstate, by simp [hkeep, hdead]⟩)
      exact ⟨time, hlatest, hdue⟩
  rw [← hconfig, ← hconfigured p s hs]
  refine ⟨fun hstate => ?_, fun hstate => ?_, fun hstate => ?_, fun hstate hd => ?_,
    fun hstate hk => ?_⟩
  · exact hwaits .connect hstate (by simp) (by simp)
  · exact hwaits .openWait hstate (by simp) (by simp)
  · exact hwaits .keepWait hstate (by simp) (by simp)
  · obtain ⟨time, hlatest, -, hdue⟩ := h.due hb hs (harmed .deadTimer ⟨hstate, by simp [hd]⟩)
    obtain ⟨up, heard, n, hupkeep⟩ := hlived.upkeep hstate
    rw [Latest.unique (P := Beat.Hears) hlatest hupkeep.hears] at hdue
    refine ⟨up, heard, hupkeep.entered, hupkeep.hears, ?_⟩
    rw [Nat.max_eq_right hupkeep.order]
    exact hdue
  · obtain ⟨time, hlatest, hnow, hdue⟩ := h.due hb hs (harmed .keepAlive ⟨hstate, by simp [hk]⟩)
    obtain ⟨up, heard, n, hupkeep⟩ := hlived.upkeep hstate
    rw [hupkeep.due_of_latest hlatest] at hnow hdue
    exact ⟨up, n, hupkeep.entered, hupkeep.sent, hnow, hdue⟩

/-! #### What is in reach -/

/-- A turn that is taken early enough arms no timer too far ahead. -/
theorem broken_take_of_reach (hl : w.engine.handler.Lives) (hc : w.engine.handler.Configured)
    (hb : w.engine.schedule.broken = false)
    (hreach : w.now + w.engine.handler.settings.longest ≤ Wheel.reach) (peer : PeerAddress)
    (e : SessionEvent) : (w.take peer e).engine.schedule.broken = false := by
  rw [schedule_take]
  refine Schedule.broken_foldl_of_reach hb fun q kind token after harm => ?_
  have hgrants := (Handler.timed_process hl hc harm).1
  exact (Nat.add_le_add_left hgrants.le_longest _).trans hreach

/-- The longest of all timers is still in reach, so none was armed too far ahead. -/
theorem Reached.whole (h : Reached role settings firstId w)
    (hreach : w.now + settings.longest ≤ Wheel.reach) : w.engine.schedule.broken = false := by
  induction h with
  | init => rfl
  | @task w h t ht ih =>
    obtain ⟨rfl, hconfigured⟩ := h.configured
    rw [now_take] at hreach
    exact broken_take_of_reach h.lives hconfigured (ih hreach) hreach _ _
  | @expire w h horizon a s he ih =>
    obtain ⟨rfl, hconfigured⟩ := h.configured
    obtain ⟨-, -, hnow, -, hbroken⟩ := Schedule.expire?_eq_some he
    rw [now_take] at hreach
    have hearlier : w.now ≤ s.now := hnow ▸ Nat.le_max_left ..
    have hwhole := ih ((Nat.add_le_add_right hearlier _).trans hreach)
    have hreset := hbroken.trans hwhole
    exact broken_take_of_reach (w := w.reset s) h.lives hconfigured hreset hreach _ _
  | wait h horizon hnow hdue ih => exact ih ((Nat.add_le_add_right hnow _).trans hreach)

/-- When a timer was armed too far ahead, none waits any more. -/
theorem Reached.lapsed (h : Reached role settings firstId w) : w.engine.schedule.Lapsed :=
  h.schedule_induction Schedule.lapsed_empty (fun _ r hs => hs.apply r)
    (fun _ _ _ _ he hs => hs.expire he) fun _ _ _ hs => hs.rest _

/-- **Timed supervision is exact while timers are in reach.**  Let the clock stop at every deadline.
As long as the longest timer that the settings ask for can still be armed, no timer was armed too
far ahead; as long as none was, every session is supervised; and once one was, no timer of any
session is ever due again. -/
theorem supervision_exact (h : Reached role settings firstId w) :
    (w.now + settings.longest ≤ Wheel.reach → w.engine.schedule.broken = false) ∧
      (w.engine.schedule.broken = false → ∀ p s, w.engine.handler.session? p = some s →
        w.Supervised settings p s) ∧
      (w.engine.schedule.broken = true → ∀ p kind, w.engine.schedule.deadlines p kind = []) := by
  refine ⟨h.whole, fun hb p s hs => h.supervised hb hs, fun hb p kind => ?_⟩
  rw [Schedule.deadlines, h.lapsed hb]
  rfl

/-- A session comes up two seconds after its peer connected, sends a KEEPALIVE when 30 seconds are
over, and is sent one at 40 seconds.  The next KEEPALIVE is due at the full minute after coming up,
and the dead timer two minutes after the peer was heard of. -/
theorem supervision_exact_up :
    let p := PeerAddress.v4 ⟨10, 0, 0, 1⟩ 4189
    ∃ (w : Timeline WheelQueue) (s : Session), Reached .server {} 1 w ∧
      w.engine.schedule.broken = false ∧
      w.engine.handler.session? p = some s ∧ s.state = .sessionUp ∧ w.now = 40000 ∧
      keepalives (w.history p) = [32000] ∧
      w.engine.schedule.deadlines p .keepAlive = [62000] ∧
      w.engine.schedule.deadlines p .deadTimer = [160000] ∧ w.Supervised {} p s := by
  intro p
  let w₁ : Timeline WheelQueue := (init .server {} 1).take p .accepted
  have h₁ : Reached .server {} 1 w₁ := Reached.init.task ⟨p, .accepted⟩ rfl
  let w₂ := (w₁.reset (w₁.engine.schedule.rest 1000)).take p
    (.network (OpenObject.propose 30 120 1).message)
  have h₂ : Reached .server {} 1 w₂ := (h₁.wait 1000 (by decide +kernel) (by decide +kernel)).task
    ⟨p, .network (OpenObject.propose 30 120 1).message⟩ rfl
  let w₃ := (w₂.reset (w₂.engine.schedule.rest 2000)).take p (.network keepaliveMessage)
  have h₃ : Reached .server {} 1 w₃ := (h₂.wait 2000 (by decide +kernel) (by decide +kernel)).task
    ⟨p, .network keepaliveMessage⟩ rfl
  -- the keepalive timer is the first that is due
  let due := (w₃.engine.schedule.expire? 32000).get (by decide +kernel)
  let w₄ := (w₃.reset due.2).take due.1.peer (.timerExpired due.1.kind due.1.token)
  have h₄ : Reached .server {} 1 w₄ := h₃.expire (Option.some_get _).symm
  let w₅ := (w₄.reset (w₄.engine.schedule.rest 40000)).take p (.network keepaliveMessage)
  have h₅ : Reached .server {} 1 w₅ := (h₄.wait 40000 (by decide +kernel) (by decide +kernel)).task
    ⟨p, .network keepaliveMessage⟩ rfl
  obtain ⟨s, hs, hup⟩ : ∃ s, w₅.engine.handler.session? p = some s ∧ s.state = .sessionUp :=
    Option.map_eq_some_iff.mp (by decide +kernel)
  obtain ⟨hreach, hexact, -⟩ := supervision_exact h₅
  have hb := hreach (by decide +kernel)
  exact ⟨w₅, s, h₅, hb, hs, hup, by decide +kernel, by decide +kernel, by decide +kernel,
    by decide +kernel, hexact hb p s hs⟩

/-- A session waits for an OPEN, and nothing ever ends that wait: its timer was out of reach.  The
wait is one that a checked configuration may ask for, or the node had been idle for too long when
its peer connected. -/
theorem unsupervised_out_of_reach :
    let c : NodeConfig := { session := { openWait := 68719477 } }
    let p := PeerAddress.v4 ⟨10, 0, 0, 1⟩ 4189
    c.check = .ok c ∧
      ∀ x ∈ [(c.session.settings, 0), (({} : NodeConfig).session.settings, Wheel.reach + 1)],
        ∃ (w : Timeline WheelQueue) (s : Session), Reached .server x.1 1 w ∧
          w.engine.handler.session? p = some s ∧ s.state = .openWait ∧ w.now = x.2 ∧
          w.engine.schedule.deadlines p .openWait = [] ∧ ¬ w.Supervised x.1 p s := by
  intro c p
  refine ⟨rfl, fun x hx => ?_⟩
  let w₀ : Timeline WheelQueue := init .server x.1 1
  let w := (w₀.reset (w₀.engine.schedule.rest x.2)).take p .accepted
  have hidle : w₀.engine.schedule.queue = [] := Schedule.queue_empty
  have h : Reached .server x.1 1 w :=
    (Reached.init.wait x.2 (Nat.zero_le _) fun a ha => nomatch hidle ▸ ha).task ⟨p, .accepted⟩ rfl
  obtain ⟨s, hs, hstate⟩ : ∃ s, w.engine.handler.session? p = some s ∧ s.state = .openWait :=
    Option.map_eq_some_iff.mp rfl
  have hnone : w.engine.schedule.deadlines p .openWait = [] := by
    simp only [List.mem_cons, List.not_mem_nil, or_false] at hx
    rcases hx with rfl | rfl <;> decide +kernel
  refine ⟨w, s, h, hs, hstate, ?_, hnone, fun hsupervised => ?_⟩
  · exact now_take ..
  · obtain ⟨time, -, hdue⟩ := hsupervised.openWait hstate
    rw [hnone] at hdue
    cases hdue

end Timeline

end PathSession
