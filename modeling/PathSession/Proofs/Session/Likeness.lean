import Mathlib.Data.List.Forall2
import PathSession.Proofs.Session.Moves

/-!
# Sessions that are alike

Two sessions may be told the same and yet differ in the tokens of their timers, in their session ids
and in messages that they only hand on.  They stay alike, and all that they ask for is alike, turn
by turn.

* `Likeness`: what may differ;
* `Likeness.Actions`, `Likeness.Sessions`, `Likeness.Turns`: actions, sessions and turns that do not
  differ in anything else, with one lemma for each move;
* `Likeness.start`, `Likeness.handle`: sessions that are alike have turns that are.
-/

namespace PathSession

namespace Turn

variable (t : Turn)

@[simp] theorem nextToken_release : t.release.nextToken = t.nextToken := by
  simp [release, TimerKind.all]

@[simp] theorem nextToken_close (reason : CloseReason) :
    (t.close reason).nextToken = t.nextToken := by
  unfold close
  by_cases h : t.session.outbound = []
  · simp [h]
  · simp [h]

end Turn

/-- What may differ between two sessions: their timers have other tokens, their ids are two, and
messages of one stand for messages of the other.  Those have the same type and the same content. -/
structure Likeness where
  token : TimerToken → TimerToken → Prop
  message : Message → Message → Prop
  id : UInt8
  id' : UInt8
  refl : ∀ m, message m m
  kind : ∀ {m m'}, message m m' → m'.kind = m.kind
  content : ∀ {m m'}, message m m' → m'.content = m.content

namespace Likeness

variable (L : Likeness)

/-- A message is handed on or is the same, or it proposes the same values under the other id. -/
inductive Sends : Message → Message → Prop
  | message {m m' : Message} (h : L.message m m') : Sends m m'
  | opening (keepalive deadTimer : UInt8) :
      Sends (OpenObject.propose keepalive deadTimer L.id).message
        (OpenObject.propose keepalive deadTimer L.id').message
  | counter (e : ErrorObject) (keepalive deadTimer : UInt8) :
      Sends (e.message (some (.propose keepalive deadTimer L.id)))
        (e.message (some (.propose keepalive deadTimer L.id')))

/-- Actions that are alike. -/
inductive Actions : Action → Action → Prop
  | connect : Actions .connect .connect
  | send {m m' : Message} (h : L.Sends m m') : Actions (.send m) (.send m')
  | deliver {m m' : Message} (h : L.message m m') : Actions (.deliver m) (.deliver m')
  | arm (k : TimerKind) {a b : TimerToken} (h : L.token a b) (after : Millis) :
      Actions (.armTimer k a after) (.armTimer k b after)
  | cancel (k : TimerKind) {a b : TimerToken} (h : L.token a b) :
      Actions (.cancelTimer k a) (.cancelTimer k b)
  | established : Actions .established .established
  | close (reason : CloseReason) : Actions (.close reason) (.close reason)

/-- Sessions that are alike. -/
inductive Sessions (s : Session) : Session → Prop
  | mk (timers : TimerSlots) (outbound : List Message) (hid : s.sessionId = L.id)
      (htimers : ∀ k, Option.Rel L.token (s.timers.get k) (timers.get k))
      (houtbound : List.Forall₂ L.message s.outbound outbound) :
      Sessions s { s with timers, sessionId := L.id', outbound }

/-- Events that are alike.  An expiry is that of the armed timer for both sessions or for none. -/
inductive Events (s s' : Session) : SessionEvent → SessionEvent → Prop
  | accepted : Events s s' .accepted .accepted
  | connectRequested : Events s s' .connectRequested .connectRequested
  | transportUp : Events s s' .transportUp .transportUp
  | transportFailed : Events s s' .transportFailed .transportFailed
  | connectionLost : Events s s' .connectionLost .connectionLost
  | framingFailed : Events s s' .framingFailed .framingFailed
  | network {m m' : Message} (h : L.message m m') : Events s s' (.network m) (.network m')
  | fromLocal {m m' : Message} (h : L.message m m') : Events s s' (.fromLocal m) (.fromLocal m')
  | timerExpired (k : TimerKind) {a b : TimerToken}
      (h : s.timers.get k = some a ↔ s'.timers.get k = some b) :
      Events s s' (.timerExpired k a) (.timerExpired k b)
  | closeRequested : Events s s' .closeRequested .closeRequested

/-- Turns that are alike, and will have the same tokens at hand. -/
structure Turns (t t' : Turn) : Prop where
  session : L.Sessions t.session t'.session
  fresh : ∀ i, L.token (t.nextToken + i) (t'.nextToken + i)
  actions : List.Forall₂ L.Actions t.actions t'.actions

variable {L}

/-- An event that is not an expiry is alike for all sessions. -/
theorem Events.refl (s s' : Session) {e : SessionEvent} (he : ∀ k a, e ≠ .timerExpired k a) :
    L.Events s s' e e := by
  cases e with
  | network m => exact .network (L.refl m)
  | fromLocal m => exact .fromLocal (L.refl m)
  | timerExpired k a => exact absurd rfl (he k a)
  | _ => constructor

/-! ### Sessions -/

namespace Sessions

variable {s s' : Session}

section

variable (h : L.Sessions s s')
include h

theorem state : s'.state = s.state := by cases h; rfl
theorem role : s'.role = s.role := by cases h; rfl
theorem closed : s'.closed = s.closed := by cases h; rfl
theorem initiator : s'.initiator = s.initiator := by cases h; rfl
theorem connected : s'.connected = s.connected := by cases h; rfl
theorem settings : s'.settings = s.settings := by cases h; rfl
theorem localOk : s'.localOk = s.localOk := by cases h; rfl
theorem remoteOk : s'.remoteOk = s.remoteOk := by cases h; rfl
theorem keepalive : s'.keepalive = s.keepalive := by cases h; rfl
theorem deadTimer : s'.deadTimer = s.deadTimer := by cases h; rfl
theorem peerDeadTimer : s'.peerDeadTimer = s.peerDeadTimer := by cases h; rfl
theorem openRetries : s'.openRetries = s.openRetries := by cases h; rfl
theorem connectRetries : s'.connectRetries = s.connectRetries := by cases h; rfl
theorem keepaliveStarted : s'.keepaliveStarted = s.keepaliveStarted := by cases h; rfl
theorem ids : s.sessionId = L.id ∧ s'.sessionId = L.id' := by cases h; exact ⟨‹_›, rfl⟩

theorem timers (k : TimerKind) : Option.Rel L.token (s.timers.get k) (s'.timers.get k) := by
  cases h with
  | mk timers outbound hid htimers houtbound => exact htimers k

theorem outbound : List.Forall₂ L.message s.outbound s'.outbound := by
  cases h with
  | mk timers outbound hid htimers houtbound => exact houtbound

/-- A change that does not touch what may differ. -/
theorem change {f : Session → Session}
    (hf : ∀ timers sessionId outbound, f { s with timers, sessionId, outbound } =
      { f s with timers, sessionId, outbound }) : L.Sessions (f s) (f s') := by
  cases h with
  | mk timers outbound hid htimers houtbound =>
    have hself : f s = { f s with
        timers := s.timers, sessionId := s.sessionId, outbound := s.outbound } := hf ..
    rw [hf timers L.id' outbound]
    refine .mk timers outbound ?_ ?_ ?_
    · rw [hself]
      exact hid
    · rw [hself]
      exact htimers
    · rw [hself]
      exact houtbound

theorem set (k : TimerKind) {a b : Option TimerToken} (hab : Option.Rel L.token a b) :
    L.Sessions { s with timers := s.timers.set k a } { s' with timers := s'.timers.set k b } := by
  cases h with
  | mk timers outbound hid htimers houtbound =>
    refine .mk (timers.set k b) outbound hid (fun k' => ?_) houtbound
    rw [TimerSlots.get_set, TimerSlots.get_set]
    split
    · exact hab
    · exact htimers k'

theorem queue {m m' : List Message} (hm : List.Forall₂ L.message m m') :
    L.Sessions { s with outbound := m } { s' with outbound := m' } := by
  cases h with
  | mk timers outbound hid htimers houtbound => exact .mk timers m' hid htimers hm

theorem ended : L.Sessions s.ended s'.ended := by
  cases h with
  | mk timers outbound hid htimers houtbound =>
    refine .mk {} [] hid (fun k => ?_) .nil
    cases k <;> exact .none

/-- Both propose the same values in place of a proposal. -/
theorem proposal (o : OpenObject) :
    L.Sends
      ((ErrorObject.establishment .negotiable).message
        (some (s.settings.policy.counterProposal o s.sessionId)))
      ((ErrorObject.establishment .negotiable).message
        (some (s'.settings.policy.counterProposal o s'.sessionId))) := by
  rw [h.settings, h.ids.1, h.ids.2]
  exact .counter _ _ _

/-- What others may see is the same. -/
theorem snapshot : s'.snapshot = s.snapshot := by
  cases h with
  | mk timers outbound hid htimers houtbound =>
    have harmed : timers.armed = s.timers.armed := by
      refine List.filter_congr fun k _ => ?_
      cases hs : s.timers.get k <;> cases hs' : timers.get k <;> have hk := htimers k <;>
        rw [hs, hs'] at hk <;> first | rfl | cases hk
    simp only [Session.snapshot, harmed, houtbound.length_eq]

end

end Sessions

/-! ### Moves -/

theorem cancels (k : TimerKind) {a b : Option TimerToken} (h : Option.Rel L.token a b) :
    List.Forall₂ L.Actions (Action.cancels k a) (Action.cancels k b) := by
  cases h with
  | none => exact .nil
  | some hab => exact .cons (.cancel k hab) .nil

theorem cancellations {s s' : Session} (h : L.Sessions s s') :
    List.Forall₂ L.Actions (Turn.cancellations s) (Turn.cancellations s') := by
  have hcancels := fun k => cancels k (h.timers k)
  exact List.rel_append (hcancels _) (List.rel_append (hcancels _) (List.rel_append (hcancels _)
    (List.rel_append (hcancels _) (List.rel_append (hcancels _) .nil))))

namespace Turns

variable {t t' : Turn}

section

variable (h : L.Turns t t')
include h

theorem note (n n' : Note) : L.Turns (t.note n) (t'.note n') := ⟨h.session, h.fresh, h.actions⟩

theorem change {f : Session → Session}
    (hf : ∀ timers sessionId outbound, f { t.session with timers, sessionId, outbound } =
      { f t.session with timers, sessionId, outbound }) : L.Turns (t.change f) (t'.change f) :=
  ⟨h.session.change hf, h.fresh, h.actions⟩

theorem act {a a' : Action} (ha : L.Actions a a') : L.Turns (t.act a) (t'.act a') :=
  ⟨h.session, h.fresh, List.rel_append h.actions (.cons ha .nil)⟩

theorem enter (target : State) : L.Turns (t.enter target) (t'.enter target) :=
  (h.note _ _).change fun _ _ _ => rfl

theorem send {m m' : Message} (hm : L.Sends m m') : L.Turns (t.send m) (t'.send m') :=
  h.act (.send hm)

/-- A message of the protocol that proposes nothing. -/
theorem say (m : Message) : L.Turns (t.send m) (t'.send m) := h.send (.message (L.refl m))

theorem sendOpen : L.Turns t.sendOpen t'.sendOpen := by
  unfold Turn.sendOpen
  rw [h.session.keepalive, h.session.deadTimer, h.session.ids.1, h.session.ids.2]
  exact h.send (.opening _ _)

theorem cancel (k : TimerKind) : L.Turns (t.cancel k) (t'.cancel k) := by
  refine ⟨?_, fun i => ?_, ?_⟩
  · rw [Turn.session_cancel, Turn.session_cancel]
    exact h.session.set k .none
  · rw [Turn.nextToken_cancel, Turn.nextToken_cancel]
    exact h.fresh i
  · rw [Turn.actions_cancel, Turn.actions_cancel]
    exact List.rel_append h.actions (cancels k (h.session.timers k))

theorem arm (k : TimerKind) (after : Millis) : L.Turns (t.arm k after) (t'.arm k after) := by
  refine ⟨?_, fun i => ?_, ?_⟩
  · rw [Turn.session_arm, Turn.session_arm]
    exact h.session.set k (.some (h.fresh 0))
  · rw [Turn.nextToken_arm, Turn.nextToken_arm, Nat.add_assoc, Nat.add_assoc]
    exact h.fresh (1 + i)
  · rw [Turn.actions_arm, Turn.actions_arm]
    exact List.rel_append (List.rel_append h.actions (cancels k (h.session.timers k)))
      (.cons (.arm k (h.fresh 0) after) .nil)

theorem close (reason : CloseReason) : L.Turns (t.close reason) (t'.close reason) := by
  refine ⟨?_, fun i => ?_, ?_⟩
  · rw [Turn.session_close, Turn.session_close]
    exact h.session.ended
  · rw [Turn.nextToken_close, Turn.nextToken_close]
    exact h.fresh i
  · rw [Turn.actions_close, Turn.actions_close]
    exact List.rel_append (List.rel_append h.actions (cancellations h.session))
      (.cons (.close reason) .nil)

theorem refuse (e : EstablishmentError) (reason : CloseReason) :
    L.Turns (t.refuse e reason) (t'.refuse e reason) := (h.say _).close reason

omit h in
/-- Both turns go on in the same way. -/
theorem ite {c c' : Prop} [Decidable c] [Decidable c'] (hc : c' = c) {a a' b b' : Turn}
    (ha : L.Turns a a') (hb : L.Turns b b') :
    L.Turns (if c then a else b) (if c' then a' else b') := by
  subst hc
  by_cases hc : c'
  · rw [if_pos hc, if_pos hc]
    exact ha
  · rw [if_neg hc, if_neg hc]
    exact hb

theorem formatError : L.Turns t.formatError t'.formatError := by
  unfold Turn.formatError
  rw [h.session.state]
  cases t.session.state <;> dsimp only
  · exact h.close _
  · exact h.close _
  · exact (h.say _).close _
  · exact (h.say _).close _
  · exact (h.say _).close _

theorem routeFromLocal {m m' : Message} (hm : L.message m m') :
    L.Turns (t.routeFromLocal m) (t'.routeFromLocal m') := by
  unfold Turn.routeFromLocal
  rw [h.session.role, L.kind hm]
  split
  · exact h.send (.message hm)
  · exact h.send (.message hm)
  · exact h.send (.message hm)
  · exact h.send (.message hm)
  · exact h.note _ _

theorem routeFromNetwork {m m' : Message} (hm : L.message m m') (kind : MessageKind) :
    L.Turns (t.routeFromNetwork m kind) (t'.routeFromNetwork m' kind) := by
  unfold Turn.routeFromNetwork
  rw [h.session.role]
  split
  · exact h.act (.deliver hm)
  · exact h.act (.deliver hm)
  · exact h.act (.deliver hm)
  · exact h.act (.deliver hm)
  · exact h.note _ _

/-- A timer is armed for a time that the settings give. -/
theorem armFor (k : TimerKind) (after : Settings → Millis) :
    L.Turns (t.arm k (after t.session.settings)) (t'.arm k (after t'.session.settings)) := by
  rw [h.session.settings]
  exact h.arm k _

theorem awaitOpen : L.Turns t.awaitOpen t'.awaitOpen := (h.armFor .openWait (·.openWait)).enter _

theorem awaitAnswer : L.Turns t.awaitAnswer t'.awaitAnswer :=
  (h.armFor .keepWait (·.keepWait)).enter _

theorem greet : L.Turns t.greet t'.greet := (h.change fun _ _ _ => rfl).sendOpen

theorem restartDeadTimer : L.Turns t.restartDeadTimer t'.restartDeadTimer := by
  unfold Turn.restartDeadTimer
  rw [h.session.peerDeadTimer]
  exact .ite rfl (h.arm _ _) h

theorem startKeepalives : L.Turns t.startKeepalives t'.startKeepalives := by
  have hstarted := h.change (f := fun s => { s with keepaliveStarted := true }) fun _ _ _ => rfl
  have harmed : L.Turns
      ((t.change fun s => { s with keepaliveStarted := true }).arm .keepAlive
        (Millis.ofSeconds t.session.keepalive.toNat))
      ((t'.change fun s => { s with keepaliveStarted := true }).arm .keepAlive
        (Millis.ofSeconds t'.session.keepalive.toNat)) := by
    rw [h.session.keepalive]
    exact hstarted.arm _ _
  exact .ite (by rw [h.session.keepaliveStarted]) h
    (.ite (by rw [hstarted.session.keepalive]) harmed hstarted)

end

theorem foldl_routeFromLocal {queue queue' : List Message}
    (hq : List.Forall₂ L.message queue queue') (h : L.Turns t t') :
    L.Turns (queue.foldl Turn.routeFromLocal t) (queue'.foldl Turn.routeFromLocal t') := by
  induction hq generalizing t t' with
  | nil => exact h
  | cons hm _ ih => exact ih (h.routeFromLocal hm)

section

variable (h : L.Turns t t')
include h

theorem flush : L.Turns t.flush t'.flush := by
  have hnoted : ∀ (c c' : Prop) [Decidable c] [Decidable c'] (n n' : Note),
      L.Turns (if c then t else t.note n) (if c' then t' else t'.note n') := by
    intro c c' _ _ n n'
    split <;> split <;> exact ⟨h.session, h.fresh, h.actions⟩
  have hqueue := hnoted (t.session.outbound.isEmpty = true) (t'.session.outbound.isEmpty = true)
    (.flushing t.session.outbound.length) (.flushing t'.session.outbound.length)
  exact foldl_routeFromLocal h.session.outbound
    ⟨hqueue.session.queue .nil, hqueue.fresh, hqueue.actions⟩

theorem enterUp : L.Turns t.enterUp t'.enterUp :=
  (((h.enter _).startKeepalives.restartDeadTimer.note _ _).act .established).flush

theorem connectFailed : L.Turns t.connectFailed t'.connectFailed := by
  have hcounted := h.change (f := fun s => { s with connectRetries := s.connectRetries + 1 })
    fun _ _ _ => rfl
  exact .ite (by rw [hcounted.session.settings, hcounted.session.connectRetries])
    ((hcounted.note _ _).close _)
    ((((hcounted.note _ _).act .connect).armFor .connect (·.connectTimeout)).enter _)

/-! ### Negotiating -/

theorem accept (offer : OpenObject) : L.Turns (t.accept offer) (t'.accept offer) := by
  have haccepted := ((((h.note (.proposalAccepted offer) (.proposalAccepted offer)).change
    (f := fun s => { s with peerKeepalive := offer.keepalive, peerDeadTimer := offer.deadTimer })
    fun _ _ _ => rfl).say keepaliveMessage).change (f := fun s => { s with remoteOk := true })
    fun _ _ _ => rfl).cancel .openWait
  exact .ite (by rw [haccepted.session.localOk]) haccepted.enterUp haccepted.awaitAnswer

theorem counter (offer : OpenObject) : L.Turns (t.counter offer) (t'.counter offer) := by
  have hcounted := h.change (f := fun s => { s with openRetries := s.openRetries + 1 })
    fun _ _ _ => rfl
  have hsent := fun n n' => (hcounted.note n n').send (hcounted.session.proposal offer)
  exact .ite (by rw [(hsent _ _).session.localOk]) (hsent _ _).awaitOpen
    ((hsent _ _).cancel .openWait).awaitAnswer

theorem consider (offer : OpenObject) : L.Turns (t.consider offer) (t'.consider offer) := by
  unfold Turn.consider
  rw [h.session.settings]
  cases t.session.settings.policy.check offer with
  | acceptable => exact h.accept offer
  | negotiable =>
    exact .ite (by rw [h.session.openRetries]) (h.counter offer) ((h.note _ _).refuse _ _)
  | notNegotiable => exact (h.note _ _).refuse _ _

theorem inOpenWait {m m' : Message} (hm : L.message m m') :
    L.Turns (t.inOpenWait m) (t'.inOpenWait m') := by
  unfold Turn.inOpenWait
  rw [L.kind hm, L.content hm]
  split
  · exact (h.note _ _).formatError
  · split
    · exact (h.note _ _).formatError
    · exact h.consider _
    · exact h.formatError
  · exact (h.note _ _).close _

theorem accepted : L.Turns t.accepted t'.accepted := by
  have haccepted := (h.change (f := fun s => { s with localOk := true }) fun _ _ _ => rfl).cancel
    .keepWait
  exact .ite (by rw [haccepted.session.remoteOk]) haccepted.enterUp haccepted.awaitOpen

theorem adopt (proposal : OpenObject) : L.Turns (t.adopt proposal) (t'.adopt proposal) := by
  have hadopted := ((h.note (.adopted proposal) (.adopted proposal)).change
    (f := fun s => { s with keepalive := proposal.keepalive, deadTimer := proposal.deadTimer })
    fun _ _ _ => rfl).sendOpen
  exact .ite (by rw [hadopted.session.remoteOk]) hadopted.awaitAnswer
    (hadopted.cancel .keepWait).awaitOpen

theorem inKeepWait {m m' : Message} (hm : L.message m m') :
    L.Turns (t.inKeepWait m) (t'.inKeepWait m') := by
  unfold Turn.inKeepWait
  rw [L.kind hm, L.content hm, h.session.settings]
  split
  · exact (h.note _ _).formatError
  · refine .ite rfl ?_ ((h.note _ _).close _)
    split
    · exact (h.note _ _).formatError
    · exact h.accepted
    · split
      · exact h.adopt _
      · exact (h.note _ _).refuse _ _
    · exact h.close _

theorem inSessionUp {m m' : Message} (hm : L.message m m') :
    L.Turns (t.inSessionUp m) (t'.inSessionUp m') := by
  unfold Turn.inSessionUp
  rw [L.content hm]
  split
  · exact (h.note _ _).formatError
  · simp only
    split
    · exact h.restartDeadTimer.note _ _
    · exact h.restartDeadTimer.note _ _
    · exact (h.restartDeadTimer.note _ _).close _
    · exact h.restartDeadTimer.routeFromNetwork hm _
    · exact h.restartDeadTimer.routeFromNetwork hm _

/-! ### Events -/

theorem fromNetwork {m m' : Message} (hm : L.message m m') :
    L.Turns (t.fromNetwork m) (t'.fromNetwork m') := by
  unfold Turn.fromNetwork
  rw [h.session.state]
  split
  · exact h.inOpenWait hm
  · exact h.inKeepWait hm
  · exact h.inSessionUp hm
  · exact h.note _ _
  · exact h.note _ _

theorem fromLocal {m m' : Message} (hm : L.message m m') :
    L.Turns (t.fromLocal m) (t'.fromLocal m') := by
  have hqueued : ∀ n n' : Note, L.Turns
      ((t.note n).change fun s => { s with outbound := s.outbound ++ [m] })
      ((t'.note n').change fun s => { s with outbound := s.outbound ++ [m'] }) := fun n n' =>
    ⟨h.session.queue (List.rel_append h.session.outbound (.cons hm .nil)), h.fresh, h.actions⟩
  exact .ite (by rw [h.session.state]) (h.routeFromLocal hm)
    (.ite (by rw [h.session.role]) (hqueued _ _) (h.note _ _))

theorem expire (kind : TimerKind) : L.Turns (t.expire kind) (t'.expire kind) := by
  have hnoted := h.note (.expired t.session.state kind) (.expired t'.session.state kind)
  unfold Turn.expire
  cases kind with
  | connect => exact .ite (by rw [hnoted.session.state]) hnoted.connectFailed hnoted
  | openWait => exact (hnoted.note _ _).refuse _ _
  | keepWait => exact (hnoted.note _ _).refuse _ _
  | deadTimer => exact ((hnoted.note _ _).say _).close _
  | keepAlive =>
    dsimp only
    rw [hnoted.session.keepalive]
    exact (hnoted.say _).arm _ _

theorem transportUp : L.Turns t.transportUp t'.transportUp :=
  .ite (by rw [h.session.state]) (h.greet.cancel _).awaitOpen (h.note _ _)

theorem take {e e' : SessionEvent} (he : L.Events t.session t'.session e e') :
    L.Turns (t.take e) (t'.take e') := by
  cases he with
  | accepted => exact h.note _ _
  | connectRequested => exact h.note _ _
  | transportUp => exact h.transportUp
  | transportFailed => exact .ite (by rw [h.session.state]) h.connectFailed h
  | connectionLost => exact .ite (by rw [h.session.state]) h.connectFailed (h.close _)
  | framingFailed => exact (h.note _ _).formatError
  | network hm => exact h.fromNetwork hm
  | fromLocal hm => exact h.fromLocal hm
  | timerExpired k hk =>
    have hcleared : L.Turns (t.change fun s => { s with timers := s.timers.set k none })
        (t'.change fun s => { s with timers := s.timers.set k none }) :=
      ⟨h.session.set k .none, h.fresh, h.actions⟩
    exact .ite (propext hk.symm) (hcleared.expire k) (h.note _ _)
  | closeRequested => exact (ite (by rw [h.session.connected]) (h.say _) h).close _

end

end Turns

/-! ### Sessions at work -/

variable {s s' : Session} {n n' : TimerToken}

theorem turns_start (h : L.Sessions s s') (hn : ∀ i, L.token (n + i) (n' + i)) :
    L.Turns (Turn.start s n) (Turn.start s' n') := ⟨h, hn, .nil⟩

/-- Sessions that are alike start alike. -/
theorem start (h : L.Sessions s s') (hn : ∀ i, L.token (n + i) (n' + i)) :
    L.Turns (s.start n) (s'.start n') := by
  have hstart := turns_start h hn
  exact .ite (by rw [h.initiator])
    (((hstart.armFor .connect (·.connectTimeout)).act .connect).enter _) hstart.greet.awaitOpen

/-- Sessions that are alike take what is alike in the same way. -/
theorem handle (h : L.Sessions s s') (hn : ∀ i, L.token (n + i) (n' + i))
    {e e' : SessionEvent} (he : L.Events s s' e e') :
    L.Turns (s.handle n e) (s'.handle n' e') :=
  .ite (by rw [h.closed]) ((turns_start h hn).note _ _) ((turns_start h hn).take he)

end Likeness

end PathSession
