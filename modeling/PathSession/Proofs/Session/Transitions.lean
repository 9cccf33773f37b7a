import PathSession.Proofs.Session.Attempts

/-!
# The states a session goes through

A session says to which state it moves, and from which.  Each of its moves is one that the table of
states allows, and starts from where the one before it has ended, also when the session is released
somewhere in between and is told of further events after that.  What it counts on its way stays
within fixed bounds, and it proposes other values under the policy that it was created with.

* `State.follow?`: the state that a list of requested changes leads to, if each is in order;
* `Turn.Lawful`: a turn changes the state in order only, and counts no further than it may;
* `Session.lawful_start`, `Session.lawful_handle`, `Session.lawful_release`: all turns are lawful;
* `Session.Call`, `Session.Life`, `Party.life`: a session since its start, with its releases;
* `Party.requests_allowed`: the states that a life goes through.
-/

namespace PathSession

/-! ### Requests -/

namespace State

/-- The state after a requested change, if the change starts here and is allowed. -/
def move? (s : State) (request : State × State) : Option State :=
  if request.1 = s ∧ s.canBecome request.2 = true then some request.2 else none

/-- The state after several requested changes, if each starts where the one before it has ended and
is allowed. -/
def follow? (s : State) (requests : List (State × State)) : Option State := requests.foldlM move? s

variable {s s' : State} {request : State × State} {requests : List (State × State)}

theorem move?_eq_some : s.move? request = some s' ↔
    request.1 = s ∧ s.canBecome request.2 = true ∧ request.2 = s' := by
  simp [move?, and_assoc]

theorem follow?_cons : s.follow? (request :: requests) =
    (s.move? request).bind (·.follow? requests) := rfl

theorem follow?_append (s : State) (xs ys : List (State × State)) :
    s.follow? (xs ++ ys) = (s.follow? xs).bind (·.follow? ys) := List.foldlM_append

theorem canBecome_of_eq {target : State} (hs : s = s') (h : s'.canBecome target = true) :
    s.canBecome target = true := hs ▸ h

/-- Changes that can be followed are allowed. -/
theorem canBecome_of_follow? (h : s.follow? requests = some s') :
    ∀ r ∈ requests, r.1.canBecome r.2 = true := by
  induction requests generalizing s with
  | nil => exact nofun
  | cons request requests ih =>
    rw [follow?_cons] at h
    obtain ⟨s₁, hmove, h⟩ := Option.bind_eq_some_iff.mp h
    obtain ⟨rfl, hallowed, rfl⟩ := move?_eq_some.mp hmove
    exact List.forall_mem_cons.mpr ⟨hallowed, ih h⟩

end State

namespace Note

/-- The change of state that a remark is about. -/
def request? : Note → Option (State × State)
  | transition source target => some (source, target)
  | _ => none

/-- Whether a remark is about neither a change of state nor a counter proposal. -/
def isPlain : Note → Bool
  | transition .. | counterProposed .. => false
  | _ => true

theorem request?_of_isPlain {n : Note} (hn : n.isPlain = true) : n.request? = none := by
  cases n <;> first | rfl | cases hn

end Note

/-! ### Turns -/

namespace Turn

/-- The changes of state requested in a turn, in order. -/
def requests (t : Turn) : List (State × State) := t.notes.filterMap Note.request?

theorem requests_note (t : Turn) (n : Note) :
    (t.note n).requests = t.requests ++ n.request?.toList := by
  cases h : n.request? <;> simp [requests, note, h]

theorem notes_cancel (t : Turn) (k : TimerKind) : (t.cancel k).notes = t.notes := by
  unfold cancel
  split <;> rfl

theorem state_cancel (t : Turn) (k : TimerKind) :
    (t.cancel k).session.state = t.session.state := by
  rw [session_cancel]

/-- A turn, begun with a session, in which the state changes in order only, other values are
proposed under the policy of the session, and that is counted once at most. -/
structure Lawful (s : Session) (t : Turn) : Prop where
  walk : s.state.follow? t.requests = some t.session.state
  party : t.session.party = s.party
  countered : ∀ offer proposal, .counterProposed offer proposal ∈ t.notes →
    proposal = s.settings.policy.counterProposal offer s.sessionId
  retries : t.session.openRetries ≤ max 1 s.openRetries

namespace Lawful

variable {s : Session} {t : Turn} (h : Lawful s t)
include h

theorem settings : t.session.settings = s.settings := congrArg Party.settings h.party

theorem change {f : Session → Session} (hs : (f t.session).state = t.session.state)
    (hp : (f t.session).party = t.session.party)
    (hr : (f t.session).openRetries = t.session.openRetries) : Lawful s (t.change f) where
  walk := h.walk.trans (congrArg some hs.symm)
  party := hp.trans h.party
  countered := h.countered
  retries := hr.le.trans h.retries

/-- The first counter proposal is counted. -/
theorem countOpen (h0 : t.session.openRetries = 0) :
    Lawful s (t.change fun s' => { s' with openRetries := s'.openRetries + 1 }) where
  walk := h.walk
  party := h.party
  countered := h.countered
  retries := by
    rw [session_change, h0]
    exact le_max_left ..

theorem act (a : Action) : Lawful s (t.act a) := ⟨h.walk, h.party, h.countered, h.retries⟩

theorem send (m : Message) : Lawful s (t.send m) := h.act _

theorem note {n : Note} (hn : n.isPlain = true) : Lawful s (t.note n) where
  walk := by
    rw [requests_note, Note.request?_of_isPlain hn]
    exact (congrArg _ (List.append_nil _)).trans h.walk
  party := h.party
  countered offer proposal hmem := by
    rcases List.mem_append.mp hmem with hmem | hmem
    · exact h.countered offer proposal hmem
    · rw [← List.mem_singleton.mp hmem] at hn
      cases hn
  retries := h.retries

/-- A remark on a counter proposal tells the one that the policy gives. -/
theorem noteCountered (offer : OpenObject) : Lawful s (t.note (.counterProposed offer
    (t.session.settings.policy.counterProposal offer t.session.sessionId))) where
  walk := by
    rw [requests_note]
    exact (congrArg _ (List.append_nil _)).trans h.walk
  party := h.party
  countered offer' proposal hmem := by
    rcases List.mem_append.mp hmem with hmem | hmem
    · exact h.countered offer' proposal hmem
    · obtain ⟨rfl, rfl⟩ := Note.counterProposed.inj (List.mem_singleton.mp hmem)
      rw [h.settings, show t.session.sessionId = s.sessionId from congrArg Party.sessionId h.party]
  retries := h.retries

theorem enter {target : State} (ht : t.session.state.canBecome target = true) :
    Lawful s (t.enter target) where
  walk := by
    have hrequests : (t.enter target).requests = t.requests ++ [(t.session.state, target)] :=
      requests_note t _
    rw [hrequests, State.follow?_append, h.walk]
    exact congrArg (Option.bind · _) (State.move?_eq_some.mpr ⟨rfl, ht, rfl⟩)
  party := h.party
  countered offer proposal hmem := by
    rcases List.mem_append.mp hmem with hmem | hmem
    · exact h.countered offer proposal hmem
    · cases List.mem_singleton.mp hmem
  retries := h.retries

theorem cancel (k : TimerKind) : Lawful s (t.cancel k) where
  walk := by
    rw [requests, notes_cancel, state_cancel]
    exact h.walk
  party := by
    rw [session_cancel]
    exact h.party
  countered := by
    rw [notes_cancel]
    exact h.countered
  retries := by
    rw [session_cancel]
    exact h.retries

theorem arm (k : TimerKind) (after : Millis) : Lawful s (t.arm k after) :=
  -- the fresh token and the action show neither in the state nor in the remarks
  have hset := (h.cancel k).change (f := fun s' => { s' with
    timers := s'.timers.set k (some (t.cancel k).nextToken) }) rfl rfl rfl
  ⟨hset.walk, hset.party, hset.countered, hset.retries⟩

theorem release : Lawful s t.release := by
  have hcancelled : ∀ kinds : List TimerKind, Lawful s (kinds.foldl Turn.cancel t) := by
    intro kinds
    induction kinds using List.reverseRecOn with
    | nil => exact h
    | append_singleton kinds k ih =>
      rw [List.foldl_concat]
      exact ih.cancel k
  refine ((hcancelled TimerKind.all).change rfl rfl rfl).enter ?_
  cases (Turn.change _ _).session.state <;> rfl

theorem close (reason : CloseReason) : Lawful s (t.close reason) := by
  unfold Turn.close
  simp only
  split
  · exact ((h.release.change rfl rfl rfl).note rfl).act _
  · exact ((((h.release.note rfl).change rfl rfl rfl).change rfl rfl rfl).note rfl).act _

theorem refuse (e : EstablishmentError) (reason : CloseReason) : Lawful s (t.refuse e reason) :=
  (h.send _).close reason

theorem formatError : Lawful s t.formatError := by
  unfold Turn.formatError
  cases t.session.state <;> dsimp only
  · exact h.close _
  · exact h.close _
  · exact (h.send _).close _
  · exact (h.send _).close _
  · exact (h.send _).close _

theorem routeFromLocal (m : Message) : Lawful s (t.routeFromLocal m) := by
  unfold Turn.routeFromLocal
  split
  all_goals first
    | exact h.send m
    | exact h.note rfl

theorem routeFromNetwork (m : Message) (kind : MessageKind) :
    Lawful s (t.routeFromNetwork m kind) := by
  unfold Turn.routeFromNetwork
  split
  all_goals first
    | exact h.act _
    | exact h.note rfl

/-! ### Establishment -/

theorem awaitOpen (ht : t.session.state.canBecome .openWait = true) : Lawful s t.awaitOpen :=
  (h.arm _ _).enter (by rwa [session_arm])

theorem awaitAnswer (ht : t.session.state.canBecome .keepWait = true) : Lawful s t.awaitAnswer :=
  (h.arm _ _).enter (by rwa [session_arm])

theorem greet : Lawful s t.greet := (h.change rfl rfl rfl).send _

theorem restartDeadTimer : Lawful s t.restartDeadTimer := by
  unfold Turn.restartDeadTimer
  split
  · exact h.arm _ _
  · exact h

theorem startKeepalives : Lawful s t.startKeepalives := by
  unfold Turn.startKeepalives
  split
  · exact h
  · have hstarted := h.change (f := fun s' => { s' with keepaliveStarted := true }) rfl rfl rfl
    simp only
    split
    · exact hstarted.arm _ _
    · exact hstarted

theorem flush : Lawful s t.flush := by
  have hrouted : ∀ (queue : List Message) {t' : Turn}, Lawful s t' →
      Lawful s (queue.foldl Turn.routeFromLocal t') := by
    intro queue
    induction queue with
    | nil => exact id
    | cons m queue ih => exact fun h' => ih (h'.routeFromLocal m)
  unfold Turn.flush
  simp only
  refine hrouted _ ?_
  split
  · exact h.change rfl rfl rfl
  · exact (h.note rfl).change rfl rfl rfl

theorem enterUp (ht : t.session.state.canBecome .sessionUp = true) : Lawful s t.enterUp :=
  (((h.enter ht).startKeepalives.restartDeadTimer.note rfl).act _).flush

theorem connectFailed (hs : t.session.state = .tcpPending) : Lawful s t.connectFailed := by
  have hcounted := h.change
    (f := fun s' => { s' with connectRetries := s'.connectRetries + 1 }) rfl rfl rfl
  unfold Turn.connectFailed
  simp only
  split
  · exact (hcounted.note rfl).close _
  · refine (((hcounted.note rfl).act .connect).arm _ _).enter ?_
    rw [session_arm]
    exact State.canBecome_of_eq hs rfl

theorem transportUp : Lawful s t.transportUp := by
  unfold Turn.transportUp
  split
  · rename_i hs
    exact (h.greet.cancel _).awaitOpen (State.canBecome_of_eq ((state_cancel ..).trans hs) rfl)
  · exact h.note rfl

/-! ### Negotiating -/

theorem accept (hs : t.session.state = .openWait) (offer : OpenObject) :
    Lawful s (t.accept offer) := by
  have hvalues := (h.note (n := .proposalAccepted offer) rfl).change (f := fun s' =>
    { s' with peerKeepalive := offer.keepalive, peerDeadTimer := offer.deadTimer }) rfl rfl rfl
  have hgranted := ((hvalues.send keepaliveMessage).change
    (f := fun s' => { s' with remoteOk := true }) rfl rfl rfl).cancel .openWait
  unfold Turn.accept
  simp only
  split
  · exact hgranted.enterUp (State.canBecome_of_eq ((state_cancel ..).trans hs) rfl)
  · exact hgranted.awaitAnswer (State.canBecome_of_eq ((state_cancel ..).trans hs) rfl)

theorem counter (hs : t.session.state = .openWait) (h0 : t.session.openRetries = 0)
    (offer : OpenObject) : Lawful s (t.counter offer) := by
  have hcounted := h.countOpen h0
  unfold Turn.counter
  simp only
  split
  · exact ((hcounted.noteCountered offer).send _).awaitOpen
      (State.canBecome_of_eq hs rfl)
  · exact (((hcounted.noteCountered offer).send _).cancel _).awaitAnswer
      (State.canBecome_of_eq ((state_cancel ..).trans hs) rfl)

theorem consider (hs : t.session.state = .openWait) (offer : OpenObject) :
    Lawful s (t.consider offer) := by
  unfold Turn.consider
  split
  · exact h.accept hs offer
  · split
    · rename_i h0
      exact h.counter hs h0 offer
    · exact (h.note rfl).refuse _ _
  · exact (h.note rfl).refuse _ _

theorem inOpenWait (hs : t.session.state = .openWait) (m : Message) :
    Lawful s (t.inOpenWait m) := by
  unfold Turn.inOpenWait
  split
  · exact (h.note rfl).formatError
  · split
    · exact (h.note rfl).formatError
    · exact h.consider hs _
    · exact h.formatError
  · exact (h.note rfl).close _

theorem accepted (hs : t.session.state = .keepWait) : Lawful s t.accepted := by
  have hgranted := (h.change (f := fun s' => { s' with localOk := true }) rfl rfl rfl).cancel
    .keepWait
  unfold Turn.accepted
  simp only
  split
  · exact hgranted.enterUp (State.canBecome_of_eq ((state_cancel ..).trans hs) rfl)
  · exact hgranted.awaitOpen (State.canBecome_of_eq ((state_cancel ..).trans hs) rfl)

theorem adopt (hs : t.session.state = .keepWait) (proposal : OpenObject) :
    Lawful s (t.adopt proposal) := by
  have hrevised := (h.note (n := .adopted proposal) rfl).change (f := fun s' =>
    { s' with keepalive := proposal.keepalive, deadTimer := proposal.deadTimer }) rfl rfl rfl
  unfold Turn.adopt
  simp only
  split
  · exact (hrevised.send _).awaitAnswer (State.canBecome_of_eq hs rfl)
  · exact ((hrevised.send _).cancel _).awaitOpen
      (State.canBecome_of_eq ((state_cancel ..).trans hs) rfl)

theorem inKeepWait (hs : t.session.state = .keepWait) (m : Message) :
    Lawful s (t.inKeepWait m) := by
  unfold Turn.inKeepWait
  split
  · exact (h.note rfl).formatError
  · split
    · split
      · exact (h.note rfl).formatError
      · exact h.accepted hs
      · split
        · exact h.adopt hs _
        · exact (h.note rfl).refuse _ _
      · exact h.close _
    · exact (h.note rfl).close _

theorem inSessionUp (m : Message) : Lawful s (t.inSessionUp m) := by
  unfold Turn.inSessionUp
  split
  · exact (h.note rfl).formatError
  · simp only
    split
    · exact h.restartDeadTimer.note rfl
    · exact h.restartDeadTimer.note rfl
    · exact (h.restartDeadTimer.note rfl).close _
    · exact h.restartDeadTimer.routeFromNetwork _ _
    · exact h.restartDeadTimer.routeFromNetwork _ _

/-! ### Events -/

theorem fromNetwork (m : Message) : Lawful s (t.fromNetwork m) := by
  unfold Turn.fromNetwork
  split
  · rename_i hs
    exact h.inOpenWait hs m
  · rename_i hs
    exact h.inKeepWait hs m
  · exact h.inSessionUp m
  · exact h.note rfl
  · exact h.note rfl

theorem fromLocal (m : Message) : Lawful s (t.fromLocal m) := by
  unfold Turn.fromLocal
  split
  · exact h.routeFromLocal m
  · split
    · exact (h.note rfl).change rfl rfl rfl
    · exact h.note rfl

theorem expire (kind : TimerKind) : Lawful s (t.expire kind) := by
  have hnoted := h.note (n := .expired t.session.state kind) rfl
  unfold Turn.expire
  cases kind with
  | connect =>
    dsimp only
    split
    · rename_i hs
      exact hnoted.connectFailed hs
    · exact hnoted
  | openWait => exact (hnoted.note rfl).refuse _ _
  | keepWait => exact (hnoted.note rfl).refuse _ _
  | deadTimer => exact ((hnoted.note rfl).send _).close _
  | keepAlive => exact (hnoted.send _).arm _ _

theorem take (e : SessionEvent) : Lawful s (t.take e) := by
  cases e with
  | accepted => exact h.note rfl
  | connectRequested => exact h.note rfl
  | transportUp => exact h.transportUp
  | transportFailed =>
    simp only [Turn.take]
    split
    · rename_i hs
      exact h.connectFailed hs
    · exact h
  | connectionLost =>
    simp only [Turn.take]
    split
    · rename_i hs
      exact h.connectFailed hs
    · exact h.close _
  | framingFailed => exact (h.note rfl).formatError
  | network m => exact h.fromNetwork m
  | fromLocal m => exact h.fromLocal m
  | timerExpired kind token =>
    simp only [Turn.take]
    split
    · exact (h.change rfl rfl rfl).expire kind
    · exact h.note rfl
  | closeRequested =>
    simp only [Turn.take]
    split
    · exact (h.send _).close _
    · exact h.close _

end Lawful

end Turn

theorem Settings.attempts_lt (s : Settings) : s.attempts < UInt32.size :=
  max_lt (by decide) s.maxConnectRetries.toNat_lt

namespace Session

variable {s : Session}

theorem lawful_begin (s : Session) (n : TimerToken) : Turn.Lawful s (.start s n) :=
  ⟨rfl, rfl, nofun, le_max_right ..⟩

/-- A session that is idle starts with one change of its state. -/
theorem lawful_start (hs : s.state = .idle) (n : TimerToken) : (s.start n).Lawful s := by
  have hbegin := lawful_begin s n
  unfold start
  simp only
  split
  · refine ((hbegin.arm _ _).act .connect).enter ?_
    rw [Turn.session_act, Turn.session_arm]
    exact State.canBecome_of_eq hs rfl
  · exact hbegin.greet.awaitOpen (State.canBecome_of_eq hs rfl)

/-- Whatever state a session is in, every event is answered by changes that are in order. -/
theorem lawful_handle (s : Session) (n : TimerToken) (e : SessionEvent) :
    (s.handle n e).Lawful s := by
  have hbegin := lawful_begin s n
  unfold handle
  simp only
  split
  · exact hbegin.note rfl
  · exact hbegin.take e

theorem lawful_release (s : Session) (n : TimerToken) : (s.release n).Lawful s :=
  (lawful_begin s n).release

/-! ### Counts -/

/-- A session has counted no further than it may, and may fail to connect once more if it waits for
its connection. -/
structure Frugal (s : Session) : Prop where
  connects : s.connectRetries ≤ s.settings.attempts
  pending : s.state = .tcpPending → s.connectRetries < s.settings.attempts
  opens : s.openRetries ≤ 1

theorem Frugal.of_lawful {t : Turn} (h : s.Frugal) (ht : t.Lawful s)
    (hcount : t.session.connectRetries = s.connectRetries)
    (hpending : t.session.state = .tcpPending → s.state = .tcpPending) : t.session.Frugal where
  connects := by
    rw [hcount, ht.settings]
    exact h.connects
  pending hs := by
    rw [hcount, ht.settings]
    exact h.pending (hpending hs)
  opens := ht.retries.trans (max_le le_rfl h.opens)

theorem Frugal.handle (h : s.Frugal) (n : TimerToken) (e : SessionEvent) :
    (s.handle n e).session.Frugal := by
  have hlawful := lawful_handle s n e
  by_cases hc : s.closed = true
  · obtain ⟨hsession, -⟩ := handle_of_closed hc n e
    rwa [hsession]
  · replace hc := Bool.eq_false_iff.mpr hc
    cases he : s.failsAt e with
    | true =>
      have hlt := h.pending (of_decide_eq_true (Bool.and_eq_true_iff.mp he).1)
      obtain ⟨hcount, -, hgives⟩ := handle_failed hc n he
      refine ⟨?_, fun hs => ?_, hlawful.retries.trans (max_le le_rfl h.opens)⟩
      · rw [hcount, hlawful.settings]
        exact hlt
      · rw [hcount, hlawful.settings]
        -- at the last failure it would have given up
        by_contra hlast
        rw [(hgives (Nat.le_of_not_lt hlast)).2] at hs
        cases hs
    | false =>
      have hstill := undialled_handle n he
      exact h.of_lawful hlawful (congrArg Dial.failures hstill.dial) hstill.pending

theorem Frugal.release (h : s.Frugal) (n : TimerToken) : (s.release n).session.Frugal := by
  refine h.of_lawful (lawful_release s n) ?_ fun hs => ?_
  · rw [Session.release, Turn.session_release]
    rfl
  · rw [Session.release, Turn.session_release] at hs
    cases hs

/-! ### Lives -/

/-- What a session that has started may be called for. -/
inductive Call
  | handle (e : SessionEvent)
  | release

/-- The turn that a call causes. -/
def answer (s : Session) (nextToken : TimerToken) : Call → Turn
  | .handle e => s.handle nextToken e
  | .release => s.release nextToken

/-- A session since its start: the turn it starts with, and one for each call. -/
structure Life where
  opening : Turn
  answers : List Turn

namespace Life

variable (l : Life)

/-- All turns so far. -/
def turns : List Turn := l.opening :: l.answers

/-- The session as it is by now. -/
def session : Session := (l.answers.getLast?.getD l.opening).session

/-- All changes of state that were requested so far. -/
def requests : List (State × State) := l.turns.flatMap Turn.requests

/-- One more call, when the given token is the next unused one. -/
def call (n : TimerToken) (c : Call) : Life :=
  { l with answers := l.answers ++ [l.session.answer n c] }

variable (n : TimerToken) (c : Call)

theorem turns_call : (l.call n c).turns = l.turns ++ [l.session.answer n c] := rfl

theorem session_call : (l.call n c).session = (l.session.answer n c).session := by
  simp [session, call]

theorem requests_call :
    (l.call n c).requests = l.requests ++ (l.session.answer n c).requests := by
  simp [requests, turns_call]

end Life

theorem lawful_answer (s : Session) (n : TimerToken) (c : Call) : (s.answer n c).Lawful s := by
  cases c with
  | handle e => exact lawful_handle s n e
  | release => exact lawful_release s n

theorem Frugal.answer (h : s.Frugal) (n : TimerToken) (c : Call) :
    (s.answer n c).session.Frugal := by
  cases c with
  | handle e => exact h.handle n e
  | release => exact h.release n

end Session

namespace Party

open Session

variable {p : Party} {initiator : Bool} {n : TimerToken} {calls : List (TimerToken × Session.Call)}

/-- The life of a session of a party that is started and then called, each time with the token that
is the next unused one by then. -/
def life (p : Party) (initiator : Bool) (n : TimerToken)
    (calls : List (TimerToken × Session.Call)) : Life :=
  calls.foldl (fun l c => l.call c.1 c.2) ⟨(p.session initiator).start n, []⟩

theorem life_concat (call : TimerToken × Session.Call) :
    p.life initiator n (calls ++ [call]) = (p.life initiator n calls).call call.1 call.2 :=
  List.foldl_concat ..

/-- A life as far as it has gone: its changes of state lead to where the session is, and each of its
turns was lawful and left the counts within their bounds. -/
structure Lives (p : Party) (l : Life) : Prop where
  walk : State.idle.follow? l.requests = some l.session.state
  party : l.session.party = p
  frugal : l.session.Frugal
  turns : ∀ t ∈ l.turns, t.session.party = p ∧ t.session.Frugal ∧
    ∀ offer proposal, .counterProposed offer proposal ∈ t.notes → proposal = p.counterTo offer

theorem countered_of_lawful {s : Session} {t : Turn} (hs : s.party = p) (ht : t.Lawful s)
    (offer proposal : OpenObject) (hmem : .counterProposed offer proposal ∈ t.notes) :
    proposal = p.counterTo offer := by
  rw [ht.countered offer proposal hmem, ← hs]
  rfl

theorem lives_opening (p : Party) (initiator : Bool) (n : TimerToken) :
    p.Lives ⟨(p.session initiator).start n, []⟩ := by
  have hlawful := lawful_start (s := p.session initiator) rfl n
  have hfrugal : ((p.session initiator).start n).session.Frugal := by
    refine ⟨?_, fun _ => ?_, hlawful.retries⟩ <;> rw [hlawful.settings] <;> cases initiator
    · exact Nat.zero_le _
    · exact Nat.zero_le _
    · exact p.attempts_pos
    · exact p.attempts_pos
  refine ⟨?_, hlawful.party, hfrugal, ?_⟩
  · rw [Life.requests, Life.turns, List.flatMap_singleton]
    exact hlawful.walk
  · intro t ht
    cases List.mem_singleton.mp ht
    exact ⟨hlawful.party, hfrugal, countered_of_lawful rfl hlawful⟩

theorem Lives.call {l : Life} (h : p.Lives l) (n : TimerToken) (c : Session.Call) :
    p.Lives (l.call n c) := by
  have hlawful := lawful_answer l.session n c
  have hparty := hlawful.party.trans h.party
  have hfrugal := h.frugal.answer n c
  refine ⟨?_, ?_, ?_, ?_⟩
  · rw [Life.requests_call, Life.session_call, State.follow?_append, h.walk]
    exact hlawful.walk
  · rwa [Life.session_call]
  · rwa [Life.session_call]
  · rw [Life.turns_call]
    refine List.forall_mem_append.mpr ⟨h.turns, List.forall_mem_singleton.mpr ?_⟩
    exact ⟨hparty, hfrugal, countered_of_lawful h.party hlawful⟩

theorem lives_life (p : Party) (initiator : Bool) (n : TimerToken)
    (calls : List (TimerToken × Session.Call)) : p.Lives (p.life initiator n calls) := by
  induction calls using List.reverseRecOn with
  | nil => exact p.lives_opening initiator n
  | append_singleton calls call ih =>
    rw [life_concat]
    exact ih.call call.1 call.2

/-- **No assertion fails and no count overflows.**  Whatever a session is called for after its
start, releases included, each change of state that it requests starts from the state it is in by
then and is allowed.  It proposes other values only under a policy whose bounds are in order, if
that is so for the one it was created with, and its two counts stay far from where their type
ends. -/
theorem requests_allowed (hp : p.settings.policy.Ordered) (initiator : Bool) (n : TimerToken)
    (calls : List (TimerToken × Session.Call)) :
    let l := p.life initiator n calls
    State.idle.follow? l.requests = some l.session.state ∧
      (∀ r ∈ l.requests, r.1.canBecome r.2 = true) ∧
      ∀ t ∈ l.turns,
        (∀ offer proposal, .counterProposed offer proposal ∈ t.notes →
          t.session.settings.policy.Ordered ∧
            proposal = t.session.settings.policy.counterProposal offer t.session.sessionId) ∧
        t.session.connectRetries ≤ t.session.settings.attempts ∧
        t.session.connectRetries < UInt32.size ∧ t.session.openRetries ≤ 1 := by
  intro l
  have hlives := p.lives_life initiator n calls
  refine ⟨hlives.walk, State.canBecome_of_follow? hlives.walk, fun t ht => ?_⟩
  obtain ⟨hparty, hfrugal, hcountered⟩ := hlives.turns t ht
  refine ⟨fun offer proposal hmem => ?_, hfrugal.connects,
    hfrugal.connects.trans_lt (Settings.attempts_lt _), hfrugal.opens⟩
  have hproposal := hcountered offer proposal hmem
  rw [← hparty] at hp hproposal
  exact ⟨hp, hproposal⟩

/-- A session counters an offer and is released.  Its timer and its transport are heard of later,
and the loss of the transport ends it. -/
theorem requests_allowed_released :
    let p : Party :=
      { peer := .v4 ⟨10, 0, 0, 1⟩ 4189, role := .server, sessionId := 7, settings := {} }
    let l := p.life false 1
      [(2, .handle (.network (OpenObject.propose 0 120 1).message)), (3, .release),
        (3, .handle (.timerExpired .keepWait 2)), (3, .handle .transportUp),
        (3, .handle .connectionLost)]
    p.settings.policy.Ordered ∧
      l.requests = [(.idle, .openWait), (.openWait, .keepWait), (.keepWait, .idle),
        (.idle, .idle)] ∧
      State.idle.follow? l.requests = some .idle ∧ l.session.openRetries = 1 ∧
      ∀ r ∈ l.requests, r.1.canBecome r.2 = true := by
  intro p l
  have hordered : p.settings.policy.Ordered := by decide
  obtain ⟨hwalk, hallowed, -⟩ := requests_allowed hordered false 1
    [(2, .handle (.network (OpenObject.propose 0 120 1).message)), (3, .release),
      (3, .handle (.timerExpired .keepWait 2)), (3, .handle .transportUp),
      (3, .handle .connectionLost)]
  refine ⟨hordered, by decide +kernel, hwalk.trans ?_, by decide +kernel, hallowed⟩
  decide +kernel

end Party

end PathSession
