import PathSession.Session.Step

/-!
# The moves of a turn

What each move of a turn does to the session, to the next timer token and to the actions asked for.
Later proofs use these equations and leave the moves themselves alone.

* `Action.sent`: the messages that a list of actions sends;
* `Session.ended`: a session after its end;
* `Role.forwards`, `Role.delivers`: which messages a role hands on.
-/

namespace PathSession

namespace TimerSlots

variable (s : TimerSlots) (k k' : TimerKind)

@[simp] theorem set_get : s.set k (s.get k) = s := by
  cases k <;> rfl

@[simp] theorem set_set (a b : Option TimerToken) : (s.set k a).set k b = s.set k b := by
  cases k <;> rfl

@[simp] theorem get_empty : get {} k = none := by
  cases k <;> rfl

theorem mem_armed {s : TimerSlots} {k : TimerKind} : k ∈ s.armed ↔ (s.get k).isSome := by
  have : k ∈ TimerKind.all := by cases k <;> decide
  simp [armed, this]

end TimerSlots

namespace Action

/-- The message that an action sends, if it does. -/
def message? : Action → Option Message
  | send m => some m
  | _ => none

/-- The messages that actions send, in order. -/
def sent (actions : List Action) : List Message := actions.filterMap message?

/-- The cancellation of a timer that is armed under the given token. -/
def cancels (k : TimerKind) (token : Option TimerToken) : List Action :=
  (token.map (cancelTimer k)).toList

variable (as bs : List Action)

@[simp] theorem sent_nil : sent [] = [] := rfl
@[simp] theorem sent_append : sent (as ++ bs) = sent as ++ sent bs := List.filterMap_append
@[simp] theorem sent_send (m : Message) : sent (send m :: as) = m :: sent as := rfl
@[simp] theorem sent_connect : sent (connect :: as) = sent as := rfl
@[simp] theorem sent_deliver (m : Message) : sent (deliver m :: as) = sent as := rfl
@[simp] theorem sent_armTimer (k : TimerKind) (token : TimerToken) (after : Millis) :
    sent (armTimer k token after :: as) = sent as := rfl
@[simp] theorem sent_established : sent (established :: as) = sent as := rfl
@[simp] theorem sent_close (reason : CloseReason) : sent (close reason :: as) = sent as := rfl

@[simp] theorem sent_cancels (k : TimerKind) (token : Option TimerToken) :
    sent (cancels k token) = [] := by
  cases token <;> rfl

@[simp] theorem established_mem_cancels (k : TimerKind) (token : Option TimerToken) :
    established ∉ cancels k token := by
  cases token <;> simp [cancels]

end Action

namespace Turn

variable (t : Turn)

@[simp] theorem session_start (s : Session) (n : TimerToken) : (start s n).session = s := rfl
@[simp] theorem nextToken_start (s : Session) (n : TimerToken) : (start s n).nextToken = n := rfl
@[simp] theorem actions_start (s : Session) (n : TimerToken) : (start s n).actions = [] := rfl

@[simp] theorem session_act (a : Action) : (t.act a).session = t.session := rfl
@[simp] theorem nextToken_act (a : Action) : (t.act a).nextToken = t.nextToken := rfl
@[simp] theorem actions_act (a : Action) : (t.act a).actions = t.actions ++ [a] := rfl

@[simp] theorem session_note (n : Note) : (t.note n).session = t.session := rfl
@[simp] theorem nextToken_note (n : Note) : (t.note n).nextToken = t.nextToken := rfl
@[simp] theorem actions_note (n : Note) : (t.note n).actions = t.actions := rfl

@[simp] theorem session_change (f : Session → Session) : (t.change f).session = f t.session := rfl
@[simp] theorem nextToken_change (f : Session → Session) :
    (t.change f).nextToken = t.nextToken := rfl
@[simp] theorem actions_change (f : Session → Session) : (t.change f).actions = t.actions := rfl

@[simp] theorem session_enter (target : State) :
    (t.enter target).session = { t.session with state := target } := rfl
@[simp] theorem nextToken_enter (target : State) : (t.enter target).nextToken = t.nextToken := rfl
@[simp] theorem actions_enter (target : State) : (t.enter target).actions = t.actions := rfl

@[simp] theorem session_send (m : Message) : (t.send m).session = t.session := rfl
@[simp] theorem nextToken_send (m : Message) : (t.send m).nextToken = t.nextToken := rfl
@[simp] theorem actions_send (m : Message) : (t.send m).actions = t.actions ++ [.send m] := rfl

/-! ### Timers -/

@[simp] theorem session_cancel (k : TimerKind) :
    (t.cancel k).session = { t.session with timers := t.session.timers.set k none } := by
  unfold cancel
  cases h : t.session.timers.get k with
  | none =>
    have := TimerSlots.set_get t.session.timers k
    rw [h] at this
    simp only [this]
  | some token => rfl

@[simp] theorem nextToken_cancel (k : TimerKind) : (t.cancel k).nextToken = t.nextToken := by
  unfold cancel
  split <;> rfl

@[simp] theorem actions_cancel (k : TimerKind) :
    (t.cancel k).actions = t.actions ++ Action.cancels k (t.session.timers.get k) := by
  unfold cancel
  cases t.session.timers.get k with
  | none => simp [Action.cancels]
  | some token => rfl

@[simp] theorem session_arm (k : TimerKind) (after : Millis) :
    (t.arm k after).session =
      { t.session with timers := t.session.timers.set k (some t.nextToken) } := by
  simp [arm, act, change]

@[simp] theorem nextToken_arm (k : TimerKind) (after : Millis) :
    (t.arm k after).nextToken = t.nextToken + 1 := by
  simp [arm, act]

@[simp] theorem actions_arm (k : TimerKind) (after : Millis) :
    (t.arm k after).actions = t.actions ++ Action.cancels k (t.session.timers.get k)
      ++ [.armTimer k t.nextToken after] := by
  simp [arm, act, change]

end Turn

/-- A session after its end. -/
def Session.ended (s : Session) : Session :=
  { s with
    timers := {}
    localOk := false
    remoteOk := false
    state := .idle
    outbound := []
    closed := true }

namespace Turn

variable (t : Turn)

/-- The cancellations of every armed timer, in the order of the kinds. -/
def cancellations (s : Session) : List Action :=
  TimerKind.all.flatMap fun k => Action.cancels k (s.timers.get k)

@[simp] theorem sent_cancellations (s : Session) : Action.sent (cancellations s) = [] := by
  simp [cancellations, TimerKind.all]

@[simp] theorem established_mem_cancellations (s : Session) :
    Action.established ∉ cancellations s := by
  simp [cancellations, TimerKind.all]

@[simp] theorem session_release :
    t.release.session =
      { t.session with timers := {}, localOk := false, remoteOk := false, state := .idle } := by
  simp [release, TimerKind.all, TimerSlots.set]

@[simp] theorem actions_release : t.release.actions = t.actions ++ cancellations t.session := by
  simp [release, TimerKind.all, cancellations, TimerSlots.get_set]

@[simp] theorem session_close (reason : CloseReason) :
    (t.close reason).session = t.session.ended := by
  unfold close Session.ended
  by_cases h : t.session.outbound = []
  · simp [h]
  · simp [h]

@[simp] theorem actions_close (reason : CloseReason) :
    (t.close reason).actions = t.actions ++ cancellations t.session ++ [.close reason] := by
  unfold close
  by_cases h : t.session.outbound = []
  · simp [h]
  · simp [h]

@[simp] theorem session_refuse (e : EstablishmentError) (reason : CloseReason) :
    (t.refuse e reason).session = t.session.ended := by
  simp [refuse, sendError]

@[simp] theorem actions_refuse (e : EstablishmentError) (reason : CloseReason) :
    (t.refuse e reason).actions =
      t.actions ++ [.send ((ErrorObject.establishment e).message none)]
        ++ cancellations t.session ++ [.close reason] := by
  simp [refuse, sendError]

/-- What a session says to malformed input before it closes. -/
def complaint : State → List Action
  | .openWait | .keepWait => [.send ((ErrorObject.establishment .invalidOpen).message none)]
  | .sessionUp => [.send CloseCause.malformedMessage.message]
  | .idle | .tcpPending => []

@[simp] theorem session_formatError : t.formatError.session = t.session.ended := by
  unfold formatError
  rw [session_close]
  split <;> rfl

@[simp] theorem actions_formatError :
    t.formatError.actions = t.actions ++ complaint t.session.state ++ cancellations t.session
      ++ [.close .framingError] := by
  unfold formatError
  rw [actions_close]
  split <;> simp [complaint, sendError, *]

end Turn

/-- The local messages that a role hands on to the network. -/
def Role.forwards (role : Role) (m : Message) : Bool :=
  match role, m.kind with
  | .client, .ok .request => true
  | .server, .ok .response => true
  | _, .ok .notification => true
  | _, .ok .error => true
  | _, _ => false

/-- The types of received messages that a role hands on to the collaborator. -/
def Role.delivers (role : Role) (kind : MessageKind) : Bool :=
  match role, kind with
  | .server, .request => true
  | .client, .response => true
  | _, .notification => true
  | _, .error => true
  | _, _ => false

namespace Turn

variable (t : Turn)

@[simp] theorem session_routeFromLocal (m : Message) :
    (t.routeFromLocal m).session = t.session := by
  unfold routeFromLocal
  split <;> rfl

@[simp] theorem actions_routeFromLocal (m : Message) :
    (t.routeFromLocal m).actions =
      t.actions ++ if t.session.role.forwards m then [.send m] else [] := by
  unfold routeFromLocal Role.forwards
  cases t.session.role <;> cases m.kind with
  | error e => simp
  | ok kind => cases kind <;> simp [send]

@[simp] theorem session_routeFromNetwork (m : Message) (kind : MessageKind) :
    (t.routeFromNetwork m kind).session = t.session := by
  unfold routeFromNetwork
  split <;> rfl

@[simp] theorem actions_routeFromNetwork (m : Message) (kind : MessageKind) :
    (t.routeFromNetwork m kind).actions =
      t.actions ++ if t.session.role.delivers kind then [.deliver m] else [] := by
  unfold routeFromNetwork Role.delivers
  cases t.session.role <;> cases kind <;> simp

theorem foldl_routeFromLocal (queue : List Message) :
    (queue.foldl routeFromLocal t).session = t.session ∧
      (queue.foldl routeFromLocal t).actions =
        t.actions ++ (queue.filter t.session.role.forwards).map Action.send := by
  induction queue generalizing t with
  | nil => simp
  | cons m queue ih =>
    obtain ⟨hs, ha⟩ := ih (t.routeFromLocal m)
    simp only [List.foldl_cons, hs, ha, session_routeFromLocal, actions_routeFromLocal]
    by_cases hm : t.session.role.forwards m <;> simp [hm]

@[simp] theorem session_flush : t.flush.session = { t.session with outbound := [] } := by
  by_cases h : t.session.outbound = []
  · simp [flush, h]
  · simp [flush, h, foldl_routeFromLocal]

@[simp] theorem actions_flush :
    t.flush.actions =
      t.actions ++ (t.session.outbound.filter t.session.role.forwards).map Action.send := by
  by_cases h : t.session.outbound = []
  · simp [flush, h]
  · simp [flush, h, foldl_routeFromLocal]

end Turn

end PathSession
