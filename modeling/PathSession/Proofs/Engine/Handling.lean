import PathSession.Engine.Handler
import PathSession.Proofs.Session.Outcome

/-!
# What handling a task does

The handler carries out the actions of a session one by one.  What a task comes to, for the timers,
for the network and for the registry, can be read off the turn of the session it is for.

* `Handled.requests`, `Handled.commands`, `Handled.notices`: what is asked of the timers and of the
  network, and what the collaborator is told;
* `Action.effects`, `Handler.effects_settle`: the effects of a turn are those of its actions;
* `Handler.process_self`: a task is a turn of the peer's session, or creates it, or is discarded;
* `Handler.Lives`, `Handler.lives_process`: registered sessions are never closed;
* `Handler.process_books`: the timers of a peer by what is asked for them;
* `Handler.process_commands`: a session closes its connection last, and is gone then.
-/

namespace PathSession

/-! ### Effects of actions -/

namespace Action

/-- What an action of a peer's session asks of the timers, if it does. -/
def request? (peer : PeerAddress) : Action → Option TimerRequest
  | armTimer kind token after => some (.arm peer kind token after)
  | cancelTimer _ token => some (.cancel token)
  | _ => none

/-- What an action of a peer's session asks of the network, if it does. -/
def command? (peer : PeerAddress) : Action → Option Command
  | connect => some (.connect peer)
  | send m => some (.send peer m.encode)
  | close _ => some (.close peer)
  | _ => none

/-- What an action of a peer's session tells the collaborator, if it does. -/
def notice? (peer : PeerAddress) : Action → Option Notice
  | deliver m => some (.message peer m)
  | established => some (.established peer)
  | close reason => some (.closed peer reason)
  | _ => none

/-- What an action of a peer's session comes to, in order. -/
def effects (peer : PeerAddress) : Action → List Effect
  | connect => [.command (.connect peer)]
  | send m => [.command (.send peer m.encode)]
  | deliver m => [.notice (.message peer m)]
  | armTimer kind token after => [.timer (.arm peer kind token after)]
  | cancelTimer _ token => [.timer (.cancel token)]
  | established => [.notice (.established peer)]
  | close reason => [.command (.close peer), .notice (.closed peer reason)]

def isClose : Action → Bool
  | close _ => true
  | _ => false

variable {as : List Action} {peer : PeerAddress}

theorem any_isClose_eq_false (h : ∀ reason, close reason ∉ as) : as.any isClose = false := by
  refine List.any_eq_false.mpr fun a ha hc => ?_
  cases a with
  | close reason => exact h reason ha
  | _ => cases hc

/-- What several actions come to, told apart by what each effect is. -/
theorem filterMap_effects {β : Type} {f : Effect → Option β} {g : Action → Option β}
    (hg : ∀ a : Action, (a.effects peer).filterMap f = (g a).toList) (as : List Action) :
    (as.flatMap (effects peer)).filterMap f = as.filterMap g := by
  induction as with
  | nil => rfl
  | cons a as ih =>
    rw [List.flatMap_cons, List.filterMap_append, ih, hg, List.filterMap_cons]
    cases g a <;> rfl

theorem peer_of_command? {a : Action} {c : Command} (h : a.command? peer = some c) :
    c.peer = peer := by
  cases a with
  | connect | send | close =>
    cases h
    rfl
  | _ => cases h

/-- Only closing asks for a close. -/
theorem close_notMem_command? (h : ∀ reason, close reason ∉ as) :
    .close peer ∉ as.filterMap (command? peer) := by
  intro hc
  obtain ⟨a, ha, hac⟩ := List.mem_filterMap.mp hc
  cases a with
  | close reason => exact h reason ha
  | connect | send => cases hac
  | _ => cases hac

end Action

/-- What an effect asks of the timers, if it does. -/
def Effect.request? : Effect → Option TimerRequest
  | timer r => some r
  | _ => none

/-- What an effect asks of the network, if it does. -/
def Effect.command? : Effect → Option Command
  | command c => some c
  | _ => none

/-- What an effect tells the collaborator, if it does. -/
def Effect.notice? : Effect → Option Notice
  | notice n => some n
  | _ => none

namespace Handled

/-- What is asked of the timers, in order. -/
def requests (h : Handled) : List TimerRequest := h.effects.filterMap Effect.request?

/-- What is asked of the network, in order. -/
def commands (h : Handled) : List Command := h.effects.filterMap Effect.command?

/-- What the collaborator is told, in order. -/
def notices (h : Handled) : List Notice := h.effects.filterMap Effect.notice?

end Handled

theorem Action.commands_effects {peer : PeerAddress} (as : List Action) :
    (as.flatMap (effects peer)).filterMap Effect.command? = as.filterMap (command? peer) :=
  filterMap_effects (fun a => by cases a <;> rfl) as

theorem Action.notices_effects {peer : PeerAddress} (as : List Action) :
    (as.flatMap (effects peer)).filterMap Effect.notice? = as.filterMap (notice? peer) :=
  filterMap_effects (fun a => by cases a <;> rfl) as

namespace Handler

/-! ### Carrying out actions -/

section Perform

variable (peer : PeerAddress) (h : Handled) (a : Action)

theorem effects_perform : (perform peer h a).effects = h.effects ++ a.effects peer := by
  cases a with
  | close reason => exact List.append_assoc ..
  | _ => rfl

theorem next_perform :
    (perform peer h a).next =
      if a.isClose then { h.next with registry := h.next.registry.remove peer } else h.next := by
  cases a <;> rfl

end Perform

variable {peer : PeerAddress}

/-- Carrying out several actions has the effects of each of them.  It takes the session out of the
registry if one of them closes, and changes nothing else. -/
theorem foldl_perform (h : Handled) (actions : List Action) :
    let after := actions.foldl (perform peer) h
    after.effects = h.effects ++ actions.flatMap (Action.effects peer) ∧
      after.next = { h.next with
        registry := { h.next.registry with sessions := after.next.registry.sessions } } ∧
      ∀ q, after.next.registry.sessions.get? q =
        if q = peer ∧ actions.any Action.isClose then none
        else h.next.registry.sessions.get? q := by
  induction actions generalizing h with
  | nil => simp
  | cons a actions ih =>
    obtain ⟨heffects, hnext, hget⟩ := ih (perform peer h a)
    refine ⟨?_, ?_, fun q => ?_⟩
    · rw [List.foldl_cons, heffects, effects_perform, List.append_assoc, List.flatMap_cons]
    · rw [List.foldl_cons, hnext, next_perform]
      split <;> rfl
    · rw [List.foldl_cons, hget, next_perform, List.any_cons]
      cases a.isClose with
      | false => rfl
      | true =>
        by_cases hq : q = peer
        · simp [hq, Registry.remove]
        · simp [hq, Registry.remove, Table.get?_erase_of_ne]

/-- The sessions when that of a turn is kept. -/
theorem get?_keep (h : Handler) (t : Turn) (q : PeerAddress) :
    (h.keep peer t).next.registry.sessions.get? q =
      if q = peer then some t.session else h.registry.sessions.get? q :=
  Table.get?_insert ..

/-- Settling a turn has the effects of its actions. -/
theorem effects_settle (h : Handler) (t : Turn) :
    (h.settle peer t).effects = t.actions.flatMap (Action.effects peer) :=
  (foldl_perform _ t.actions).1

/-- Settling a turn changes the sessions and the next token only. -/
theorem next_settle (h : Handler) (t : Turn) :
    (h.settle peer t).next = { h with
      nextToken := t.nextToken
      registry := { h.registry with sessions := (h.settle peer t).next.registry.sessions } } :=
  (foldl_perform _ t.actions).2.1

/-- What settling a turn does. -/
theorem settle_spec (h : Handler) (t : Turn) :
    (h.settle peer t).requests = t.actions.filterMap (Action.request? peer) ∧
      (h.settle peer t).commands = t.actions.filterMap (Action.command? peer) ∧
      (h.settle peer t).next.nextToken = t.nextToken ∧
      ∀ q, (h.settle peer t).next.registry.sessions.get? q =
        if q = peer then (if t.actions.any Action.isClose then none else some t.session)
        else h.registry.sessions.get? q := by
  refine ⟨?_, ?_, by rw [next_settle], fun q => ?_⟩
  · rw [Handled.requests, effects_settle]
    exact Action.filterMap_effects (fun a => by cases a <;> rfl) t.actions
  · rw [Handled.commands, effects_settle, Action.commands_effects]
  · refine ((foldl_perform _ t.actions).2.2 q).trans ?_
    rw [get?_keep]
    by_cases hq : q = peer <;> simp [hq]

end Handler

/-! ### What a task comes to -/

/-- A turn that keeps the books of a peer's timers, and closes last if it closes. -/
structure Turn.Proper (l : Ledger) (t : Turn) : Prop where
  phase : t.session.Phase
  books : l.enterAll? t.actions = some t.ledger
  closes : (t.session.closed = false ∧ ∀ reason, .close reason ∉ t.actions) ∨
    t.session.closed = true ∧ t.session.timers = {} ∧ ∃ before reason,
      t.actions = before ++ [.close reason] ∧ ∀ reason', .close reason' ∉ before

/-- Whether an event creates a session for a peer that has none. -/
def SessionEvent.creates : SessionEvent → Bool
  | accepted | connectRequested => true
  | _ => false

namespace Handler

variable {h : Handler} {peer : PeerAddress} {e : SessionEvent}

/-- The registered session of a peer. -/
def session? (h : Handler) (peer : PeerAddress) : Option Session := h.registry.sessions.get? peer

/-- The timers of a peer; one without a session has none. -/
def slots (h : Handler) (peer : PeerAddress) : TimerSlots :=
  match h.session? peer with
  | some s => s.timers
  | none => {}

/-- The timers of a peer as an event finds them: the one that runs out has left its slot. -/
def slotsAt (h : Handler) (peer : PeerAddress) (e : SessionEvent) : TimerSlots :=
  match h.session? peer with
  | some s => s.slotsAt e
  | none => {}

/-- Every registered session was started and is not closed. -/
def Lives (h : Handler) : Prop := ∀ p s, h.session? p = some s → s.Phase ∧ s.closed = false

/-- The sessions after a turn of one peer. -/
theorem session?_settle (h : Handler) (peer : PeerAddress) (t : Turn) (q : PeerAddress) :
    (h.settle peer t).next.session? q =
      if q = peer then (if t.actions.any Action.isClose then none else some t.session)
      else h.session? q := (h.settle_spec t).2.2.2 q

theorem session?_settle_self {t : Turn} {l : Ledger} (ht : t.Proper l) :
    (h.settle peer t).next.session? peer = if t.session.closed then none else some t.session := by
  rw [session?_settle, if_pos rfl]
  rcases ht.closes with ⟨hc, hgoing⟩ | ⟨hc, -, before, reason, hactions, -⟩
  · rw [hc, Action.any_isClose_eq_false hgoing]
  · rw [hc, hactions, List.any_append]
    simp [Action.isClose]

/-- The first turn of a new session of a peer. -/
def opening (h : Handler) (peer : PeerAddress) (initiator : Bool) : Turn :=
  (Session.init peer h.role initiator h.ids.draw.1 h.settings).start h.nextToken

/-- The handler that gives a peer its session: an id is drawn, and the reservation is used up. -/
def enrolling (h : Handler) (peer : PeerAddress) : Handler :=
  { h with ids := h.ids.draw.2, registry := h.registry.release peer }

theorem create_eq (h : Handler) (peer : PeerAddress) (initiator : Bool) :
    h.create peer initiator = (h.enrolling peer).settle peer (h.opening peer initiator) := rfl

theorem calm_opening (h : Handler) (peer : PeerAddress) (initiator : Bool) :
    (h.opening peer initiator).Calm { slots := {}, next := h.nextToken }
      (.init peer h.role initiator h.ids.draw.1 h.settings) :=
  Session.calm_start (s := .init peer h.role initiator h.ids.draw.1 h.settings) rfl h.nextToken

/-- A session that is created is there, and does not close by itself. -/
theorem session?_create (h : Handler) (peer : PeerAddress) (initiator : Bool) :
    (h.create peer initiator).next.session? peer = some (h.opening peer initiator).session := by
  have hgoing := Action.close_notMem_of_quiet (h.calm_opening peer initiator).quiet
  rw [create_eq, session?_settle, if_pos rfl, Action.any_isClose_eq_false hgoing]
  rfl

/-- A task is a turn of the peer's session, or it creates one, or it is discarded. -/
theorem process_turn (h : Handler) (peer : PeerAddress) (e : SessionEvent) :
    (∃ s, h.session? peer = some s ∧
        h.process peer e = h.settle peer (s.handle h.nextToken e)) ∨
      (h.session? peer = none ∧ e.creates = true ∧
        h.process peer e = h.create peer (e = .connectRequested)) ∨
      (h.session? peer = none ∧ e.creates = false ∧ (h.process peer e).next = h ∧
        (h.process peer e).effects = []) := by
  unfold process
  cases hs : h.session? peer with
  | some s =>
    rw [session?] at hs
    rw [hs]
    exact .inl ⟨s, rfl, rfl⟩
  | none =>
    rw [session?] at hs
    rw [hs]
    cases e with
    | accepted | connectRequested => exact .inr (.inl ⟨rfl, rfl, by simp [processNew]⟩)
    | _ => exact .inr (.inr ⟨rfl, rfl, rfl, rfl⟩)

/-- The effects of a task are those of actions of its peer's session. -/
theorem process_effects (h : Handler) (peer : PeerAddress) (e : SessionEvent) :
    ∃ actions : List Action,
      (h.process peer e).effects = actions.flatMap (Action.effects peer) := by
  rcases h.process_turn peer e with ⟨s, -, hp⟩ | ⟨-, -, hp⟩ | ⟨-, -, -, heffects⟩
  · exact ⟨_, by rw [hp, effects_settle]⟩
  · exact ⟨_, by rw [hp, create_eq, effects_settle]⟩
  · exact ⟨[], heffects⟩

/-- A turn of a session that is there, or of one that is created, keeps its books. -/
theorem process_cases (hl : h.Lives) (peer : PeerAddress) (e : SessionEvent) :
    (∃ (h' : Handler) (t : Turn), h'.registry.sessions = h.registry.sessions ∧
        h.process peer e = h'.settle peer t ∧
        t.Proper { slots := h.slotsAt peer e, next := h.nextToken } ∧
        (h.session? peer = none → e.creates = true ∧ t.session.closed = false)) ∨
      (h.session? peer = none ∧ e.creates = false ∧ (h.process peer e).next = h ∧
        (h.process peer e).effects = []) := by
  rcases h.process_turn peer e with ⟨s, hs, hp⟩ | ⟨hnone, he, hp⟩ | hdiscarded
  · obtain ⟨hphase, hc⟩ := hl peer s hs
    obtain ⟨hbooks, hcloses⟩ := (Session.outcome_handle hphase hc h.nextToken e).closes
    have hslots : h.slotsAt peer e = s.slotsAt e := by rw [slotsAt, hs]
    refine .inl ⟨h, _, rfl, hp, ⟨Session.phase_handle hphase _ e, ?_, hcloses⟩, ?_⟩
    · rw [hslots]
      exact hbooks
    · rw [hs]
      exact nofun
  · -- a new session starts with nothing armed
    have hcalm := h.calm_opening peer (e = .connectRequested)
    have hslots : h.slotsAt peer e = {} := by rw [slotsAt, hnone]
    refine .inl ⟨h.enrolling peer, _, rfl, hp.trans (h.create_eq ..),
      ⟨Session.phase_start .., ?_, .inl ⟨hcalm.still, ?_⟩⟩, fun _ => ⟨he, hcalm.still⟩⟩
    · rw [hslots]
      exact hcalm.books
    · exact Action.close_notMem_of_quiet hcalm.quiet
  · exact .inr hdiscarded

/-- What a task comes to, and the session of its peer afterwards. -/
theorem process_self (hl : h.Lives) (peer : PeerAddress) (e : SessionEvent) :
    (∃ s, h.session? peer = some s ∧
        (h.process peer e).effects
          = (s.handle h.nextToken e).actions.flatMap (Action.effects peer) ∧
        (h.process peer e).next.session? peer =
          if (s.handle h.nextToken e).session.closed then none
          else some (s.handle h.nextToken e).session) ∨
      (h.session? peer = none ∧ e.creates = true ∧
        (h.process peer e).effects = (h.opening peer (e = .connectRequested)).actions.flatMap
          (Action.effects peer) ∧
        (h.process peer e).next.session? peer =
          some (h.opening peer (e = .connectRequested)).session) ∨
      (h.session? peer = none ∧ e.creates = false ∧ (h.process peer e).next = h ∧
        (h.process peer e).effects = []) := by
  rcases h.process_turn peer e with ⟨s, hs, hp⟩ | ⟨hnone, he, hp⟩ | hdiscarded
  · obtain ⟨hphase, hc⟩ := hl peer s hs
    obtain ⟨hbooks, hcloses⟩ := (Session.outcome_handle hphase hc h.nextToken e).closes
    refine .inl ⟨s, hs, by rw [hp, effects_settle], ?_⟩
    rw [hp]
    exact session?_settle_self ⟨Session.phase_handle hphase _ e, hbooks, hcloses⟩
  · exact .inr (.inl ⟨hnone, he, by rw [hp, create_eq, effects_settle],
      by rw [hp, session?_create]⟩)
  · exact .inr (.inr hdiscarded)

/-- A task of one peer leaves the sessions of the others alone. -/
theorem session?_process_of_ne (hl : h.Lives) {q : PeerAddress} (hq : q ≠ peer) :
    (h.process peer e).next.session? q = h.session? q := by
  rcases process_cases hl peer e with ⟨h', t, hsessions, hp, -, -⟩ | ⟨-, -, hp, -⟩
  · rw [hp, session?_settle, if_neg hq, session?, hsessions, session?]
  · rw [hp]

theorem lives_init (role : Role) (settings : Settings) (firstId : UInt8) :
    (init role settings firstId).Lives := by
  intro p s hs
  rw [session?, init, Registry.empty, Table.get?_empty] at hs
  cases hs

theorem lives_process (hl : h.Lives) (peer : PeerAddress) (e : SessionEvent) :
    (h.process peer e).next.Lives := by
  intro q s hs
  by_cases hq : q = peer
  · subst hq
    rcases process_cases hl q e with ⟨h', t, -, hp, ht, -⟩ | ⟨hnone, -, hp, -⟩
    · rw [hp, session?_settle_self ht] at hs
      split at hs
      · cases hs
      · rename_i hc
        obtain rfl := Option.some.inj hs
        exact ⟨ht.phase, by simpa using hc⟩
    · rw [hp, hnone] at hs
      cases hs
  · rw [session?_process_of_ne hl hq] at hs
    exact hl q s hs

theorem role_process (h : Handler) (peer : PeerAddress) (e : SessionEvent) :
    (h.process peer e).next.role = h.role := by
  rcases h.process_turn peer e with ⟨s, -, hp⟩ | ⟨-, -, hp⟩ | ⟨-, -, hp, -⟩
  · rw [hp, next_settle]
  · rw [hp, create_eq, next_settle, enrolling]
  · rw [hp]

theorem settings_process (h : Handler) (peer : PeerAddress) (e : SessionEvent) :
    (h.process peer e).next.settings = h.settings := by
  rcases h.process_turn peer e with ⟨s, -, hp⟩ | ⟨-, -, hp⟩ | ⟨-, -, hp, -⟩
  · rw [hp, next_settle]
  · rw [hp, create_eq, next_settle, enrolling]
  · rw [hp]

/-- A task leaves every session in the role of its node. -/
theorem roles_process (hl : h.Lives) (hr : ∀ p s, h.session? p = some s → s.role = h.role)
    (peer : PeerAddress) (e : SessionEvent) :
    ∀ p s, (h.process peer e).next.session? p = some s → s.role = h.role := by
  intro p s hs
  by_cases hp : p = peer
  · subst hp
    rcases process_self hl p e with ⟨s', hs', -, hafter⟩ | ⟨-, -, -, hafter⟩ | ⟨hnone, -, hp, -⟩
    · obtain ⟨hphase, hc⟩ := hl p s' hs'
      rw [hafter] at hs
      split at hs
      · cases hs
      · rw [← Option.some.inj hs, (Session.outcome_handle hphase hc h.nextToken e).role]
        exact hr p s' hs'
    · rw [hafter] at hs
      rw [← Option.some.inj hs, (h.calm_opening p (e = .connectRequested)).role]
      rfl
    · rw [hp, hnone] at hs
      cases hs
  · exact hr p s (session?_process_of_ne hl hp ▸ hs)

/-! ### Timers and commands of a task -/

/-- The timers of a peer are what the requests of a task make of those that it found. -/
theorem process_books (hl : h.Lives) (peer : PeerAddress) (e : SessionEvent) :
    ∃ actions, (h.process peer e).requests = actions.filterMap (Action.request? peer) ∧
      Ledger.enterAll? { slots := h.slotsAt peer e, next := h.nextToken } actions =
        some { slots := (h.process peer e).next.slots peer
               next := (h.process peer e).next.nextToken } := by
  rcases process_cases hl peer e with ⟨h', t, -, hp, ht, -⟩ | ⟨hnone, -, hp, heffects⟩
  · refine ⟨t.actions, by rw [hp, (h'.settle_spec t).1], ?_⟩
    rw [hp, (h'.settle_spec t).2.2.1, slots, session?_settle_self ht, ht.books, Turn.ledger]
    -- a session that is gone has no timers left
    rcases ht.closes with ⟨hc, -⟩ | ⟨hc, htimers, -⟩
    · rw [hc]
      rfl
    · rw [hc, htimers]
      rfl
  · refine ⟨[], by rw [Handled.requests, heffects]; rfl, ?_⟩
    rw [hp, slotsAt, slots, hnone]
    rfl

/-- Only some events create a session for a peer that has none; the others are discarded. -/
theorem process_of_not_creates (hl : h.Lives) (hnone : h.session? peer = none)
    (he : e.creates = false) : (h.process peer e).next = h ∧ (h.process peer e).effects = [] := by
  rcases process_cases hl peer e with ⟨-, t, -, -, -, hnew⟩ | ⟨-, -, hnext, heffects⟩
  · rw [(hnew hnone).1] at he
    cases he
  · exact ⟨hnext, heffects⟩

/-- All commands of a task name its peer.  A close is the last of them, and the session is gone
then; without one a session stays, and is there if it was or if the event creates one. -/
theorem process_commands (hl : h.Lives) (peer : PeerAddress) (e : SessionEvent) :
    (∀ c ∈ (h.process peer e).commands, c.peer = peer) ∧
      ((.close peer ∉ (h.process peer e).commands ∧
          ((h.process peer e).next.session? peer = none ↔
            h.session? peer = none ∧ e.creates = false)) ∨
        (∃ before, (h.process peer e).commands = before ++ [.close peer] ∧
          .close peer ∉ before) ∧
          (h.process peer e).next.session? peer = none ∧ h.session? peer ≠ none) := by
  rcases process_cases hl peer e with ⟨h', t, -, hp, ht, hnew⟩ | ⟨hnone, he, hp, heffects⟩
  · rw [hp, (h'.settle_spec t).2.1, session?_settle_self ht]
    refine ⟨fun c hc => ?_, ?_⟩
    · obtain ⟨a, -, ha⟩ := List.mem_filterMap.mp hc
      exact Action.peer_of_command? ha
    · rcases ht.closes with ⟨hc, hgoing⟩ | ⟨hc, -, before, reason, hactions, hbefore⟩
      · refine .inl ⟨Action.close_notMem_command? hgoing, ?_⟩
        rw [hc]
        refine ⟨nofun, fun ⟨hnone, he⟩ => ?_⟩
        rw [(hnew hnone).1] at he
        cases he
      · refine .inr ⟨⟨before.filterMap (Action.command? peer), ?_,
          Action.close_notMem_command? hbefore⟩, by rw [hc]; rfl, fun hnone => ?_⟩
        · rw [hactions, List.filterMap_append]
          rfl
        · rw [(hnew hnone).2] at hc
          cases hc
  · rw [hp, Handled.commands, heffects]
    exact ⟨nofun, .inl ⟨nofun, by simp [hnone, he]⟩⟩

end Handler

end PathSession
