import Mathlib.Data.List.TakeWhile
import PathSession.Engine.Calls
import PathSession.Proofs.Engine.Reservation

/-!
# Messages handed over beside a registration

A client takes a message for any peer that is known to it, also for one that is only reserved.  The
message then waits behind the request for the session, if the request is there.  But a registration
reserves its peer first and asks for the session later, and a message that another caller hands over
in between gets ahead of the request: it finds no session and is dropped, though it was accepted.
All others are sent, or wait to be, each once and in order.

* `Effect.passed`: what a session has sent since it came up;
* `heeded`: the waiting messages that a session will handle;
* `Reception`, `Reception.Reached`: calls in progress, the queues of the workers, and the sessions;
* `Upheld`: the account of one peer, `Upheld.turn` and `Upheld.create` its steps;
* `Reception.accepted_kept`: what became of the accepted messages.
-/

namespace PathSession

/-! ### What a session has passed on -/

namespace Effect

/-- The octets that an effect sends to a peer, if it does. -/
def octets? (peer : PeerAddress) : Effect → Option Octets
  | command (.send p data) => if p = peer then some data else none
  | _ => none

/-- What effects send to a peer from its session's coming up on. -/
def passed (peer : PeerAddress) (effects : List Effect) : List Octets :=
  (effects.dropWhile (· ≠ .notice (.established peer))).filterMap (octets? peer)

variable {peer q : PeerAddress} {effects new : List Effect}

theorem dropWhile_of_notMem (h : .notice (.established peer) ∉ effects) :
    effects.dropWhile (· ≠ .notice (.established peer)) = [] :=
  List.dropWhile_eq_nil_iff.mpr fun x hx => by
    simpa using fun heq : x = .notice (.established peer) => h (heq ▸ hx)

theorem passed_of_notMem (h : .notice (.established peer) ∉ effects) :
    passed peer effects = [] := by
  rw [passed, dropWhile_of_notMem h, List.filterMap_nil]

theorem passed_append_of_notMem (h : .notice (.established peer) ∉ effects) :
    passed peer (effects ++ new) = passed peer new := by
  rw [passed, List.dropWhile_append, dropWhile_of_notMem h]
  rfl

theorem passed_append_of_mem (h : .notice (.established peer) ∈ effects) :
    passed peer (effects ++ new) = passed peer effects ++ new.filterMap (octets? peer) := by
  have hne : (effects.dropWhile (· ≠ .notice (.established peer))).isEmpty = false := by
    simpa [List.dropWhile_eq_nil_iff] using h
  rw [passed, List.dropWhile_append, hne, passed]
  exact List.filterMap_append

theorem passed_established (peer : PeerAddress) (new : List Effect) :
    passed peer (.notice (.established peer) :: new) = new.filterMap (octets? peer) := by
  rw [passed, List.dropWhile_cons_of_neg (by simp)]
  rfl

/-- The messages that actions send to the peer. -/
theorem octets_effects (peer : PeerAddress) (actions : List Action) :
    (actions.flatMap (Action.effects peer)).filterMap (octets? peer)
      = (Action.sent actions).map Message.encode := by
  rw [Action.filterMap_effects (g := fun a => a.message?.map Message.encode)
    (fun a => by cases a <;> simp [Action.effects, octets?, Action.message?]), Action.sent,
    List.map_filterMap]

theorem established_mem_effects {actions : List Action} :
    .notice (.established peer) ∈ actions.flatMap (Action.effects peer) ↔
      .established ∈ actions := by
  rw [List.mem_flatMap]
  refine ⟨fun ⟨a, ha, hx⟩ => ?_, fun h => ⟨_, h, List.mem_singleton.mpr rfl⟩⟩
  cases a with
  | established => exact ha
  | _ => simp [Action.effects] at hx

/-- The actions of a peer's session say nothing of other peers. -/
theorem effects_of_ne (hq : q ≠ peer) (actions : List Action) :
    .notice (.established q) ∉ actions.flatMap (Action.effects peer) ∧
      (actions.flatMap (Action.effects peer)).filterMap (octets? q) = [] := by
  constructor
  · intro hx
    obtain ⟨a, -, ha⟩ := List.mem_flatMap.mp hx
    cases a <;> simp [Action.effects, hq] at ha
  · rw [Action.filterMap_effects (g := fun _ => none)
      (fun a => by cases a <;> simp [Action.effects, octets?, Ne.symm hq])]
    simp

end Effect

/-! ### What a session will handle -/

/-- The messages among waiting tasks that a session will handle: all of them if there is a session,
and otherwise those behind the task that creates it. -/
def heeded : Bool → List Task → List Message
  | _, [] => []
  | present, t :: tasks =>
    (if present then t.event.handed?.toList else []) ++
      heeded (present || t.event.creates) tasks

theorem heeded_concat (present : Bool) (tasks : List Task) (t : Task) :
    heeded present (tasks ++ [t]) = heeded present tasks ++
      if present || tasks.any (·.event.creates) then t.event.handed?.toList else [] := by
  induction tasks generalizing present with
  | nil => simp [heeded]
  | cons t' tasks ih =>
    rw [List.cons_append, heeded, ih, heeded, List.append_assoc, List.any_cons, Bool.or_assoc]

/-- A task that hands nothing over, or that is about another peer, adds nothing. -/
theorem heeded_submit (present : Bool) (tasks : List Task) (t : Task) (peer : PeerAddress) :
    heeded present (tasks ++ [t].filter (·.peer = peer)) = heeded present tasks ++
      if t.peer = peer ∧ (present || tasks.any (·.event.creates)) = true then
        t.event.handed?.toList
      else
        [] := by
  by_cases hpeer : t.peer = peer
  · rw [List.filter_cons_of_pos (by simpa using hpeer), List.filter_nil, heeded_concat]
    simp only [hpeer, true_and]
  · rw [List.filter_cons_of_neg (by simpa using hpeer)]
    simp [hpeer]

theorem countP_creates (t : Task) (peer : PeerAddress) :
    ([t].filter (·.peer = peer)).countP (·.event.creates) =
      if t.peer = peer ∧ t.event.creates = true then 1 else 0 := by
  rw [List.countP_filter, List.countP_singleton]
  simp [and_comm]

/-! ### The account of one peer -/

/-- What has become of the messages accepted for a peer whose session has not ended: some are sent,
some are in the queue of the session, and the others wait for their turn. -/
structure Upheld (session : Option Session) (effects : List Effect) (peer : PeerAddress)
    (accepted awaited : List Message) : Prop where
  came : .notice (.established peer) ∈ effects ↔
    ∃ s, session = some s ∧ s.state = .sessionUp
  kept : ∃ sent : List Message, Effect.passed peer effects = sent.map Message.encode ∧
    accepted.filter Role.client.forwards = sent.filter Role.client.forwards ++
      ((session.map Session.outbound).getD [] ++ awaited).filter Role.client.forwards

namespace Upheld

variable {session : Option Session} {effects : List Effect} {peer q : PeerAddress}
variable {accepted awaited : List Message} {s : Session}

theorem init (peer : PeerAddress) : Upheld none [] peer [] [] :=
  ⟨by simp, [], rfl, rfl⟩

/-- A message is accepted, and some session will handle it. -/
theorem accept (h : Upheld session effects peer accepted awaited) (ms : List Message) :
    Upheld session effects peer (accepted ++ ms) (awaited ++ ms) := by
  obtain ⟨sent, hsent, hkept⟩ := h.kept
  refine ⟨h.came, sent, hsent, ?_⟩
  rw [List.filter_append, hkept, ← List.append_assoc _ awaited, List.filter_append _ ms,
    List.append_assoc]

/-- A task of another peer. -/
theorem other (h : Upheld session effects peer accepted awaited) (hq : peer ≠ q)
    (actions : List Action) :
    Upheld session (effects ++ actions.flatMap (Action.effects q)) peer accepted awaited := by
  obtain ⟨hcame, hoctets⟩ := Effect.effects_of_ne hq actions
  obtain ⟨sent, hsent, hkept⟩ := h.kept
  refine ⟨by rw [List.mem_append, or_iff_left hcame, h.came], sent, ?_, hkept⟩
  by_cases hin : .notice (.established peer) ∈ effects
  · rw [Effect.passed_append_of_mem hin, hoctets, List.append_nil, hsent]
  · rw [Effect.passed_append_of_notMem hin, Effect.passed_of_notMem hcame, ← hsent,
      Effect.passed_of_notMem hin]

/-- A session is created. -/
theorem create (h : Upheld none effects peer accepted awaited) {t : Turn} {l : Ledger}
    (ht : t.Calm l s) (hs : s.outbound = []) (hup : t.session.state ≠ .sessionUp) :
    Upheld (some t.session) (effects ++ t.actions.flatMap (Action.effects peer)) peer accepted
      awaited := by
  have hin : .notice (.established peer) ∉ effects := fun hin => by
    obtain ⟨s, hs, -⟩ := h.came.mp hin
    cases hs
  have hnew : .notice (.established peer) ∉ t.actions.flatMap (Action.effects peer) := fun hx =>
    Action.established_notMem_of_quiet ht.quiet (Effect.established_mem_effects.mp hx)
  obtain ⟨sent, hsent, hkept⟩ := h.kept
  refine ⟨by simp [hin, hnew, hup], sent, ?_, ?_⟩
  · rw [Effect.passed_append_of_notMem hin, Effect.passed_of_notMem hnew, ← hsent,
      Effect.passed_of_notMem hin]
  · rw [hkept]
    simp [ht.queue, hs]

/-- A turn in which nothing changes but that a message is handed over. -/
theorem goesOn {e : SessionEvent} {t : Turn} {l : Ledger} (hs : s.Phase) (hrole : s.role = .client)
    (ht : t.GoesOn l s e)
    (h : Upheld (some s) effects peer accepted (e.handed?.toList ++ awaited)) :
    Upheld (some t.session) (effects ++ t.actions.flatMap (Action.effects peer)) peer accepted
      awaited := by
  have hcame : .notice (.established peer) ∈ effects ↔ s.state = .sessionUp :=
    h.came.trans (by simp)
  have hnew : .notice (.established peer) ∉ t.actions.flatMap (Action.effects peer) := fun hx =>
    ht.established (Effect.established_mem_effects.mp hx)
  obtain ⟨sent, hsent, hkept⟩ := h.kept
  rw [Option.map_some, Option.getD_some] at hkept
  refine ⟨by simp [hnew, hcame, ht.up], ?_⟩
  rw [Option.map_some, Option.getD_some]
  by_cases hup : s.state = .sessionUp
  · -- the message goes out at once
    have hqueue : t.session.outbound = [] := by
      rw [ht.queue, hs.outbound_of_up hup, Session.queued_of_up hup, List.append_nil]
    have hout := ht.sent hup
    rw [hrole, Session.passed_of_up hup, hrole] at hout
    refine ⟨sent ++ Action.sent t.actions, ?_, ?_⟩
    · rw [Effect.passed_append_of_mem (hcame.mpr hup), hsent, Effect.octets_effects,
        List.map_append]
    · rw [hkept, hs.outbound_of_up hup, hqueue, List.filter_append _ (Action.sent _), hout,
        List.nil_append, List.nil_append, List.filter_append _ awaited, List.append_assoc]
  · -- the message goes to the end of the queue
    have hin : .notice (.established peer) ∉ effects := fun hin => hup (hcame.mp hin)
    refine ⟨sent, ?_, ?_⟩
    · rw [Effect.passed_append_of_notMem hin, Effect.passed_of_notMem hnew, ← hsent,
        Effect.passed_of_notMem hin]
    · rw [hkept, ht.queue, Session.queued_of_client hup hrole, List.append_assoc]

/-- A turn in which the session comes up and sends what is in its queue. -/
theorem comesUp {t : Turn} {l : Ledger} (hup : s.state ≠ .sessionUp) (hrole : s.role = .client)
    (ht : t.ComesUp l s) (h : Upheld (some s) effects peer accepted awaited) :
    Upheld (some t.session) (effects ++ t.actions.flatMap (Action.effects peer)) peer accepted
      awaited := by
  have hin : .notice (.established peer) ∉ effects := fun hin => by
    obtain ⟨s', hs', hstate⟩ := h.came.mp hin
    rw [← Option.some.inj hs'] at hstate
    exact hup hstate
  obtain ⟨before, hactions, hquiet⟩ := ht.actions
  rw [hrole] at hactions
  have hbefore : .notice (.established peer) ∉ before.flatMap (Action.effects peer) := fun hx =>
    Action.established_notMem_of_quiet hquiet (Effect.established_mem_effects.mp hx)
  obtain ⟨sent, hsent, hkept⟩ := h.kept
  have hnil : sent = [] := by
    rw [Effect.passed_of_notMem hin] at hsent
    exact List.map_eq_nil_iff.mp hsent.symm
  rw [Option.map_some, Option.getD_some, hnil, List.filter_nil, List.nil_append] at hkept
  refine ⟨?_, s.outbound.filter Role.client.forwards, ?_, ?_⟩
  · simp only [Option.some.injEq, exists_eq_left', ht.up, iff_true, List.mem_append]
    exact .inr (Effect.established_mem_effects.mpr (by simp [hactions]))
  · rw [Effect.passed_append_of_notMem hin, hactions, List.flatMap_append,
      Effect.passed_append_of_notMem hbefore, List.flatMap_cons, Action.effects,
      List.singleton_append, Effect.passed_established, Effect.octets_effects,
      Action.sent_map_send]
  · rw [hkept, Option.map_some, Option.getD_some, ht.queue, List.nil_append, List.filter_append]
    simp only [List.filter_filter, Bool.and_self]

/-- A turn of the session that does not end it. -/
theorem turn {e : SessionEvent} (hs : s.Phase) (hc : s.closed = false) (hrole : s.role = .client)
    {n : TimerToken} (hstays : (s.handle n e).session.closed = false)
    (h : Upheld (some s) effects peer accepted (e.handed?.toList ++ awaited)) :
    Upheld (some (s.handle n e).session)
      (effects ++ (s.handle n e).actions.flatMap (Action.effects peer)) peer accepted awaited := by
  cases Session.outcome_handle hs hc n e with
  | goesOn ht => exact h.goesOn hs hrole ht
  | comesUp hup ht => exact h.comesUp hup hrole ht
  | ends _ ht =>
    rw [ht.closed] at hstays
    cases hstays

/-- A task of the peer that does not end its session. -/
theorem process {h : Handler} (hl : h.Lives)
    (hs : ∀ s, h.session? peer = some s → s.role = .client) {e : SessionEvent} {tasks : List Task}
    (hstays : h.session? peer ≠ none → (h.process peer e).next.session? peer ≠ none)
    (hkept : Upheld (h.session? peer) effects peer accepted
      (heeded (h.session? peer).isSome (⟨peer, e⟩ :: tasks))) :
    Upheld ((h.process peer e).next.session? peer) (effects ++ (h.process peer e).effects) peer
      accepted (heeded ((h.process peer e).next.session? peer).isSome tasks) := by
  rcases Handler.process_self hl peer e with ⟨s, hsome, heffects, hafter⟩ |
    ⟨hnone, he, heffects, hafter⟩ | ⟨hnone, he, hnext, heffects⟩
  · obtain ⟨hphase, hc⟩ := hl peer s hsome
    rw [hsome, hafter] at hstays
    rw [hsome] at hkept
    have hstill : (s.handle h.nextToken e).session.closed = false := by
      cases hclosed : (s.handle h.nextToken e).session.closed with
      | false => rfl
      | true =>
        rw [hclosed] at hstays
        exact absurd rfl (hstays (Option.some_ne_none _))
    rw [hafter, hstill, heffects]
    exact hkept.turn hphase hc (hs s hsome) hstill
  · rw [hnone, heeded, he] at hkept
    rw [hafter, heffects]
    exact hkept.create (h.calm_opening peer _) rfl (Session.state_start_ne _ _)
  · rw [hnone, heeded, he] at hkept
    rw [hnext, hnone, heffects, List.append_nil]
    exact hkept

end Upheld

/-! ### The queues of the workers -/

namespace WorkerQueue

/-- The tasks about a peer in the queue of its worker, oldest first. -/
def tasksOf (key : PeerAddress → Nat) (queues : List WorkerQueue) (peer : PeerAddress) :
    List Task :=
  ((queues[peer.channel queues.length key]?.map tasks).getD []).filter (·.peer = peer)

/-- Every task is in the queue of its peer's worker. -/
def Placed (key : PeerAddress → Nat) (queues : List WorkerQueue) : Prop :=
  ∀ (i : Nat) (q : WorkerQueue), queues[i]? = some q →
    ∀ t ∈ q.tasks, t.peer.channel queues.length key = i

variable {key : PeerAddress → Nat} {queues : List WorkerQueue} {q : WorkerQueue} {i : Nat}
variable {t : Task}

/-- Queues without tasks. -/
theorem idle (h : ∀ q ∈ queues, q.tasks = []) :
    Placed key queues ∧ ∀ peer, tasksOf key queues peer = [] := by
  refine ⟨fun i q hq t ht => ?_, fun peer => ?_⟩
  · rw [h q (List.mem_of_getElem? hq)] at ht
    cases ht
  · rw [tasksOf]
    cases hq : queues[peer.channel queues.length key]? with
    | none => rfl
    | some q =>
      rw [Option.map_some, Option.getD_some, h q (List.mem_of_getElem? hq)]
      rfl

/-- No worker starts with a task. -/
theorem start (role : Role) (workers : Nat) (key : PeerAddress → Nat) :
    Placed key (Desk.init role workers key).queues ∧
      ∀ peer, tasksOf key (Desk.init role workers key).queues peer = [] := by
  refine idle fun q hq => ?_
  rw [Desk.init, List.mem_replicate] at hq
  rw [hq.2]

theorem tasksOf_set (hq : queues[i]? = some q) (q' : WorkerQueue) (peer : PeerAddress) :
    tasksOf key (queues.set i q') peer =
      if peer.channel queues.length key = i then q'.tasks.filter (·.peer = peer)
      else tasksOf key queues peer := by
  have hi : i < queues.length := (List.getElem?_eq_some_iff.mp hq).1
  rw [tasksOf, List.length_set, List.getElem?_set]
  split
  · rename_i h
    rw [if_pos h.symm]
    rfl
  · rename_i h
    rw [if_neg (Ne.symm h), tasksOf]

theorem placed_set (h : Placed key queues) {q' : WorkerQueue}
    (hq' : ∀ t ∈ q'.tasks, t.peer.channel queues.length key = i) :
    Placed key (queues.set i q') := by
  intro j q hj t ht
  rw [List.length_set]
  rw [List.getElem?_set] at hj
  split at hj
  · rename_i hij
    split at hj
    · rw [← Option.some.inj hj] at ht
      exact (hq' t ht).trans hij
    · cases hj
  · exact h j q hj t ht

/-- A submitted task is the last one about its peer. -/
theorem submit {d d' : Desk} (h : d.submit t = .ok d') (hd : Placed d.key d.queues) :
    Placed d.key d'.queues ∧ ∀ peer, tasksOf d.key d'.queues peer =
      tasksOf d.key d.queues peer ++ [t].filter (·.peer = peer) := by
  unfold Desk.submit at h
  split at h
  · cases h
  · rename_i q hq
    split at h
    · cases h
      refine ⟨placed_set hd fun x hx => ?_, fun peer => ?_⟩
      · rcases List.mem_append.mp hx with hx | hx
        · exact hd _ q hq x hx
        · rw [List.mem_singleton.mp hx]
          rfl
      · rw [tasksOf_set hq]
        split
        · rename_i hchannel
          rw [List.filter_append, tasksOf, hchannel, hq]
          rfl
        · rename_i hchannel
          rw [List.filter_cons_of_neg, List.filter_nil, List.append_nil]
          rw [decide_eq_true_iff]
          rintro rfl
          exact hchannel rfl
    · cases h

/-- The task that a worker takes is the first one about its peer. -/
theorem take {rest : List Task} (hq : queues[i]? = some q) (ht : q.tasks = t :: rest)
    (h : Placed key queues) :
    Placed key (queues.set i { q with tasks := rest }) ∧ ∀ peer, tasksOf key queues peer =
      [t].filter (·.peer = peer) ++ tasksOf key (queues.set i { q with tasks := rest }) peer := by
  have hplace : ∀ x ∈ q.tasks, x.peer.channel queues.length key = i := h i q hq
  rw [ht] at hplace
  refine ⟨placed_set h fun x hx => hplace x (List.mem_cons_of_mem _ hx), fun peer => ?_⟩
  rw [tasksOf_set hq]
  split
  · rename_i hchannel
    rw [tasksOf, hchannel, hq, Option.map_some, Option.getD_some, ht, ← List.filter_append]
    rfl
  · rename_i hchannel
    rw [List.filter_cons_of_neg, List.filter_nil, List.nil_append]
    rw [decide_eq_true_iff]
    rintro rfl
    exact hchannel (hplace t List.mem_cons_self)

end WorkerQueue

/-! ### Calls in progress -/

/-- A message that was accepted for a peer, and whether it got ahead of a request: a registration
had reserved the peer then and was yet to ask for the session. -/
structure Accepted where
  peer : PeerAddress
  message : Message
  ahead : Bool
  deriving DecidableEq

/-- The sessions of a client, the queues of its workers, and the calls in progress. -/
structure Reception where
  handler : Handler
  queues : List WorkerQueue
  /-- the number of a peer that its worker is found by -/
  key : PeerAddress → Nat
  /-- reserved by a registration that is yet to ask for the session -/
  registering : List PeerAddress
  /-- messages for a peer that was found to be known, yet to be submitted -/
  handing : List (PeerAddress × Message)
  /-- what the sessions have asked for, in order -/
  effects : List Effect
  accepted : List Accepted
  /-- the peers of which a session has ended -/
  ended : List PeerAddress

namespace Reception

/-- Nothing has happened. -/
def init (settings : Settings) (firstId : UInt8) (workers : Nat) (key : PeerAddress → Nat) :
    Reception :=
  { handler := .init .client settings firstId
    queues := (Desk.init .client workers key).queues
    key
    registering := [], handing := [], effects := [], accepted := [], ended := [] }

/-- What calls see. -/
abbrev desk (w : Reception) : Desk :=
  { role := w.handler.role, registry := w.handler.registry, queues := w.queues, key := w.key }

/-- A registration has reserved its peer. -/
def reserve (w : Reception) (peer : PeerAddress) (registry : Registry) : Reception :=
  { w with
    handler := { w.handler with registry }
    registering := w.registering ++ [peer] }

/-- A registration has asked for the session, which ends the call. -/
def ask (w : Reception) (peer : PeerAddress) (d : Desk) : Reception :=
  { w with queues := d.queues, registering := w.registering.erase peer }

/-- The peer of a message is known, so that the message can be submitted. -/
def find (w : Reception) (peer : PeerAddress) (m : Message) : Reception :=
  { w with handing := w.handing ++ [(peer, m)] }

/-- A message is submitted, and the call returns that it was accepted. -/
def handOver (w : Reception) (peer : PeerAddress) (m : Message) (d : Desk) : Reception :=
  { w with
    queues := d.queues
    handing := w.handing.erase (peer, m)
    accepted := w.accepted ++ [{ peer, message := m, ahead := peer ∈ w.registering }] }

/-- The worker of a queue handles its first task. -/
def work (w : Reception) (i : Nat) (q : WorkerQueue) (t : Task) (rest : List Task) : Reception :=
  let handled := w.handler.process t.peer t.event
  { w with
    handler := handled.next
    queues := w.queues.set i { q with tasks := rest }
    effects := w.effects ++ handled.effects
    ended :=
      if (w.handler.session? t.peer).isSome && (handled.next.session? t.peer).isNone then
        w.ended ++ [t.peer]
      else
        w.ended }

/-- What can come about while no submission fails.  The steps of any number of calls and those of
the workers come in any order.  All other tasks of a client, the dispatcher's and the timers',
create no session and hand nothing over. -/
inductive Reached (start : Reception) : Reception → Prop
  | refl : Reached start start
  | reserve {w : Reception} (h : Reached start w) {peer : PeerAddress} {registry : Registry}
      (hr : w.handler.registry.reserve? peer = some registry) :
      Reached start (w.reserve peer registry)
  | ask {w : Reception} (h : Reached start w) {peer : PeerAddress} {d : Desk}
      (hp : peer ∈ w.registering) (hd : w.desk.submit ⟨peer, .connectRequested⟩ = .ok d) :
      Reached start (w.ask peer d)
  | find {w : Reception} (h : Reached start w) {peer : PeerAddress} {kind : MessageKind}
      {body : Octets} {m : Message} (hm : Message.make? kind body = .ok m)
      (hp : w.handler.registry.contains peer = true) : Reached start (w.find peer m)
  | handOver {w : Reception} (h : Reached start w) {peer : PeerAddress} {m : Message} {d : Desk}
      (hm : (peer, m) ∈ w.handing) (hd : w.desk.submit ⟨peer, .fromLocal m⟩ = .ok d) :
      Reached start (w.handOver peer m d)
  | submit {w : Reception} (h : Reached start w) {t : Task} {d : Desk}
      (ht : t.event.creates = false) (hm : t.event.handed? = none)
      (hd : w.desk.submit t = .ok d) : Reached start { w with queues := d.queues }
  | work {w : Reception} (h : Reached start w) {i : Nat} {q : WorkerQueue} {t : Task}
      {rest : List Task} (hq : w.queues[i]? = some q) (ht : q.tasks = t :: rest) :
      Reached start (w.work i q t rest)

/-! ### What is kept -/

/-- The tasks about a peer that wait, oldest first. -/
def tasks (w : Reception) (peer : PeerAddress) : List Task :=
  WorkerQueue.tasksOf w.key w.queues peer

/-- The messages accepted for a peer that did not get ahead of a request, in order. -/
def behind (w : Reception) (peer : PeerAddress) : List Message :=
  (w.accepted.filter fun x => x.peer = peer && !x.ahead).map Accepted.message

/-- The messages in the queue of a peer's session. -/
def queued (w : Reception) (peer : PeerAddress) : List Message :=
  ((w.handler.session? peer).map Session.outbound).getD []

/-- The waiting messages that a session of the peer will handle. -/
def awaited (w : Reception) (peer : PeerAddress) : List Message :=
  heeded (w.handler.session? peer).isSome (w.tasks peer)

/-- Reservations are those of registrations, and the accepted messages of a peer are kept as long
as its session has not ended. -/
structure Sound (w : Reception) : Prop where
  lives : w.handler.Lives
  role : w.handler.role = .client
  roles : ∀ peer s, w.handler.session? peer = some s → s.role = w.handler.role
  placed : WorkerQueue.Placed w.key w.queues
  pledge : ∀ peer, Pledge w.handler peer ((w.tasks peer).countP (·.event.creates))
    (w.registering.count peer)
  known : ∀ peer, peer ∉ w.ended → ∀ m, (peer, m) ∈ w.handing →
    w.handler.registry.contains peer = true
  kept : ∀ peer, peer ∉ w.ended → Upheld (w.handler.session? peer) w.effects peer (w.behind peer)
    (w.awaited peer)

variable {w : Reception}

theorem notMem_ended_work (hl : w.handler.Lives) {i : Nat} {q : WorkerQueue} {t : Task}
    {rest : List Task} {p : PeerAddress} (hp : p ∉ (w.work i q t rest).ended) :
    p ∉ w.ended ∧ (w.handler.session? p ≠ none →
      (w.handler.process t.peer t.event).next.session? p ≠ none) := by
  simp only [work] at hp
  split at hp
  · rw [List.mem_append, List.mem_singleton, not_or] at hp
    exact ⟨hp.1, fun hs => by rwa [Handler.session?_process_of_ne hl hp.2]⟩
  · rename_i hstays
    refine ⟨hp, fun hs hgone => ?_⟩
    by_cases hpeer : p = t.peer
    · subst hpeer
      exact hstays (by simp [hgone, Option.isSome_iff_ne_none.mpr hs])
    · rw [Handler.session?_process_of_ne hl hpeer] at hgone
      exact hs hgone

namespace Sound

theorem init (settings : Settings) (firstId : UInt8) (workers : Nat) (key : PeerAddress → Nat) :
    (init settings firstId workers key).Sound := by
  obtain ⟨hplaced, htasks⟩ := WorkerQueue.start .client workers key
  replace htasks : ∀ peer, (Reception.init settings firstId workers key).tasks peer = [] := htasks
  refine ⟨Handler.lives_init _ _ _, rfl, fun peer s hs => ?_, hplaced, fun peer => ?_, nofun,
    fun peer _ => ?_⟩
  · cases hs
  · rw [htasks]
    exact .init _ _ _ _
  · rw [awaited, htasks]
    exact .init peer

section Steps

variable (h : w.Sound)
include h

theorem reserve {peer : PeerAddress} {registry : Registry}
    (hr : w.handler.registry.reserve? peer = some registry) : (w.reserve peer registry).Sound := by
  have hsessions : ∀ q, (w.reserve peer registry).handler.session? q = w.handler.session? q := by
    obtain ⟨-, rfl⟩ := Registry.reserve?_eq_some hr
    exact fun q => rfl
  refine ⟨fun q s hs => h.lives q s (hsessions q ▸ hs), h.role,
    fun q s hs => h.roles q s (hsessions q ▸ hs), h.placed, fun q => ?_, fun q hq m hm => ?_,
    fun q hq => ?_⟩
  · exact (h.pledge q).reserve hr
  · have hknown := h.known q hq m hm
    obtain ⟨-, rfl⟩ := Registry.reserve?_eq_some hr
    rw [Registry.contains_iff] at hknown ⊢
    exact hknown.imp_right (List.mem_append_left _)
  · rw [awaited, hsessions]
    exact h.kept q hq

theorem ask {peer : PeerAddress} {d : Desk} (hp : peer ∈ w.registering)
    (hd : w.desk.submit ⟨peer, .connectRequested⟩ = .ok d) : (w.ask peer d).Sound := by
  obtain ⟨hplaced, htasks⟩ := WorkerQueue.submit hd h.placed
  refine ⟨h.lives, h.role, h.roles, hplaced, fun q => ?_, h.known, fun q hq => ?_⟩
  · rw [tasks, Reception.ask, htasks, List.countP_append, countP_creates]
    exact (h.pledge q).ask hp rfl
  · have hawaited : (w.ask peer d).awaited q = w.awaited q := by
      rw [awaited, tasks, Reception.ask, htasks, heeded_submit]
      simp [awaited, tasks, SessionEvent.handed?]
    rw [hawaited]
    exact h.kept q hq

theorem find {peer : PeerAddress} {m : Message}
    (hp : w.handler.registry.contains peer = true) : (w.find peer m).Sound := by
  refine ⟨h.lives, h.role, h.roles, h.placed, h.pledge, fun q hq m' hm' => ?_, h.kept⟩
  rcases List.mem_append.mp hm' with hm' | hm'
  · exact h.known q hq m' hm'
  · rw [show q = peer from congrArg Prod.fst (List.mem_singleton.mp hm')]
    exact hp

theorem submit {t : Task} {d : Desk} (ht : t.event.creates = false)
    (hm : t.event.handed? = none) (hd : w.desk.submit t = .ok d) :
    ({ w with queues := d.queues } : Reception).Sound := by
  obtain ⟨hplaced, htasks⟩ := WorkerQueue.submit hd h.placed
  refine ⟨h.lives, h.role, h.roles, hplaced, fun q => ?_, h.known, fun q hq => ?_⟩
  · rw [tasks, htasks, List.countP_append, countP_creates, if_neg (by simp [ht])]
    exact h.pledge q
  · have hawaited : ({ w with queues := d.queues } : Reception).awaited q = w.awaited q := by
      rw [awaited, tasks, htasks, heeded_submit]
      simp [awaited, tasks, hm]
    rw [hawaited]
    exact h.kept q hq

/-- Where the call finds a peer known, there is a session or a request for one, or the registration
that reserved it is yet to ask. -/
theorem heeds_iff {peer : PeerAddress} {m : Message} (hended : peer ∉ w.ended)
    (hm : (peer, m) ∈ w.handing) :
    ((w.handler.session? peer).isSome || (w.tasks peer).any (·.event.creates)) = true ↔
      peer ∉ w.registering := by
  have hpledge := h.pledge peer
  have hrequests : (w.tasks peer).any (·.event.creates) = true ↔
      0 < (w.tasks peer).countP (·.event.creates) := by
    rw [List.any_eq_true, List.countP_pos_iff]
  rw [Bool.or_eq_true, Option.isSome_iff_ne_none, hrequests]
  refine ⟨fun hthere hreg => ?_, fun hreg => ?_⟩
  · have hcallers := List.count_pos_iff.mpr hreg
    obtain ⟨hreserved, hnone⟩ := hpledge.absent_of_pos (by omega)
    have hone := hpledge.one
    rw [if_pos hreserved] at hone
    rcases hthere with hsome | hrequest
    · exact hsome hnone
    · omega
  · by_contra hnot
    rw [not_or, not_not] at hnot
    have hknown := h.known peer hended m hm
    rw [Registry.contains_iff] at hknown
    have hone := hpledge.one
    rw [if_pos (hknown.resolve_left fun hsome => hsome hnot.1),
      List.count_eq_zero_of_not_mem hreg] at hone
    omega

theorem handOver {peer : PeerAddress} {m : Message} {d : Desk} (hm : (peer, m) ∈ w.handing)
    (hd : w.desk.submit ⟨peer, .fromLocal m⟩ = .ok d) : (w.handOver peer m d).Sound := by
  obtain ⟨hplaced, htasks⟩ := WorkerQueue.submit hd h.placed
  refine ⟨h.lives, h.role, h.roles, hplaced, fun q => ?_, fun q hq m' hm' => ?_,
    fun q hq => ?_⟩
  · rw [tasks, Reception.handOver, htasks, List.countP_append, countP_creates,
      if_neg (by simp [SessionEvent.creates])]
    exact h.pledge q
  · exact h.known q hq m' (List.mem_of_mem_erase hm')
  · -- the message is heeded unless it got ahead of the request
    have hawaited : (w.handOver peer m d).awaited q = w.awaited q ++
        if peer = q ∧ q ∉ w.registering then [m] else [] := by
      show heeded _ (WorkerQueue.tasksOf w.desk.key d.queues q) = _
      rw [htasks, heeded_submit]
      by_cases hpeer : peer = q
      · subst hpeer
        have hheeds := h.heeds_iff hq hm
        simp only [true_and]
        rw [← if_congr hheeds rfl rfl]
        rfl
      · rw [if_neg (by simp [hpeer]), if_neg (by simp [hpeer])]
        rfl
    have hbehind : (w.handOver peer m d).behind q = w.behind q ++
        if peer = q ∧ q ∉ w.registering then [m] else [] := by
      rw [behind, Reception.handOver, List.filter_append, List.map_append, behind]
      by_cases hpeer : peer = q
      · subst hpeer
        by_cases hreg : peer ∈ w.registering <;> simp [hreg]
      · simp [hpeer]
    rw [hawaited, hbehind]
    exact (h.kept q hq).accept _

theorem work {i : Nat} {q : WorkerQueue} {t : Task} {rest : List Task}
    (hq : w.queues[i]? = some q) (ht : q.tasks = t :: rest) : (w.work i q t rest).Sound := by
  obtain ⟨hplaced, htasks⟩ := WorkerQueue.take hq ht h.placed
  have hrole := w.handler.role_process t.peer t.event
  have hother : ∀ p, p ≠ t.peer →
      (w.work i q t rest).handler.session? p = w.handler.session? p :=
    fun p hp => Handler.session?_process_of_ne h.lives hp
  refine ⟨Handler.lives_process h.lives t.peer t.event, hrole.trans h.role,
    fun p s hs => ?_, hplaced, fun p => ?_, fun p hp m hm => ?_, fun p hp => ?_⟩
  · exact (Handler.roles_process h.lives h.roles t.peer t.event p s hs).trans hrole.symm
  · have hpledge := h.pledge p
    rw [tasks, htasks, List.countP_append, countP_creates] at hpledge
    exact hpledge.work h.lives
  · obtain ⟨hended, hstays⟩ := notMem_ended_work h.lives hp
    exact Handler.contains_process h.lives hstays (h.known p hended m hm)
  · obtain ⟨hended, hstays⟩ := notMem_ended_work h.lives hp
    have hkept := h.kept p hended
    rw [awaited, tasks, htasks] at hkept
    by_cases hpeer : p = t.peer
    · subst hpeer
      rw [List.filter_cons_of_pos (by simp)] at hkept
      exact hkept.process h.lives (fun s hs => (h.roles _ s hs).trans h.role) hstays
    · rw [List.filter_cons_of_neg (by simpa using Ne.symm hpeer)] at hkept
      obtain ⟨actions, heffects⟩ := w.handler.process_effects t.peer t.event
      rw [awaited, hother p hpeer, Reception.work, heffects]
      exact hkept.other hpeer actions

end Steps

end Sound

variable {start : Reception} {peer : PeerAddress} {d : Desk}

theorem submit_of_submitOr {d d' before : Desk} {t : Task}
    (h : d.submitOr before t = (d', .ok ())) : d.submit t = .ok d' := by
  unfold Desk.submitOr at h
  split at h
  · rename_i hd
    rw [hd]
    exact congrArg Except.ok (congrArg Prod.fst h)
  · cases h

/-- Submitting changes the queues only. -/
theorem submit_eq {d d' : Desk} {t : Task} (h : d.submit t = .ok d') :
    { d with queues := d'.queues } = d' := by
  unfold Desk.submit at h
  split at h
  · cases h
  · split at h
    · cases h
      rfl
    · cases h

/-- A registration that nothing comes in between is its two steps. -/
theorem Reached.register (h : Reached start w) (hd : w.desk.register peer = (d, .ok ())) :
    ∃ w', Reached start w' ∧ w'.desk = d := by
  unfold Desk.register at hd
  split at hd
  · split at hd
    · cases hd
    · rename_i registry hr
      have hsubmit := submit_of_submitOr hd
      have hreserved := h.reserve hr
      have hasked := hreserved.ask (List.mem_append_right _ (List.mem_singleton.mpr rfl)) hsubmit
      exact ⟨_, hasked, submit_eq hsubmit⟩
  · cases hd

/-- A delivery that nothing comes in between is its two steps. -/
theorem Reached.deliver (h : Reached start w) {kind : MessageKind} {body : Octets}
    (hd : w.desk.deliver peer kind body = (d, .ok ())) :
    ∃ w' m, Message.make? kind body = .ok m ∧ Reached start w' ∧ w'.desk = d ∧
      w'.accepted = w.accepted ++ [{ peer, message := m, ahead := peer ∈ w.registering }] := by
  unfold Desk.deliver at hd
  split at hd
  · cases hd
  · rename_i m hm
    split at hd
    · rename_i hknown
      have hsubmit := submit_of_submitOr hd
      have hfound := h.find hm hknown
      have hhanded := hfound.handOver (List.mem_append_right _ (List.mem_singleton.mpr rfl)) hsubmit
      exact ⟨_, m, hm, hhanded, submit_eq hsubmit, rfl⟩
    · cases hd

variable {settings : Settings} {firstId : UInt8} {workers : Nat} {key : PeerAddress → Nat}

theorem Reached.sound (h : Reached (init settings firstId workers key) w) : w.Sound := by
  induction h with
  | refl => exact .init settings firstId workers key
  | reserve _ hr ih => exact ih.reserve hr
  | ask _ hp hd ih => exact ih.ask hp hd
  | find _ _ hp ih => exact ih.find hp
  | handOver _ hm hd ih => exact ih.handOver hm hd
  | submit _ ht hm hd ih => exact ih.submit ht hm hd
  | work _ hq ht ih => exact ih.work hq ht

/-- **Accepted messages are kept behind a registration.**  However the steps of the calls and of the
workers mix, and whichever worker a peer has, as long as no session of the peer has ended: the
messages accepted for it that did not get ahead of the request for its session, and that a client
forwards, are those that its session has sent since it came up, then those in its queue, and then
those that wait for the session; each once and in order.  A message that got ahead is not among
them. -/
theorem accepted_kept (h : Reached (init settings firstId workers key) w) (hp : peer ∉ w.ended) :
    ∃ sent : List Message, Effect.passed peer w.effects = sent.map Message.encode ∧
      (w.behind peer).filter Role.client.forwards =
        (sent ++ w.queued peer ++ w.awaited peer).filter Role.client.forwards := by
  obtain ⟨sent, hsent, hkept⟩ := (h.sound.kept peer hp).kept
  refine ⟨sent, hsent, ?_⟩
  rw [hkept, List.append_assoc, List.filter_append sent]
  rfl

/-- An engine with one worker has one queue for all tasks. -/
theorem submit_single {role : Role} {registry : Registry} {tasks : List Task} (t : Task) :
    Desk.submit { role, registry, queues := [{ tasks, accepts := true }], key } t
      = .ok { role, registry, queues := [{ tasks := tasks ++ [t], accepts := true }], key } := by
  simp [Desk.submit, Desk.channelOf, PeerAddress.channel, Nat.mod_one]

/-- One caller registers a peer, and another hands over two messages.  The first gets ahead of the
request and is dropped by the worker, though it was accepted; the second is in the queue. -/
theorem accepted_kept_ahead :
    let p := PeerAddress.v4 ⟨10, 0, 0, 1⟩ 4189
    let lost := Message.make .request [1]
    let kept := Message.make .request [2]
    ∃ w : Reception, Reached (init {} 1 1 PeerAddress.key) w ∧ p ∉ w.ended ∧
      w.accepted = [{ peer := p, message := lost, ahead := true },
        { peer := p, message := kept, ahead := false }] ∧
      w.tasks p = [] ∧ w.queued p = [kept] ∧
      ∃ sent : List Message, Effect.passed p w.effects = sent.map Message.encode ∧
        (w.behind p).filter Role.client.forwards =
          (sent ++ w.queued p ++ w.awaited p).filter Role.client.forwards := by
  intro p lost kept
  let w₀ := init {} 1 1 PeerAddress.key
  have hreserved : Reached w₀ (w₀.reserve p _) := .reserve .refl rfl
  have hfound := hreserved.find (show Message.make? .request [1] = .ok lost from rfl)
    (show Registry.contains _ p = true from rfl)
  have hahead := hfound.handOver (List.mem_singleton.mpr rfl) (submit_single _)
  have hasked := hahead.ask (show p ∈ _ from List.mem_singleton.mpr rfl) (submit_single _)
  have hfound' := hasked.find (show Message.make? .request [2] = .ok kept from rfl)
    (show Registry.contains _ p = true from rfl)
  have hbehind := hfound'.handOver (List.mem_singleton.mpr rfl) (submit_single _)
  have hdropped := hbehind.work (i := 0) rfl rfl
  have hcreated := hdropped.work (i := 0) rfl rfl
  have hqueued := hcreated.work (i := 0) rfl rfl
  exact ⟨_, hqueued, by decide +kernel, by decide +kernel, by decide +kernel, by decide +kernel,
    accepted_kept hqueued (by decide +kernel)⟩

end Reception

end PathSession
