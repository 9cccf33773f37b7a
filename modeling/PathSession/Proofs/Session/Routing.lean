import PathSession.Proofs.Pair.Relay
import PathSession.Proofs.Session.Parting

/-!
# What a session passes on

A session composes what it says for itself, and passes on what its collaborator submits: a message
of a session that is up at once, and those that wait in the queue of a client as it comes up.  What
it hands to the collaborator is what it hears while it is up.  The role decides on the types.

* `Role.Submits`, `Role.Receives`: the types of messages that go out and come in;
* `Beat.relayed`, `Beat.own`: what a turn sends for the collaborator, and what for the session;
* `Session.Run.submitted`, `Session.Run.relayed`: the same over a run;
* `Party.client_keeps_order`: a client passes on all that was submitted, in order;
* `Party.Composes`: what a session says for itself;
* `Party.routed_by_role`: the types of all that is passed on, and what else is dropped.
-/

namespace PathSession

/-! ### Types of messages -/

namespace Role

variable {role : Role} {m : Message} {kind : MessageKind}

/-- The types of messages that a collaborator of this role sends. -/
def Submits (role : Role) (kind : MessageKind) : Prop :=
  kind = .notification ∨ kind = .error ∨ role = .client ∧ kind = .request ∨
    role = .server ∧ kind = .response

/-- The types of messages that a collaborator of this role is handed. -/
def Receives (role : Role) (kind : MessageKind) : Prop :=
  kind = .notification ∨ kind = .error ∨ role = .server ∧ kind = .request ∨
    role = .client ∧ kind = .response

theorem forwards_iff : role.forwards m = true ↔
    ∃ kind, m.kind? = some kind ∧ role.Submits kind := by
  unfold forwards Message.kind
  cases m.kind? with
  | none => simp
  | some kind => cases role <;> cases kind <;> simp [Submits]

theorem delivers_iff : role.delivers kind = true ↔ role.Receives kind := by
  cases role <;> cases kind <;> simp [delivers, Receives]

/-- What a collaborator is handed is well-formed. -/
theorem takes_iff : role.takes m = true ↔
    ∃ c, m.content = .ok c ∧ role.Receives c.kind := by
  unfold takes
  cases m.content with
  | error x => simp
  | ok c => cases c <;> simp [Content.kind, delivers_iff, Receives]

end Role

/-! ### What a turn passes on -/

namespace Beat

variable (b : Beat)

/-- The messages that are sent for the collaborator: in answer to a message of its own, or from
coming up on. -/
def relayed : List Message :=
  match b.event with
  | .fromLocal _ => Action.sent b.turn.actions
  | _ => Action.sent (Action.sinceUp b.turn.actions)

/-- The messages that the session sends for itself. -/
def own : List Message :=
  match b.event with
  | .fromLocal _ => []
  | _ => Action.sent (Action.untilUp b.turn.actions)

/-- There are no others. -/
theorem sent_eq : Action.sent b.turn.actions = b.own ++ b.relayed := by
  unfold own relayed
  split
  · rfl
  · exact (Action.sent_untilUp_sinceUp _).symm

end Beat

namespace Session

variable {s : Session} {n : TimerToken} {e : SessionEvent}

/-- A local message is passed on at once or not at all. -/
theorem sent_fromLocal (hc : s.closed = false) (m : Message) :
    Action.sent (s.handle n (.fromLocal m)).actions = s.passed (.fromLocal m) := by
  rw [handle_eq_take hc, Turn.take, Turn.fromLocal, Turn.session_start]
  by_cases hs : s.state = .sessionUp
  · by_cases hm : s.role.forwards m = true <;> simp [hs, hm, passed]
  · rw [if_neg hs]
    split <;> simp [passed, hs]

/-- A session that goes on passes on what it is given while it is up. -/
theorem relayed_of_goesOn {l : Ledger} (hc : s.closed = false)
    (h : (s.handle n e).GoesOn l s e) :
    Beat.relayed ⟨s, e, s.handle n e⟩ = s.passed e := by
  cases e with
  | fromLocal m => exact sent_fromLocal hc m
  | _ => exact congrArg Action.sent (Action.sinceUp_eq_nil h.established)

/-- A session that comes up passes on its queue. -/
theorem relayed_of_comesUp {l : Ledger} {m : Message} (h : (s.handle n (.network m)).ComesUp l s) :
    Beat.relayed ⟨s, .network m, s.handle n (.network m)⟩ = s.outbound.filter s.role.forwards := by
  obtain ⟨before, hactions, hquiet⟩ := h.actions
  show Action.sent (Action.sinceUp _) = _
  rw [hactions, Action.sinceUp_of_notMem (Action.established_notMem_of_quiet hquiet)]
  simp

/-- A session that is closed or closes passes on nothing. -/
theorem relayed_of_closed (h : s.Phase) (hclosed : (s.handle n e).session.closed = true) :
    Beat.relayed ⟨s, e, s.handle n e⟩ = [] := by
  cases hc : s.closed with
  | true =>
    have hactions := (handle_of_closed hc n e).2.2
    cases e <;> simp [Beat.relayed, hactions, Action.sinceUp]
  | false =>
    obtain ⟨reason, said, hp, hfinished⟩ := (outcome_handle h hc n e).finished hclosed
    obtain ⟨before, hactions, -, hquiet⟩ := hfinished.actions
    have hnot : .established ∉ (s.handle n e).actions := by
      simp [hactions, Action.established_notMem_of_quiet hquiet]
    cases e with
    | fromLocal m =>
      -- no session is closed for a local message
      cases hp with
      | connectRetriesExhausted _ he => cases he
    | _ => exact congrArg Action.sent (Action.sinceUp_eq_nil hnot)

/-- A session that is not closed by an event goes on or comes up. -/
theorem still_cases (h : s.Phase) (hstill : (s.handle n e).session.closed = false) :
    s.closed = false ∧
      ((s.handle n e).GoesOn { slots := s.slotsAt e, next := n } s e ∨
        ∃ m, e = .network m ∧ s.state ≠ .sessionUp ∧
          (s.handle n e).ComesUp { slots := s.slotsAt e, next := n } s) := by
  have hc : s.closed = false := by
    refine Bool.eq_false_iff.mpr fun hc => ?_
    rw [(handle_of_closed hc n e).1, hc] at hstill
    cases hstill
  exact ⟨hc, (outcome_handle h hc n e).of_still hstill⟩

/-- The queue of a closed session is empty. -/
theorem Phase.outbound_of_closed (h : s.Phase) (hc : s.closed = true) : s.outbound = [] := by
  have hholds := h.holds
  cases hs : s.state <;> rw [hs] at hholds
  case idle => exact hholds.2.2.2.1
  all_goals
    rw [hholds.1] at hc
    cases hc

theorem passed_of_not_up (hs : s.state ≠ .sessionUp) (e : SessionEvent) : s.passed e = [] := by
  cases e with
  | fromLocal m => simp [passed, hs]
  | _ => rfl

theorem of_mem_passed {m : Message} (hm : m ∈ s.passed e) :
    e.handed? = some m ∧ s.role.forwards m = true := by
  cases e with
  | fromLocal m' =>
    simp only [passed] at hm
    split at hm
    · rename_i hpass
      obtain rfl := List.mem_singleton.mp hm
      exact ⟨rfl, hpass.2⟩
    · cases hm
  | _ => cases hm

theorem of_mem_queued {m : Message} (hm : m ∈ s.queued e) : e.handed? = some m := by
  cases e with
  | fromLocal m' =>
    simp only [queued] at hm
    split at hm
    · rw [List.mem_singleton.mp hm]
      rfl
    · cases hm
  | _ => cases hm

end Session

/-! ### What a run passes on -/

namespace Session.Run

variable (r : Run) (n : TimerToken) (e : SessionEvent)

/-- The messages that the collaborator has submitted, in order. -/
def submitted : List Message := r.beats.filterMap fun b => b.event.handed?

/-- The messages that were sent for the collaborator, in order. -/
def relayed : List Message := r.beats.flatMap Beat.relayed

@[simp] theorem submitted_tell : (r.tell n e).submitted = r.submitted ++ e.handed?.toList := by
  cases h : e.handed? <;> simp [submitted, h]

@[simp] theorem relayed_tell :
    (r.tell n e).relayed = r.relayed ++ Beat.relayed ⟨r.session, e, r.session.handle n e⟩ := by
  simp [relayed]

/-- All that a session has passed on or keeps was submitted, and its role sends what it passes on. -/
structure Kept (role : Role) (r : Run) : Prop where
  relayed : ∀ m ∈ r.relayed, m ∈ r.submitted ∧ role.forwards m = true
  waiting : ∀ m ∈ r.session.outbound, m ∈ r.submitted

/-- While it is not closed, what it has passed on is what was sent since it came up, and what a
client has passed on and keeps is all that was submitted. -/
structure Orderly (role : Role) (r : Run) : Prop where
  up : r.session.state = .sessionUp ↔ .established ∈ r.actions
  said : (Action.sent (Action.sinceUp r.actions)).filter role.forwards = r.relayed
  complete : role = .client → r.relayed ++ r.session.outbound.filter role.forwards =
    r.submitted.filter role.forwards

variable {r n e} {role : Role}

/-- Before it comes up, nothing is passed on. -/
theorem Orderly.relayed_eq_nil (h : r.Orderly role) (hs : r.session.state ≠ .sessionUp) :
    r.relayed = [] := by
  rw [← h.said, Action.sinceUp_eq_nil (mt h.up.mpr hs)]
  rfl

section Step

variable (hrole : r.session.role = role)
include hrole

theorem Kept.tell (hphase : r.session.Phase) (h : r.Kept role) : (r.tell n e).Kept role := by
  have hmono : ∀ m ∈ r.submitted, m ∈ (r.tell n e).submitted := fun m hm => by simp [hm]
  have hnew : ∀ m, e.handed? = some m → m ∈ (r.tell n e).submitted := fun m hm => by simp [hm]
  have hadded : (∀ m ∈ Beat.relayed ⟨r.session, e, r.session.handle n e⟩,
      m ∈ (r.tell n e).submitted ∧ role.forwards m = true) ∧
      ∀ m ∈ (r.session.handle n e).session.outbound, m ∈ (r.tell n e).submitted := by
    cases hstill : (r.session.handle n e).session.closed with
    | true =>
      rw [relayed_of_closed hphase hstill, (phase_handle hphase n e).outbound_of_closed hstill]
      exact ⟨nofun, nofun⟩
    | false =>
      obtain ⟨hc, hgoes | ⟨m, rfl, -, hcomes⟩⟩ := still_cases hphase hstill
      · rw [relayed_of_goesOn hc hgoes, hgoes.queue]
        refine ⟨fun m hm => ?_, fun m hm => ?_⟩
        · obtain ⟨hhanded, hforwards⟩ := of_mem_passed hm
          exact ⟨hnew m hhanded, hrole ▸ hforwards⟩
        · rcases List.mem_append.mp hm with hm | hm
          · exact hmono m (h.waiting m hm)
          · exact hnew m (of_mem_queued hm)
      · rw [relayed_of_comesUp hcomes, hcomes.queue]
        refine ⟨fun m hm => ?_, nofun⟩
        obtain ⟨hm, hforwards⟩ := List.mem_filter.mp hm
        exact ⟨hmono m (h.waiting m hm), hrole ▸ hforwards⟩
  refine ⟨fun m hm => ?_, by simpa using hadded.2⟩
  rw [relayed_tell] at hm
  rcases List.mem_append.mp hm with hm | hm
  · exact ⟨hmono m (h.relayed m hm).1, (h.relayed m hm).2⟩
  · exact hadded.1 m hm

theorem Orderly.goesOn (hphase : r.session.Phase) (h : r.Orderly role)
    (hc : r.session.closed = false)
    (hgoes : (r.session.handle n e).GoesOn { slots := r.session.slotsAt e, next := n } r.session e) :
    (r.tell n e).Orderly role := by
  have hnot := hgoes.established
  have hrelayed := relayed_of_goesOn hc hgoes
  refine ⟨by simp [hgoes.up, h.up, hnot], ?_, fun hclient => ?_⟩
  · rw [actions_tell, relayed_tell, hrelayed]
    by_cases hs : r.session.state = .sessionUp
    · have hsent := hgoes.sent hs
      rw [hrole] at hsent
      rw [Action.sinceUp_of_mem (h.up.mp hs), Action.sent_append, List.filter_append, h.said, hsent]
    · rw [Action.sinceUp_eq_nil (by simp [hnot, mt h.up.mpr hs]), h.relayed_eq_nil hs,
        passed_of_not_up hs]
      rfl
  · rw [session_tell, relayed_tell, submitted_tell, hrelayed, hgoes.queue, List.filter_append,
      List.filter_append, ← h.complete hclient]
    by_cases hs : r.session.state = .sessionUp
    · simp [passed_of_up hs, queued_of_up hs, hphase.outbound_of_up hs, hrole]
    · simp [passed_of_not_up hs, queued_of_client hs (hrole.trans hclient)]

theorem Orderly.comesUp (h : r.Orderly role) {m : Message} (hs : r.session.state ≠ .sessionUp)
    (hcomes : (r.session.handle n (.network m)).ComesUp
      { slots := r.session.slotsAt (.network m), next := n } r.session) :
    (r.tell n (.network m)).Orderly role := by
  have hrelayed := relayed_of_comesUp hcomes
  rw [hrole] at hrelayed
  refine ⟨?_, ?_, fun hclient => ?_⟩
  · obtain ⟨before, hactions, -⟩ := hcomes.actions
    simp [hcomes.up, hactions]
  · -- what is sent from coming up on is what is passed on
    have hsent : Action.sent (Action.sinceUp (r.session.handle n (.network m)).actions) =
        r.session.outbound.filter role.forwards := hrelayed
    rw [actions_tell, relayed_tell, hrelayed, h.relayed_eq_nil hs,
      Action.sinceUp_of_notMem (mt h.up.mpr hs), hsent]
    simp
  · rw [session_tell, relayed_tell, submitted_tell, hrelayed, hcomes.queue]
    simp [SessionEvent.handed?, h.complete hclient]

end Step

/-- A session that has only started has passed on nothing. -/
theorem kept_start {t : Turn} (hqueue : t.session.outbound = []) : Kept role ⟨t, []⟩ :=
  ⟨nofun, by simp [hqueue]⟩

theorem orderly_start {t : Turn} (hqueue : t.session.outbound = [])
    (hs : t.session.state ≠ .sessionUp) (hnot : .established ∉ t.actions) :
    Orderly role ⟨t, []⟩ := by
  refine ⟨by simp [hs, hnot], ?_, fun _ => by simp [hqueue, relayed, submitted]⟩
  rw [actions_start, Action.sinceUp_eq_nil hnot]
  rfl

end Session.Run

/-- What a session that is not closed has said before it came up is what its moves tell. -/
theorem Session.History.negotiates {p : Party} {initiator : Bool} {s : Session}
    {actions : List Action} {moves : List Advance} (h : History p initiator s actions moves)
    (hc : s.closed = false) :
    p.Negotiates moves (Action.sent (Action.untilUp actions)) s.terms s.standing := by
  obtain ⟨said, f, hrecorded⟩ := h.recorded
  obtain ⟨later, hspoken, -, hquiet⟩ := hrecorded.spoken
  have hsaid : Action.sent (Action.untilUp actions) = said := by
    by_cases hup : f.state = .sessionUp
    · exact hspoken.early (decide_eq_true hup)
    · have hnot : .established ∉ actions := by simp [hspoken.established, hup]
      rw [Action.untilUp_eq_self hnot, hspoken.sent_eq, (hquiet hup).1 hc, List.append_nil]
  rw [hsaid, hrecorded.standing hc]
  exact hrecorded.negotiates

namespace Party

open Session

variable (p : Party) (initiator : Bool) (n : TimerToken) (cues : List (TimerToken × SessionEvent))

theorem role_run : (p.run initiator n cues).session.role = p.role :=
  congrArg role (p.party_run initiator n cues)

theorem kept_run : (p.run initiator n cues).Kept p.role := by
  induction cues using List.reverseRecOn with
  | nil => exact Run.kept_start (calm_start (s := p.session initiator) rfl n).queue
  | append_singleton cues cue ih =>
    rw [run_concat]
    exact ih.tell (p.role_run initiator n cues) (p.phase_run initiator n cues)

theorem orderly_run (hc : (p.run initiator n cues).session.closed = false) :
    (p.run initiator n cues).Orderly p.role := by
  induction cues using List.reverseRecOn with
  | nil =>
    have hcalm := calm_start (s := p.session initiator) rfl n
    exact Run.orderly_start hcalm.queue (state_start_ne _ n)
      (Action.established_notMem_of_quiet hcalm.quiet)
  | append_singleton cues cue ih =>
    have hphase := p.phase_run initiator n cues
    have hrole := p.role_run initiator n cues
    rw [run_concat] at hc ⊢
    rw [Run.session_tell] at hc
    obtain ⟨hbefore, hgoes | ⟨m, hm, hs, hcomes⟩⟩ := still_cases hphase hc
    · exact (ih hbefore).goesOn hrole hphase hbefore hgoes
    · rw [hm] at hcomes ⊢
      exact (ih hbefore).comesUp hrole hs hcomes

/-- **A client keeps order.**  While a client is not closed, what it has passed on and what waits in
its queue, as far as its role sends such messages at all, is what was submitted, in order, each
message once and unchanged.  What it has passed on is what it has sent since it came up, other than
KEEPALIVEs; before that it says what belongs to the negotiation, and nothing else.  Its queue is
empty once it is up. -/
theorem client_keeps_order (hrole : p.role = .client)
    (hc : (p.run initiator n cues).session.closed = false) :
    let r := p.run initiator n cues
    r.relayed ++ r.session.outbound.filter (Role.forwards .client) =
        r.submitted.filter (Role.forwards .client) ∧
      r.relayed = (Action.sent (Action.sinceUp r.actions)).filter (Role.forwards .client) ∧
      (∃ moves, p.Negotiates moves (Action.sent (Action.untilUp r.actions)) r.session.terms
        r.session.standing) ∧
      (.established ∉ r.actions → r.relayed = []) ∧
      (r.session.state = .sessionUp → r.session.outbound = []) := by
  intro r
  have horderly : r.Orderly .client := hrole ▸ p.orderly_run initiator n cues hc
  obtain ⟨moves, hhistory⟩ := p.history_run initiator n cues
  refine ⟨horderly.complete rfl, horderly.said.symm, ⟨moves, hhistory.negotiates hc⟩,
    fun hnot => ?_, hhistory.phase.outbound_of_up⟩
  exact horderly.relayed_eq_nil (mt horderly.up.mp hnot)

/-- A client is given a REQUEST while it connects, a RESPONSE while it waits for an OPEN, and a
NOTIFICATION once it is up. -/
theorem client_keeps_order_connecting :
    let p : Party :=
      { peer := .v4 ⟨10, 0, 0, 1⟩ 4189, role := .client, sessionId := 1, settings := {} }
    let r := p.run true 1 [(2, .fromLocal (.make .request [1])), (2, .transportUp),
      (3, .fromLocal (.make .response [2])), (3, .network (OpenObject.propose 30 120 2).message),
      (4, .network keepaliveMessage), (6, .fromLocal (.make .notification [3]))]
    p.role = .client ∧ r.session.closed = false ∧ r.session.state = .sessionUp ∧
      r.submitted = [.make .request [1], .make .response [2], .make .notification [3]] ∧
      r.relayed = [.make .request [1], .make .notification [3]] := by
  intro p r
  have hc : r.session.closed = false := by decide +kernel
  have hup : r.session.state = .sessionUp := by decide +kernel
  obtain ⟨hkept, -, -, -, hqueue⟩ := client_keeps_order p true 1 _ rfl hc
  have hsubmitted : r.submitted =
      [.make .request [1], .make .response [2], .make .notification [3]] := by decide +kernel
  refine ⟨rfl, hc, hup, hsubmitted, ?_⟩
  rw [hqueue hup, List.filter_nil, List.append_nil] at hkept
  exact hkept.trans (by rw [hsubmitted]; decide +kernel)

end Party

/-! ### What a session says for itself -/

/-- The messages that a session of a party composes itself. -/
def Party.Composes (p : Party) (m : Message) : Prop :=
  (∃ keepalive deadTimer, m = (OpenObject.propose keepalive deadTimer p.sessionId).message) ∨
    m = keepaliveMessage ∨ (∃ x proposal, m = (ErrorObject.establishment x).message proposal) ∨
    ∃ c : CloseCause, m = c.message

theorem Message.Farewell.composes {m : Message} (h : m.Farewell) (p : Party) : p.Composes m := by
  rcases h with ⟨x, rfl⟩ | ⟨c, rfl⟩
  · exact .inr (.inr (.inl ⟨x, none, rfl⟩))
  · exact .inr (.inr (.inr ⟨c, rfl⟩))

theorem Advance.composes_said {a : Advance} {k : Terms} :
    ∀ m ∈ a.said k, k.party.Composes m := by
  intro m hm
  cases a with
  | greets =>
    rw [List.mem_singleton.mp hm]
    exact .inl ⟨_, _, rfl⟩
  | grants o =>
    rw [List.mem_singleton.mp hm]
    exact .inr (.inl rfl)
  | counters o =>
    rw [List.mem_singleton.mp hm]
    exact .inr (.inr (.inl ⟨_, _, rfl⟩))
  | assented => cases hm
  | adopts o =>
    rw [List.mem_singleton.mp hm]
    exact .inl ⟨_, _, rfl⟩

namespace Session

variable {s : Session} {n : TimerToken} {e : SessionEvent} {m : Message}

/-- All that a session sends for itself it has composed. -/
theorem composes_of_mem_own (h : s.Phase) (hm : m ∈ Beat.own ⟨s, e, s.handle n e⟩) :
    s.party.Composes m := by
  have hlocal : ∀ m', e ≠ .fromLocal m' := by
    rintro m' rfl
    cases hm
  have hearly : m ∈ Action.sent (Action.untilUp (s.handle n e).actions) := by
    cases e with
    | fromLocal m' => cases hm
    | _ => exact hm
  cases ha : s.advance? e with
  | some a =>
    have hadvances := advances_handle h ((makes_of_advance? ha).still h) ha n
    rw [hadvances.sent_untilUp] at hearly
    exact Advance.composes_said m hearly
  | none =>
    cases stays_handle h ha n with
    | rests hrest _ =>
      rw [Action.untilUp_eq_self hrest.established] at hearly
      rcases (hrest.sent m hearly).2.2 with rfl | hfrom
      · exact .inr (.inl rfl)
      · exact absurd hfrom (hlocal m)
    | ends hend _ =>
      rw [Action.untilUp_eq_self hend.established] at hearly
      exact (hend.farewell m hearly).composes _

theorem composes_start (p : Party) (initiator : Bool) :
    ∀ m ∈ Action.sent ((p.session initiator).start n).actions, p.Composes m := by
  intro m hm
  cases initiator with
  | true => cases hm
  | false =>
    rw [List.mem_singleton.mp hm]
    exact .inl ⟨_, _, rfl⟩

/-! ### What a session hands over -/

theorem of_mem_taken (hm : m ∈ s.taken e) :
    s.state = .sessionUp ∧ e = .network m ∧ s.role.takes m = true := by
  cases e with
  | network m' =>
    simp only [taken] at hm
    split at hm
    · rename_i htakes
      obtain rfl := List.mem_singleton.mp hm
      exact ⟨htakes.1, rfl, htakes.2⟩
    · cases hm
  | _ => cases hm

/-- What is delivered is what a session that is up has just heard. -/
theorem of_mem_delivered (h : s.Phase) (hm : m ∈ Action.delivered (s.handle n e).actions) :
    s.state = .sessionUp ∧ e = .network m ∧ s.role.takes m = true := by
  cases hc : s.closed with
  | true =>
    rw [(handle_of_closed hc n e).2.2] at hm
    cases hm
  | false =>
    cases outcome_handle h hc n e with
    | goesOn hgoes =>
      rw [hgoes.delivered] at hm
      exact of_mem_taken hm
    | comesUp _ hcomes =>
      obtain ⟨before, hactions, hquiet⟩ := hcomes.actions
      rw [hactions, Action.delivered_append, Action.delivered_of_quiet hquiet] at hm
      replace hm : m ∈ Action.delivered ((s.outbound.filter s.role.forwards).map .send) := hm
      rw [Action.delivered_map_send] at hm
      cases hm
    | ends _ hend =>
      obtain ⟨before, hactions, -, hquiet⟩ := hend.actions
      rw [hactions, Action.delivered_append, Action.delivered_of_quiet hquiet] at hm
      cases hm

section Up

variable (h : s.Phase) (hs : s.state = .sessionUp)
include h hs

/-- A local message that the role does not send is dropped. -/
theorem handle_unsubmitted (hm : s.role.forwards m = false) :
    (s.handle n (.fromLocal m)).session = s ∧ (s.handle n (.fromLocal m)).actions = [] := by
  rw [handle_eq_take (h.still_of_up hs), Turn.take, Turn.fromLocal, Turn.session_start, if_pos hs]
  simp [hm]

/-- A received message that is an OPEN or that the role does not take is dropped, but shows that the
peer is there. -/
theorem handle_unreceived {c : Content} (hm : m.content = .ok c)
    (hkind : c.kind = .opening ∨ (c.kind = .request ∨ c.kind = .response) ∧
      ¬ s.role.Receives c.kind) :
    (s.handle n (.network m)).session = { s with timers := s.restarted n } ∧
      (s.handle n (.network m)).actions = s.restart n := by
  have hsession := Turn.session_restartDeadTimer_start s n
  have hactions := Turn.actions_restartDeadTimer_start s n
  rw [handle_sessionUp h hs, Turn.inSessionUp, hm]
  cases c with
  | opening o => exact ⟨hsession, hactions⟩
  | data kind =>
    have hdropped : s.role.delivers kind = false := by
      rw [Bool.eq_false_iff, ne_eq, Role.delivers_iff]
      rcases hkind with hkind | ⟨-, hkind⟩
      · rw [show kind = .opening from hkind]
        simp [Role.Receives]
      · exact hkind
    simp [hsession, hactions, hdropped]
  | keepalive | error x proposal | close o => simp [Content.kind] at hkind

end Up

end Session

/-- What a turn of a session of a party hands over, sends and drops. -/
structure Beat.Routed (p : Party) (submitted : List Message) (b : Beat) : Prop where
  delivered : ∀ m ∈ Action.delivered b.turn.actions, b.session.state = .sessionUp ∧
    b.event = .network m ∧ ∃ c, m.content = .ok c ∧ m.kind = .ok c.kind ∧ p.role.Receives c.kind
  sent : Action.sent b.turn.actions = b.own ++ b.relayed
  own : ∀ m ∈ b.own, p.Composes m
  relayed : ∀ m ∈ b.relayed, m ∈ submitted ∧ ∃ kind, m.kind? = some kind ∧ p.role.Submits kind
  /-- a local message that the role does not send changes nothing -/
  unsubmitted : b.session.state = .sessionUp → ∀ m, b.event = .fromLocal m →
    (∀ kind, m.kind? = some kind → ¬ p.role.Submits kind) →
      b.turn.session = b.session ∧ b.turn.actions = [] ∧ b.turn.session.closed = false
  /-- a received message that can be read restarts the dead timer, if it is an OPEN or the role does
  not take it -/
  unreceived : b.session.state = .sessionUp → ∀ m c, b.event = .network m → m.content = .ok c →
    (c.kind = .opening ∨ (c.kind = .request ∨ c.kind = .response) ∧ ¬ p.role.Receives c.kind) →
      ∃ n, b.turn.session = { b.session with timers := b.session.restarted n } ∧
        b.turn.actions = b.session.restart n ∧ b.turn.session.closed = false

theorem Session.routed_handle {s : Session} (h : s.Phase) (n : TimerToken) (e : SessionEvent)
    (submitted : List Message) (hrelayed : ∀ m ∈ Beat.relayed ⟨s, e, s.handle n e⟩,
      m ∈ submitted ∧ s.role.forwards m = true) :
    Beat.Routed s.party submitted ⟨s, e, s.handle n e⟩ where
  delivered m hm := by
    obtain ⟨hs, he, htakes⟩ := of_mem_delivered h hm
    obtain ⟨c, hc, hreceives⟩ := Role.takes_iff.mp htakes
    exact ⟨hs, he, c, hc, Message.kind_of_content hc, hreceives⟩
  sent := Beat.sent_eq _
  own m hm := composes_of_mem_own h hm
  relayed m hm := ⟨(hrelayed m hm).1, Role.forwards_iff.mp (hrelayed m hm).2⟩
  unsubmitted hs m he hm := by
    have hnot : s.role.forwards m = false := by
      refine Bool.eq_false_iff.mpr fun hforwards => ?_
      obtain ⟨kind, hkind, hsubmits⟩ := Role.forwards_iff.mp hforwards
      exact hm kind hkind hsubmits
    obtain rfl : e = .fromLocal m := he
    obtain ⟨hsession, hactions⟩ := handle_unsubmitted h hs hnot
    exact ⟨hsession, hactions, (congrArg closed hsession).trans (h.still_of_up hs)⟩
  unreceived hs m c he hm hkind := by
    obtain rfl : e = .network m := he
    obtain ⟨hsession, hactions⟩ := handle_unreceived h hs hm hkind
    exact ⟨n, hsession, hactions, (congrArg closed hsession).trans (h.still_of_up hs)⟩

namespace Party

open Session

variable (p : Party) (initiator : Bool) (n : TimerToken) (cues : List (TimerToken × SessionEvent))

/-- **Routing by role.**  In every turn of a session, whatever it has been through, what it hands to
its collaborator and what it passes on for it is of the types that its role is for, and the rest is
its own.  Once it is up, whatever else it is given and whatever else it can read is dropped. -/
theorem routed_by_role :
    Action.delivered (p.run initiator n cues).opening.actions = [] ∧
      (∀ m ∈ Action.sent (p.run initiator n cues).opening.actions, p.Composes m) ∧
      ∀ b ∈ (p.run initiator n cues).beats, b.Routed p (p.run initiator n cues).submitted := by
  have hopening := p.opening_run initiator n cues
  refine ⟨?_, ?_, fun b hb => ?_⟩
  · rw [hopening]
    exact Action.delivered_of_quiet (calm_start (s := p.session initiator) rfl n).quiet
  · rw [hopening]
    exact composes_start p initiator
  · obtain ⟨cues', n', e, rfl⟩ := p.beat_of_run initiator n hb
    have hrouted := routed_handle (p.phase_run initiator n cues') n' e
      (p.run initiator n cues).submitted fun m hm => ?_
    · rwa [p.party_run initiator n cues'] at hrouted
    · rw [p.role_run initiator n cues']
      exact (p.kept_run initiator n cues).relayed m (List.mem_flatMap.mpr ⟨_, hb, hm⟩)

/-- A server that is up hears a REQUEST, is given a RESPONSE for it, and hears a RESPONSE. -/
theorem routed_by_role_server :
    let p : Party :=
      { peer := .v4 ⟨10, 0, 0, 1⟩ 4189, role := .server, sessionId := 7, settings := {} }
    let r := p.run false 1 [(2, .network (OpenObject.propose 30 120 1).message),
      (3, .network keepaliveMessage), (5, .network (.make .request [1])),
      (6, .fromLocal (.make .response [2])), (6, .network (.make .response [3]))]
    (∀ b ∈ r.beats, b.Routed p r.submitted) ∧
      r.beats.flatMap (fun b => Action.delivered b.turn.actions) = [.make .request [1]] ∧
      r.relayed = [.make .response [2]] ∧
      r.actions.getLast? = some (.armTimer .deadTimer 6 (.ofSeconds 120)) :=
  ⟨(routed_by_role _ false 1 _).2.2, by decide +kernel, by decide +kernel, by decide +kernel⟩

/-- What can not be read is not dropped: an OPEN without its object and a RESPONSE of version 2
close a server that is up. -/
theorem routed_by_role_malformed :
    let p : Party :=
      { peer := .v4 ⟨10, 0, 0, 1⟩ 4189, role := .server, sessionId := 7, settings := {} }
    let r := p.run false 1 [(2, .network (OpenObject.propose 30 120 1).message),
      (3, .network keepaliveMessage)]
    let opening := Message.make .opening []
    let response : Message := { Message.make .response [] with version := 2 }
    let parting : List Action := [.send (.closeNotice 3), .cancelTimer .keepAlive 3,
      .cancelTimer .deadTimer 4, .close .framingError]
    r.session.state = .sessionUp ∧ opening.kind? = some .opening ∧
      response.kind? = some .response ∧ ¬ p.role.Receives .response ∧
      (r.session.handle 5 (.network opening)).actions = parting ∧
      (r.session.handle 5 (.network response)).actions = parting := by
  intro p r opening response parting
  exact ⟨by decide +kernel, rfl, rfl, by simp [p, Role.Receives], by decide +kernel,
    by decide +kernel⟩

end Party

end PathSession
