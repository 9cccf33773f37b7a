import PathSession.Proofs.Pair.Speaker
import PathSession.Proofs.Session.Outcome

/-!
# What one side passes on

A session that is up passes local messages on to its peer and the peer's messages on to its
collaborator.  What a client is given earlier waits in its queue and goes out as it comes up.  The
account of a side shows that nothing is lost, repeated or put out of order on the way.

* `Account.relayed`: what was sent from coming up on;
* `Account.attended`: what was heard while the session was up;
* `Session.submitted`: the local messages that count;
* `Relay`: the invariant of one side, `Relay.start` and `Relay.take` its steps.
-/

namespace PathSession

/-- What was said later is what was sent since coming up. -/
theorem Spoken.later_eq {actions : List Action} {up : Bool} {said later : List Message}
    (h : Spoken actions up said later) (hup : up = true) :
    later = Action.sent (Action.sinceUp actions) := by
  have hsent := h.sent_eq
  rw [← Action.sent_untilUp_sinceUp, h.early hup] at hsent
  exact (List.append_cancel_left hsent).symm

/-! ### What was passed on -/

/-- Whether a message was heard by a session that was up and stayed so. -/
def Hearing.attended (h : Hearing) : Bool := h.before.state = .sessionUp ∧ h.after.closed = false

namespace Account

/-- The messages heard while the session was up. -/
def attended (a : Account) : List Message := (a.heard.filter Hearing.attended).map Hearing.message

/-- The messages sent from coming up on that come from the collaborator. -/
def relayed (role : Role) (a : Account) : List Message :=
  (Action.sent (Action.sinceUp a.actions)).filter role.forwards

end Account

namespace Session

/-- The local messages of an event that are to get to the peer: those of a client at any time, and
those of a server once it is up. -/
def submitted (s : Session) : SessionEvent → List Message
  | .fromLocal m =>
    if s.role.forwards m ∧ (s.role = .client ∨ s.state = .sessionUp) then [m] else []
  | _ => []

variable {s : Session}

theorem submitted_of_up (hs : s.state = .sessionUp) (e : SessionEvent) :
    s.submitted e = s.passed e := by
  cases e with
  | fromLocal m => simp [submitted, passed, hs]
  | _ => rfl

theorem submitted_of_not_up (hs : s.state ≠ .sessionUp) (e : SessionEvent) :
    s.submitted e = (s.queued e).filter s.role.forwards := by
  cases e with
  | fromLocal m =>
    by_cases hclient : s.role = .client
    · by_cases hf : Role.forwards .client m <;> simp [submitted, queued, hs, hclient, hf]
    · simp [submitted, queued, hs, hclient]
  | _ => rfl

theorem Phase.not_fresh (h : s.Phase) : ¬ s.Fresh := by
  rintro ⟨hs, hc⟩
  exact h.state_ne_idle hc hs

/-- What a session that was up says at its end is nothing that a collaborator sends. -/
theorem Parts.filter_forwards {e : SessionEvent} {reason : CloseReason} {said : List Message}
    (h : s.Parts e reason said) (hs : s.state = .sessionUp) (role : Role) :
    said.filter role.forwards = [] := by
  have hclose : ∀ c : CloseCause, role.forwards c.message = false := by
    intro c
    cases role <;> rfl
  cases h with
  | connectRetriesExhausted hs' => rw [hs] at hs'; cases hs'
  | transportFailure | outOfOrder | peerClosed => rfl
  | unframeable | malformed => simp [hs, Turn.complaint, hclose]
  | negotiationFailed hs' => rw [hs] at hs'; rcases hs' with hs' | hs' <;> cases hs'
  | openWaitExpired hs' => rw [hs] at hs'; cases hs'
  | keepWaitExpired hs' => rw [hs] at hs'; cases hs'
  | deadTimerExpired => simp [hclose]
  | localClose => split <;> simp [hclose]

end Session

/-! ### One side -/

namespace Speaker

/-- What a speaker hears by an event. -/
def hearings (v : Speaker) : SessionEvent → List Hearing
  | .network m =>
    [{ before := v.session, message := m
       after := (v.respond (.event (.network m))).session }]
  | _ => []

/-- One event of any kind. -/
def take (v : Speaker) (e : SessionEvent) : Speaker :=
  v.after (v.respond (.event e)) (v.hearings e)

/-- What a speaker hears by an event while its session is up. -/
def attends (v : Speaker) (e : SessionEvent) : List Message :=
  ((v.hearings e).filter Hearing.attended).map Hearing.message

variable {v : Speaker} {t : Turn} {l : List Hearing} {e : SessionEvent}

theorem play_eq_take (he : ∀ m, e ≠ .network m) : v.play (.event e) = v.take e := by
  cases e with
  | network m => exact absurd rfl (he m)
  | _ => rfl

theorem actions_after :
    (v.after t l).account.actions = v.account.actions ++ t.actions := rfl

theorem attended_after : (v.after t l).account.attended =
    v.account.attended ++ (l.filter Hearing.attended).map Hearing.message := by
  rw [Account.attended, after, List.filter_append, List.map_append, Account.attended]

theorem relayed_after_of_mem {role : Role} (h : .established ∈ v.account.actions) :
    (v.after t l).account.relayed role =
      v.account.relayed role ++ (Action.sent t.actions).filter role.forwards := by
  rw [Account.relayed, actions_after, Action.sinceUp_of_mem h, Action.sent_append,
    List.filter_append, Account.relayed]

/-- Whoever has not come up has passed nothing on. -/
theorem relayed_eq_nil {role : Role} (h : .established ∉ v.account.actions) :
    v.account.relayed role = [] := by
  rw [Account.relayed, Action.sinceUp_eq_nil h]
  rfl

theorem attends_of_not_up (hs : v.session.state ≠ .sessionUp) : v.attends e = [] := by
  cases e with
  | network m => simp [attends, hearings, Hearing.attended, hs]
  | _ => rfl

theorem attends_of_closed (hc : (v.respond (.event e)).session.closed = true) :
    v.attends e = [] := by
  cases e with
  | network m => simp [attends, hearings, Hearing.attended, hc]
  | _ => rfl

theorem attends_network (hs : v.session.state = .sessionUp) {m : Message}
    (hc : (v.respond (.event (.network m))).session.closed = false) :
    v.attends (.network m) = [m] := by
  simp [attends, hearings, Hearing.attended, hs, hc]

/-- What is delivered on an event is what the speaker attends to and its role takes. -/
theorem delivered_respond (h : v.session.Phase) (e : SessionEvent) :
    Action.delivered (v.respond (.event e)).actions =
      (v.attends e).filter v.session.role.takes := by
  by_cases hc : v.session.closed = true
  · rw [attends_of_not_up (h.not_up_of_closed hc)]
    show Action.delivered (v.session.handle _ e).actions = _
    rw [(Session.handle_of_closed hc _ e).2.2]
    rfl
  · have hout := Session.outcome_handle h (by simpa using hc) v.rig.nextToken e
    change Session.Outcome _ _ e (v.respond (.event e)) at hout
    cases hout with
    | goesOn ht =>
      rw [ht.delivered]
      by_cases hs : v.session.state = .sessionUp
      · cases e with
        | network m =>
          rw [attends_network hs ht.still, Session.taken]
          by_cases htakes : v.session.role.takes m = true <;> simp [hs, htakes]
        | _ => rfl
      · rw [attends_of_not_up hs]
        cases e with
        | network m => simp [Session.taken, hs]
        | _ => rfl
    | comesUp hs ht =>
      obtain ⟨before, hactions, hquiet⟩ := ht.actions
      rw [attends_of_not_up hs, hactions, Action.delivered_append,
        Action.delivered_of_quiet hquiet]
      exact Action.delivered_map_send _
    | ends _ ht =>
      obtain ⟨before, hactions, -, hquiet⟩ := ht.actions
      rw [attends_of_closed ht.closed, hactions, Action.delivered_append,
        Action.delivered_of_quiet hquiet]
      rfl

/-- A session that stays up can read what it hears. -/
theorem readable_of_attends {m : Message} (hc : v.session.closed = false) (hm : m ∈ v.attends e) :
    ∃ c, m.content = .ok c := by
  by_cases hs : v.session.state = .sessionUp
  · cases e with
    | network m' =>
      cases hstays : (v.respond (.event (.network m'))).session.closed with
      | true =>
        rw [attends_of_closed hstays] at hm
        cases hm
      | false =>
        rw [attends_network hs hstays] at hm
        obtain rfl := List.mem_singleton.mp hm
        rw [respond_sessionUp m hc hs] at hstays
        cases hcontent : m.content with
        | ok c => exact ⟨c, rfl⟩
        | error e =>
          -- it can not be read, so the session says so and closes
          rw [Turn.inSessionUp, hcontent, Turn.session_formatError] at hstays
          cases hstays
    | _ => cases hm
  · rw [attends_of_not_up hs] at hm
    cases hm

end Speaker

/-- One side that was given some local messages.  Those sent since it came up are the first of
them, and while it is not closed the rest of them wait in its queue.  Its collaborator has got the
messages that it takes of those heard while it was up. -/
structure Relay (party : Party) (given : List Message) (v : Speaker) : Prop where
  role : v.session.role = party.role
  unstarted : v.session.Fresh → ∃ initiator, v.session = party.session initiator
  phase : ¬ v.session.Fresh → v.session.Phase
  up : v.session.closed = false →
    (v.session.state = .sessionUp ↔ .established ∈ v.account.actions)
  relayed : v.account.relayed party.role <+: given
  waiting : v.session.closed = false →
    v.account.relayed party.role ++ v.session.outbound.filter party.role.forwards = given
  delivered : Action.delivered v.account.actions = v.account.attended.filter party.role.takes
  readable : ∀ m ∈ v.account.attended, ∃ c, m.content = .ok c

namespace Relay

variable {party : Party} {given : List Message} {v : Speaker}

theorem init (party : Party) (initiator : Bool) :
    Relay party [] (.init (party.session initiator)) where
  role := rfl
  unstarted _ := ⟨initiator, rfl⟩
  phase h := absurd ⟨rfl, rfl⟩ h
  up _ := ⟨nofun, nofun⟩
  relayed := List.nil_prefix
  waiting _ := rfl
  delivered := rfl
  readable := nofun

section Steps

variable (h : Relay party given v)
include h

theorem start (hf : v.session.Fresh) : Relay party given (v.play .start) := by
  obtain ⟨initiator, hs⟩ := h.unstarted hf
  have hcalm := Session.calm_start hf.2 v.rig.nextToken
  have hphase : (v.session.start v.rig.nextToken).session.Phase := by
    rw [hs]
    exact Session.phase_start ..
  have hnot : .established ∉ v.account.actions := by
    rw [← h.up hf.2, hf.1]
    decide
  have hnot' : .established ∉ v.account.actions ++ (v.session.start v.rig.nextToken).actions := by
    simp [hnot, Action.established_notMem_of_quiet hcalm.quiet]
  have hplay : v.play .start = v.after (v.session.start v.rig.nextToken) [] := rfl
  have hattended : (v.play .start).account.attended = v.account.attended := by
    rw [hplay, Speaker.attended_after]
    exact List.append_nil _
  rw [hplay] at hattended ⊢
  constructor
  · exact hcalm.role.trans h.role
  · exact fun hf' => absurd hf' hphase.not_fresh
  · exact fun _ => hphase
  · exact fun _ => iff_of_false (Session.state_start_ne _ _) hnot'
  · rw [Speaker.relayed_eq_nil hnot']
    exact List.nil_prefix
  · intro _
    rw [Speaker.relayed_eq_nil hnot', Speaker.session_after, hcalm.queue,
      ← Speaker.relayed_eq_nil hnot]
    exact h.waiting hf.2
  · rw [hattended, Speaker.actions_after, Action.delivered_append,
      Action.delivered_of_quiet hcalm.quiet, List.append_nil]
    exact h.delivered
  · rw [hattended]
    exact h.readable

/-- An event, with all that it means for sending. -/
theorem of_take {given' : List Message} {e : SessionEvent} (hphase : v.session.Phase)
    (hrole : (v.take e).session.role = v.session.role)
    (hup : (v.take e).session.closed = false →
      ((v.take e).session.state = .sessionUp ↔ .established ∈ (v.take e).account.actions))
    (hrelayed : (v.take e).account.relayed party.role <+: given')
    (hwaiting : (v.take e).session.closed = false → (v.take e).account.relayed party.role ++
      (v.take e).session.outbound.filter party.role.forwards = given') :
    Relay party given' (v.take e) := by
  have hphase' : (v.take e).session.Phase := Session.phase_handle hphase _ e
  have hattended : (v.take e).account.attended = v.account.attended ++ v.attends e :=
    Speaker.attended_after
  refine ⟨hrole.trans h.role, fun hf => absurd hf hphase'.not_fresh, fun _ => hphase', hup,
    hrelayed, hwaiting, ?_, fun m hm => ?_⟩
  · rw [hattended, List.filter_append, ← h.delivered, ← h.role, ← Speaker.delivered_respond hphase]
    exact Action.delivered_append ..
  · rw [hattended] at hm
    rcases List.mem_append.mp hm with hm | hm
    · exact h.readable m hm
    · by_cases hc : v.session.closed = true
      · rw [Speaker.attends_of_not_up (hphase.not_up_of_closed hc)] at hm
        cases hm
      · exact Speaker.readable_of_attends (by simpa using hc) hm

/-- A closed session does nothing more. -/
theorem take_closed (hphase : v.session.Phase) (hc : v.session.closed = true) (e : SessionEvent) :
    Relay party (given ++ v.session.submitted e) (v.take e) := by
  obtain ⟨hsession, -, hactions⟩ := Session.handle_of_closed hc v.rig.nextToken e
  have hopen : (v.take e).session.closed ≠ false := by
    rw [show (v.take e).session = v.session from hsession, hc]
    decide
  have hactions' : (v.take e).account.actions = v.account.actions := by
    rw [Speaker.take, Speaker.actions_after]
    exact hactions ▸ List.append_nil _
  refine h.of_take hphase (congrArg Session.role hsession) (fun hc' => absurd hc' hopen) ?_
    fun hc' => absurd hc' hopen
  rw [Account.relayed, hactions']
  exact h.relayed.trans (List.prefix_append _ _)

theorem take_goesOn {e : SessionEvent} {b : Ledger} (hphase : v.session.Phase)
    (hc : v.session.closed = false) (ht : (v.respond (.event e)).GoesOn b v.session e) :
    Relay party (given ++ v.session.submitted e) (v.take e) := by
  have hwaiting : (v.take e).account.relayed party.role ++
      (v.take e).session.outbound.filter party.role.forwards =
        given ++ v.session.submitted e := by
    rw [show (v.take e).session.outbound = _ from ht.queue, List.filter_append, ← h.waiting hc]
    by_cases hs : v.session.state = .sessionUp
    · have hqueued : v.session.queued e = [] := by
        cases e with
        | fromLocal m => simp [Session.queued, hs]
        | _ => rfl
      rw [Speaker.take, Speaker.relayed_after_of_mem ((h.up hc).mp hs), ← h.role, ht.sent hs,
        hqueued, hphase.outbound_of_up hs, Session.submitted_of_up hs]
      simp
    · have hnot : .established ∉ v.account.actions := fun he => hs ((h.up hc).mpr he)
      have hnot' : .established ∉ (v.take e).account.actions := by
        simp [Speaker.take, Speaker.actions_after, hnot, ht.established]
      rw [Speaker.relayed_eq_nil hnot', Speaker.relayed_eq_nil hnot,
        Session.submitted_of_not_up hs, h.role, List.append_assoc]
  refine h.of_take hphase ht.role (fun _ => ?_) (hwaiting ▸ List.prefix_append _ _)
    fun _ => hwaiting
  rw [Speaker.take, Speaker.actions_after, List.mem_append, or_iff_left ht.established, ← h.up hc]
  exact ht.up

theorem take_comesUp {m : Message} {b : Ledger} (hphase : v.session.Phase)
    (hc : v.session.closed = false) (hs : v.session.state ≠ .sessionUp)
    (ht : (v.respond (.event (.network m))).ComesUp b v.session) :
    Relay party given (v.take (.network m)) := by
  obtain ⟨before, hactions, hquiet⟩ := ht.actions
  have hnot : .established ∉ v.account.actions := fun he => hs ((h.up hc).mpr he)
  have hactions' : (v.take (.network m)).account.actions = (v.account.actions ++ before) ++
      .established :: (v.session.outbound.filter v.session.role.forwards).map .send := by
    rw [Speaker.take, Speaker.actions_after, hactions, List.append_assoc]
  have hrelayed : (v.take (.network m)).account.relayed party.role = given := by
    have hnot' : .established ∉ v.account.actions ++ before := by
      simp [hnot, Action.established_notMem_of_quiet hquiet]
    rw [← h.waiting hc, Speaker.relayed_eq_nil hnot, Account.relayed, hactions',
      Action.sinceUp_of_notMem hnot', Action.sinceUp_established, h.role]
    show (Action.sent (List.map Action.send _)).filter _ = _
    rw [Action.sent_map_send, List.filter_filter]
    simp
  refine h.of_take hphase ht.role (fun _ => ?_) (hrelayed ▸ List.prefix_refl _) fun _ => ?_
  · refine iff_of_true ht.up ?_
    rw [hactions']
    simp
  · rw [hrelayed, show (v.take (.network m)).session.outbound = [] from ht.queue]
    exact List.append_nil _

theorem take_ends {e : SessionEvent} {b : Ledger} {reason : CloseReason} {said : List Message}
    (hphase : v.session.Phase) (hc : v.session.closed = false)
    (hp : v.session.Parts e reason said)
    (ht : (v.respond (.event e)).Finished b v.session reason said) :
    Relay party (given ++ v.session.submitted e) (v.take e) := by
  obtain ⟨before, hactions, hsaid, hquiet⟩ := ht.actions
  have hopen : (v.take e).session.closed ≠ false := by
    rw [show (v.take e).session.closed = true from ht.closed]
    decide
  have hrelayed : (v.take e).account.relayed party.role = v.account.relayed party.role := by
    by_cases hs : v.session.state = .sessionUp
    · have hsent : Action.sent (v.respond (.event e)).actions = said := by
        rw [hactions, Action.sent_append, hsaid]
        exact List.append_nil _
      rw [Speaker.take, Speaker.relayed_after_of_mem ((h.up hc).mp hs), hsent,
        hp.filter_forwards hs, List.append_nil]
    · have hnot : .established ∉ v.account.actions := fun he => hs ((h.up hc).mpr he)
      have hnot' : .established ∉ (v.take e).account.actions := by
        simp [Speaker.take, Speaker.actions_after, hactions, hnot,
          Action.established_notMem_of_quiet hquiet]
      rw [Speaker.relayed_eq_nil hnot', Speaker.relayed_eq_nil hnot]
  refine h.of_take hphase ht.role (fun hc' => absurd hc' hopen) ?_ fun hc' => absurd hc' hopen
  rw [hrelayed]
  exact h.relayed.trans (List.prefix_append _ _)

/-- One event of any kind. -/
theorem take (hphase : v.session.Phase) (e : SessionEvent) :
    Relay party (given ++ v.session.submitted e) (v.take e) := by
  by_cases hc : v.session.closed = true
  · exact h.take_closed hphase hc e
  · replace hc : v.session.closed = false := by simpa using hc
    have hout := Session.outcome_handle hphase hc v.rig.nextToken e
    change Session.Outcome _ _ e (v.respond (.event e)) at hout
    cases hout with
    | goesOn ht => exact h.take_goesOn hphase hc ht
    | comesUp hs ht =>
      rw [show v.session.submitted (.network _) = [] from rfl, List.append_nil]
      exact h.take_comesUp hphase hc hs ht
    | ends hp ht => exact h.take_ends hphase hc hp ht

end Steps

end Relay

end PathSession
