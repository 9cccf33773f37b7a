import PathSession.Proofs.Session.Likeness
import PathSession.Proofs.Session.Routing

/-!
# What a session does not read

A session looks into the bodies of OPEN, ERROR and CLOSE messages of its own version, and into
nothing else: other bodies, and the flags of any header, it only hands on.  Two runs that differ in
those alone go through the same states with the same timers and ask for the same, step by step, and
what they hand on differs as what they were given does.

* `Message.isSealed`, `Message.Resembles`, `SessionEvent.Resembles`: what may differ;
* `Likeness.unread`: what may differ between the two sessions then;
* `Action.Matches`, `Beat.Matches`: actions and beats that differ in nothing else;
* `Session.Run.Matches`, `Party.matches_run`: the two runs, step by step;
* `Party.sealed_bodies_unread`: what is the same in both, and how the rest differs.
-/

namespace PathSession

/-! ### Messages and events -/

namespace Message

/-- Whether a session does not look into the body of a message: its version is another one, its type
is unknown, or it is of a type whose body is left to collaborators. -/
def isSealed (m : Message) : Bool :=
  m.version ≠ protocolVersion || match m.kind? with
    | some .opening | some .error | some .close => false
    | _ => true

/-- A message with the same version and type, and with the same body unless that is sealed. -/
structure Resembles (m m' : Message) : Prop where
  version : m'.version = m.version
  code : m'.code = m.code
  body : m.isSealed = false → m'.body = m.body

namespace Resembles

variable {m m' : Message}

theorem refl (m : Message) : m.Resembles m := ⟨rfl, rfl, fun _ => rfl⟩

variable (h : m.Resembles m')
include h

theorem kind? : m'.kind? = m.kind? := congrArg MessageKind.ofCode? h.code

theorem kind : m'.kind = m.kind := by
  rw [Message.kind, h.kind?, h.code]
  rfl

theorem isSealed : m'.isSealed = m.isSealed := by
  rw [Message.isSealed, h.version, h.kind?]
  rfl

/-- A session reads the same in both. -/
theorem content : m'.content = m.content := by
  rw [Message.content, Message.content, h.version, h.kind]
  by_cases hv : m.version = protocolVersion
  · rw [if_neg (not_not.mpr hv), if_neg (not_not.mpr hv), Message.kind]
    cases hk : m.kind? with
    | none => rfl
    | some kind =>
      have hbody := h.body
      simp only [Message.isSealed, hv, hk] at hbody
      show Content.ofBody kind m'.body = Content.ofBody kind m.body
      cases kind <;> first | rfl | exact congrArg (Content.ofBody _) (hbody rfl)
  · rw [if_pos hv, if_pos hv]

theorem forwards (role : Role) : role.forwards m' = role.forwards m := by
  simp only [Role.forwards, h.kind]

end Resembles

end Message

/-- An event that hands over a message which resembles that of the other, or is the same. -/
inductive SessionEvent.Resembles : SessionEvent → SessionEvent → Prop
  | network {m m' : Message} (h : m.Resembles m') : Resembles (.network m) (.network m')
  | fromLocal {m m' : Message} (h : m.Resembles m') : Resembles (.fromLocal m) (.fromLocal m')
  | same (e : SessionEvent) : Resembles e e

/-! ### Sessions -/

/-- What may differ between two sessions if nothing but sealed bodies and flags does. -/
def Likeness.unread (id : UInt8) : Likeness :=
  { token := Eq, message := Message.Resembles, id, id' := id, refl := .refl
    kind := fun h => h.kind
    content := fun h => h.content }

theorem TimerSlots.ext_get {s s' : TimerSlots} (h : ∀ k, s'.get k = s.get k) : s' = s := by
  cases s
  cases s'
  rw [TimerSlots.mk.injEq]
  exact ⟨h .connect, h .openWait, h .keepWait, h .keepAlive, h .deadTimer⟩

namespace Likeness

variable {id : UInt8} {s s' : Session} {m m' : Message} {as as' : List Action}

/-- Nothing but the queue differs. -/
theorem Sessions.eq_of_unread (h : (unread id).Sessions s s') :
    s' = { s with outbound := s'.outbound } := by
  cases h with
  | mk timers outbound hid htimers houtbound =>
    have hslots : timers = s.timers := TimerSlots.ext_get fun k => by
      have hk := htimers k
      revert hk
      generalize s.timers.get k = a, timers.get k = b
      rintro (⟨⟨⟩⟩ | ⟨⟩) <;> rfl
    rw [hslots, show (unread id).id' = s.sessionId from hid.symm]

theorem Sessions.party_of_unread (h : (unread id).Sessions s s') : s'.party = s.party := by
  rw [h.eq_of_unread]
  rfl

theorem sessions_refl (s : Session) (hqueue : s.outbound = []) :
    (unread s.sessionId).Sessions s s := by
  refine .mk s.timers s.outbound rfl (fun k => ?_) ?_
  · cases s.timers.get k with
    | none => exact .none
    | some token => exact .some rfl
  · rw [hqueue]
    exact .nil

theorem Sends.resembles (h : (unread id).Sends m m') : m.Resembles m' := by
  cases h with
  | message h => exact h
  | opening keepalive deadTimer => exact .refl _
  | counter e keepalive deadTimer => exact .refl _

theorem sent_resembles (h : List.Forall₂ (unread id).Actions as as') :
    List.Forall₂ Message.Resembles (Action.sent as) (Action.sent as') := by
  induction h with
  | nil => exact .nil
  | cons ha _ ih =>
    cases ha with
    | send hm => exact .cons hm.resembles ih
    | _ => exact ih

theorem untilUp_alike (h : List.Forall₂ (unread id).Actions as as') :
    List.Forall₂ (unread id).Actions (Action.untilUp as) (Action.untilUp as') := by
  induction h with
  | nil => exact .nil
  | cons ha _ ih =>
    cases ha with
    | established => exact .nil
    | _ => exact .cons (by constructor <;> assumption) ih

end Likeness

/-- Events that resemble each other are alike for sessions that have the same timers. -/
theorem SessionEvent.Resembles.events {id : UInt8} {s s' : Session} {e e' : SessionEvent}
    (he : e.Resembles e') (h : (Likeness.unread id).Sessions s s') :
    (Likeness.unread id).Events s s' e e' := by
  cases he with
  | network hm => exact .network hm
  | fromLocal hm => exact .fromLocal hm
  | same =>
    cases e with
    | timerExpired kind token =>
      refine .timerExpired kind ?_
      rw [h.eq_of_unread]
    | network m => exact .network (.refl m)
    | fromLocal m => exact .fromLocal (.refl m)
    | _ => constructor

/-- Sessions that are alike take them in the same way. -/
theorem SessionEvent.Resembles.turns {id : UInt8} {s s' : Session} {e e' : SessionEvent}
    (he : e.Resembles e') (h : (Likeness.unread id).Sessions s s') (n : TimerToken) :
    (Likeness.unread id).Turns (s.handle n e) (s'.handle n e') :=
  Likeness.handle h (fun _ => rfl) (he.events h)

/-! ### What a session says for itself -/

/-- A message that a session composes is a KEEPALIVE, or has a body that is read. -/
theorem Party.Composes.shape {p : Party} {m : Message} (h : p.Composes m) :
    m.flags = 0 ∧ (m.isSealed = true → m = keepaliveMessage) := by
  rcases h with ⟨keepalive, deadTimer, rfl⟩ | rfl | ⟨x, proposal, rfl⟩ | ⟨c, rfl⟩
  · exact ⟨rfl, nofun⟩
  · exact ⟨rfl, fun _ => rfl⟩
  · exact ⟨rfl, nofun⟩
  · exact ⟨rfl, nofun⟩

/-- Two composed messages that resemble each other are one. -/
theorem Message.Resembles.eq_of_composes {p : Party} {m m' : Message} (h : m.Resembles m')
    (hm : p.Composes m) (hm' : p.Composes m') : m' = m := by
  obtain ⟨hflags, hkeepalive⟩ := hm.shape
  obtain ⟨hflags', hkeepalive'⟩ := hm'.shape
  cases hsealed : m.isSealed with
  | true => rw [hkeepalive hsealed, hkeepalive' (h.isSealed.trans hsealed)]
  | false =>
    have hbody := h.body hsealed
    obtain ⟨version, flags, code, body⟩ := m
    obtain ⟨version', flags', code', body'⟩ := m'
    obtain ⟨rfl, rfl, rfl, rfl⟩ : version' = version ∧ flags' = flags ∧ code' = code ∧
        body' = body := ⟨h.version, hflags'.trans hflags.symm, h.code, hbody⟩
    rfl

theorem eq_of_forall₂ {α : Type} {R : α → α → Prop} {l l' : List α} (h : List.Forall₂ R l l')
    (heq : ∀ a ∈ l, ∀ b ∈ l', R a b → b = a) : l' = l := by
  induction h with
  | nil => rfl
  | cons hab _ ih =>
    rw [heq _ List.mem_cons_self _ List.mem_cons_self hab,
      ih fun a ha b hb => heq a (List.mem_cons_of_mem _ ha) b (List.mem_cons_of_mem _ hb)]

namespace Session

variable {id : UInt8} {s s' : Session} {n : TimerToken} {e e' : SessionEvent}

/-- What two sessions say for themselves is the same. -/
theorem own_eq (h : (Likeness.unread id).Sessions s s') (hphase : s.Phase) (hphase' : s'.Phase)
    (he : e.Resembles e') :
    Beat.own ⟨s', e', s'.handle n e'⟩ = Beat.own ⟨s, e, s.handle n e⟩ := by
  have hturns := he.turns h n
  have hown : List.Forall₂ Message.Resembles (Beat.own ⟨s, e, s.handle n e⟩)
      (Beat.own ⟨s', e', s'.handle n e'⟩) := by
    have hearly := Likeness.sent_resembles (Likeness.untilUp_alike hturns.actions)
    cases he with
    | network hm => exact hearly
    | fromLocal hm => exact .nil
    | same =>
      cases e with
      | fromLocal m => exact .nil
      | _ => exact hearly
  refine eq_of_forall₂ hown fun m hm m' hm' hresembles => ?_
  have hcomposes' := composes_of_mem_own hphase' hm'
  rw [h.party_of_unread] at hcomposes'
  exact hresembles.eq_of_composes (composes_of_mem_own hphase hm) hcomposes'

end Session

/-! ### What a session passes on -/

/-- Two lists of messages are the two sides of a list of pairs. -/
structure Splits (pairs : List (Message × Message)) (ms ms' : List Message) : Prop where
  fst : ms = pairs.map Prod.fst
  snd : ms' = pairs.map Prod.snd

namespace Splits

variable {pairs pairs' : List (Message × Message)} {ms ms' rest rest' : List Message}

theorem nil : Splits [] [] [] := ⟨rfl, rfl⟩

theorem append (h : Splits pairs ms ms') (h' : Splits pairs' rest rest') :
    Splits (pairs ++ pairs') (ms ++ rest) (ms' ++ rest') := by
  refine ⟨?_, ?_⟩
  · rw [List.map_append, h.fst, h'.fst]
  · rw [List.map_append, h.snd, h'.snd]

theorem eq_nil (h : Splits pairs [] ms') : pairs = [] := List.map_eq_nil_iff.mp h.fst.symm

/-- A role sends the same of both sides if the pairs resemble each other. -/
theorem filter (h : Splits pairs ms ms') (hres : ∀ q ∈ pairs, q.1.Resembles q.2) (role : Role) :
    Splits (pairs.filter fun q => role.forwards q.1) (ms.filter role.forwards)
      (ms'.filter role.forwards) := by
  refine ⟨?_, ?_⟩
  · rw [h.fst, List.filter_map]
    rfl
  · rw [h.snd, List.filter_map]
    exact congrArg _ (List.filter_congr fun q hq => (hres q hq).forwards role)

theorem forall₂ (h : Splits pairs ms ms') {R : Message → Message → Prop}
    (hR : ∀ q ∈ pairs, R q.1 q.2) : List.Forall₂ R ms ms' := by
  rw [h.fst, h.snd, List.forall₂_map_left_iff, List.forall₂_map_right_iff, List.forall₂_same]
  exact hR

end Splits

namespace SessionEvent

variable {e e' : SessionEvent}

/-- The pair of local messages that two events hand over, if they do. -/
def handedBoth (e e' : SessionEvent) : List (Message × Message) :=
  e.handed?.toList.zip e'.handed?.toList

theorem Resembles.splits (h : e.Resembles e') :
    Splits (e.handedBoth e') e.handed?.toList e'.handed?.toList := by
  cases h with
  | network hm => exact .nil
  | fromLocal hm => exact ⟨rfl, rfl⟩
  | same => cases e <;> exact ⟨rfl, rfl⟩

theorem Resembles.handed (h : e.Resembles e') : ∀ q ∈ e.handedBoth e', q.1.Resembles q.2 := by
  cases h with
  | network hm => exact nofun
  | fromLocal hm => exact List.forall_mem_singleton.mpr hm
  | same =>
    cases e with
    | fromLocal m => exact List.forall_mem_singleton.mpr (.refl m)
    | _ => exact nofun

end SessionEvent

namespace Session

variable {id : UInt8} {s s' : Session} {n : TimerToken} {e e' : SessionEvent}
variable {waiting : List (Message × Message)}

/-- Two sessions that go on pass on or keep the two messages they are given, or drop both. -/
theorem splits_of_goesOn (h : (Likeness.unread id).Sessions s s') (hphase : s.Phase)
    (he : e.Resembles e') (hwaiting : Splits waiting s.outbound s'.outbound) :
    ∃ passed left, Splits passed (s.passed e) (s'.passed e') ∧
      Splits left (s.outbound ++ s.queued e) (s'.outbound ++ s'.queued e') ∧
      (passed ++ left).Sublist (waiting ++ e.handedBoth e') := by
  by_cases hs : s.state = .sessionUp
  · have hs' := h.state.trans hs
    have houtbound := hphase.outbound_of_up hs
    rw [houtbound] at hwaiting
    obtain rfl := hwaiting.eq_nil
    refine ⟨(e.handedBoth e').filter fun q => s.role.forwards q.1, [], ?_, ?_, ?_⟩
    · rw [passed_of_up hs, passed_of_up hs', h.role]
      exact he.splits.filter he.handed s.role
    · rw [queued_of_up hs, queued_of_up hs', houtbound, hwaiting.snd]
      exact .nil
    · rw [List.append_nil]
      exact List.filter_sublist
  · have hs' : s'.state ≠ .sessionUp := h.state ▸ hs
    refine ⟨[], ?_⟩
    rw [passed_of_not_up hs, passed_of_not_up hs']
    by_cases hrole : s.role = .client
    · rw [queued_of_client hs hrole, queued_of_client hs' (h.role.trans hrole)]
      exact ⟨_, .nil, hwaiting.append he.splits, List.Sublist.refl _⟩
    · rw [queued_of_server hrole, queued_of_server (h.role ▸ hrole), List.append_nil,
        List.append_nil]
      exact ⟨waiting, .nil, hwaiting, List.sublist_append_left ..⟩

/-- What two sessions pass on, and what they keep then, was given to both of them. -/
theorem splits_handle (h : (Likeness.unread id).Sessions s s') (hphase : s.Phase)
    (hphase' : s'.Phase) (he : e.Resembles e') (hwaiting : Splits waiting s.outbound s'.outbound)
    (hres : ∀ q ∈ waiting, q.1.Resembles q.2) :
    ∃ passed left, Splits passed (Beat.relayed ⟨s, e, s.handle n e⟩)
        (Beat.relayed ⟨s', e', s'.handle n e'⟩) ∧
      Splits left (s.handle n e).session.outbound (s'.handle n e').session.outbound ∧
      (passed ++ left).Sublist (waiting ++ e.handedBoth e') := by
  have hturns := he.turns h n
  have hclosed := hturns.session.closed
  have hstate := hturns.session.state
  cases hstill : (s.handle n e).session.closed with
  | true =>
    rw [hstill] at hclosed
    rw [relayed_of_closed hphase hstill, relayed_of_closed hphase' hclosed,
      (phase_handle hphase n e).outbound_of_closed hstill,
      (phase_handle hphase' n e').outbound_of_closed hclosed]
    exact ⟨[], [], .nil, .nil, List.nil_sublist _⟩
  | false =>
    rw [hstill] at hclosed
    obtain ⟨hc, hgoes | ⟨m, rfl, hs, hcomes⟩⟩ := still_cases hphase hstill
    · obtain ⟨hc', hgoes' | ⟨m', -, hs', hcomes'⟩⟩ := still_cases hphase' hclosed
      · rw [relayed_of_goesOn hc hgoes, relayed_of_goesOn hc' hgoes', hgoes.queue, hgoes'.queue]
        exact splits_of_goesOn h hphase he hwaiting
      · -- one of them does not come up alone
        have hup := hgoes.up.mp (hstate.symm.trans hcomes'.up)
        exact absurd (h.state.trans hup) hs'
    · obtain ⟨hc', hgoes' | ⟨m', rfl, hs', hcomes'⟩⟩ := still_cases hphase' hclosed
      · have hup := hgoes'.up.mp (hstate.trans hcomes.up)
        exact absurd (h.state.symm.trans hup) hs
      · rw [relayed_of_comesUp hcomes, relayed_of_comesUp hcomes', hcomes.queue, hcomes'.queue,
          h.role]
        refine ⟨_, [], hwaiting.filter hres s.role, .nil, ?_⟩
        rw [List.append_nil]
        exact List.filter_sublist.trans (List.sublist_append_left ..)

end Session

/-! ### Turns that match -/

/-- Actions in answer to two events that ask for the same.  What is sent is the same or one of the
given pairs, and what is delivered is what was just received. -/
inductive Action.Matches (given : List (Message × Message)) (e e' : SessionEvent) :
    Action → Action → Prop
  | connect : Matches given e e' .connect .connect
  | send {m m' : Message} (h : m' = m ∨ (m, m') ∈ given) :
      Matches given e e' (.send m) (.send m')
  | deliver {m m' : Message} (h : e = .network m) (h' : e' = .network m') :
      Matches given e e' (.deliver m) (.deliver m')
  | arm (k : TimerKind) (token : TimerToken) (after : Millis) :
      Matches given e e' (.armTimer k token after) (.armTimer k token after)
  | cancel (k : TimerKind) (token : TimerToken) :
      Matches given e e' (.cancelTimer k token) (.cancelTimer k token)
  | established : Matches given e e' .established .established
  | close (reason : CloseReason) : Matches given e e' (.close reason) (.close reason)

/-- Beats that differ in what they were told and in the messages that they hand on or keep, and in
nothing else. -/
structure Beat.Matches (given : List (Message × Message)) (b b' : Beat) : Prop where
  event : b.event.Resembles b'.event
  session : b'.turn.session = { b.turn.session with outbound := b'.turn.session.outbound }
  queue : List.Forall₂ (fun m m' => (m, m') ∈ given) b.turn.session.outbound
    b'.turn.session.outbound
  nextToken : b'.turn.nextToken = b.turn.nextToken
  actions : List.Forall₂ (Action.Matches given b.event b'.event) b.turn.actions b'.turn.actions
  own : b'.own = b.own

section Mono

variable {given given' : List (Message × Message)} (hsub : given ⊆ given')
include hsub

theorem Action.Matches.mono {e e' : SessionEvent} {a a' : Action} (h : a.Matches given e e' a') :
    a.Matches given' e e' a' := by
  cases h with
  | send h => exact .send (h.imp_right fun h => hsub h)
  | deliver h h' => exact .deliver h h'
  | _ => constructor

theorem Beat.Matches.mono {b b' : Beat} (h : b.Matches given b') : b.Matches given' b' :=
  { h with
    queue := h.queue.imp fun _ _ hq => hsub hq
    actions := h.actions.imp fun _ _ ha => ha.mono hsub }

end Mono

/-- Actions that are alike match, if what they send and deliver does. -/
theorem Likeness.matches_of_alike {id : UInt8} {given : List (Message × Message)}
    {e e' : SessionEvent} {as as' : List Action}
    (h : List.Forall₂ (unread id).Actions as as')
    (hsent : List.Forall₂ (fun m m' => m' = m ∨ (m, m') ∈ given) (Action.sent as)
      (Action.sent as'))
    (hheard : ∀ m ∈ Action.delivered as, e = .network m)
    (hheard' : ∀ m ∈ Action.delivered as', e' = .network m) :
    List.Forall₂ (Action.Matches given e e') as as' := by
  induction h with
  | nil => exact .nil
  | cons ha _ ih =>
    cases ha with
    | send hm =>
      obtain ⟨hm, hsent⟩ := List.forall₂_cons.mp hsent
      exact .cons (.send hm) (ih hsent hheard hheard')
    | deliver hm =>
      refine .cons (.deliver (hheard _ List.mem_cons_self) (hheard' _ List.mem_cons_self)) ?_
      exact ih hsent (fun m hm => hheard m (List.mem_cons_of_mem _ hm))
        fun m hm => hheard' m (List.mem_cons_of_mem _ hm)
    | arm k htoken after =>
      cases htoken
      exact .cons (.arm ..) (ih hsent hheard hheard')
    | cancel k htoken =>
      cases htoken
      exact .cons (.cancel ..) (ih hsent hheard hheard')
    | connect => exact .cons .connect (ih hsent hheard hheard')
    | established => exact .cons .established (ih hsent hheard hheard')
    | close reason => exact .cons (.close reason) (ih hsent hheard hheard')

namespace Session

variable {id : UInt8} {s s' : Session} {n : TimerToken} {e e' : SessionEvent}

/-- The turns match if what they pass on and what is kept after them was given. -/
theorem matches_handle {passed left given : List (Message × Message)}
    (h : (Likeness.unread id).Sessions s s') (hphase : s.Phase) (hphase' : s'.Phase)
    (he : e.Resembles e')
    (hpassed : Splits passed (Beat.relayed ⟨s, e, s.handle n e⟩)
      (Beat.relayed ⟨s', e', s'.handle n e'⟩))
    (hleft : Splits left (s.handle n e).session.outbound (s'.handle n e').session.outbound)
    (hgiven : passed ++ left ⊆ given) :
    Beat.Matches given ⟨s, e, s.handle n e⟩ ⟨s', e', s'.handle n e'⟩ := by
  have hturns := he.turns h n
  have hown := own_eq h hphase hphase' he (n := n)
  have hsent : List.Forall₂ (fun m m' => m' = m ∨ (m, m') ∈ given)
      (Action.sent (s.handle n e).actions) (Action.sent (s'.handle n e').actions) := by
    have hall := Beat.sent_eq ⟨s, e, s.handle n e⟩
    have hall' := Beat.sent_eq ⟨s', e', s'.handle n e'⟩
    rw [hown] at hall'
    rw [hall, hall']
    refine List.rel_append (List.forall₂_same.mpr fun m _ => .inl rfl) ?_
    exact hpassed.forall₂ fun q hq => .inr (hgiven (List.mem_append_left _ hq))
  refine ⟨he, hturns.session.eq_of_unread, ?_, (hturns.fresh 0).symm, ?_, hown⟩
  · exact hleft.forall₂ fun q hq => hgiven (List.mem_append_right _ hq)
  · exact Likeness.matches_of_alike hturns.actions hsent
      (fun m hm => (of_mem_delivered hphase hm).2.1) fun m hm => (of_mem_delivered hphase' hm).2.1

/-! ### Runs -/

/-- Two runs that were given the same pairs of messages, match in every beat, and have passed on or
keep some of the pairs, in order. -/
structure Run.Matches (id : UInt8) (given : List (Message × Message)) (r r' : Run) : Prop where
  opening : r'.opening = r.opening
  session : (Likeness.unread id).Sessions r.session r'.session
  submitted : Splits given r.submitted r'.submitted
  resembling : ∀ q ∈ given, q.1.Resembles q.2
  beats : List.Forall₂ (Beat.Matches given) r.beats r'.beats
  relayed : ∃ passed waiting, Splits passed r.relayed r'.relayed ∧
    Splits waiting r.session.outbound r'.session.outbound ∧ (passed ++ waiting).Sublist given

theorem Run.Matches.tell {given : List (Message × Message)} {r r' : Run}
    (h : r.Matches id given r') (hphase : r.session.Phase) (hphase' : r'.session.Phase)
    (he : e.Resembles e') (n : TimerToken) :
    (r.tell n e).Matches id (given ++ e.handedBoth e') (r'.tell n e') := by
  obtain ⟨passed, waiting, hpassed, hwaiting, hsub⟩ := h.relayed
  have hres : ∀ q ∈ waiting, q.1.Resembles q.2 := fun q hq =>
    h.resembling q (hsub.subset (List.mem_append_right _ hq))
  obtain ⟨new, left, hnew, hleft, hsub'⟩ :=
    splits_handle h.session hphase hphase' he hwaiting hres (n := n)
  -- the new pairs come behind those that were passed on before
  have hall : (passed ++ new ++ left).Sublist (given ++ e.handedBoth e') := by
    rw [List.append_assoc]
    refine (hsub'.append_left passed).trans ?_
    rw [← List.append_assoc]
    exact hsub.append_right _
  have hturns := he.turns h.session n
  refine ⟨h.opening, ?_, ?_, ?_, ?_, passed ++ new, left, ?_, ?_, hall⟩
  · rw [session_tell, session_tell]
    exact hturns.session
  · rw [submitted_tell, submitted_tell]
    exact h.submitted.append he.splits
  · exact List.forall_mem_append.mpr ⟨h.resembling, he.handed⟩
  · refine List.rel_append (h.beats.imp fun _ _ hb => hb.mono (List.subset_append_left ..)) ?_
    refine .cons (matches_handle h.session hphase hphase' he hnew hleft ?_) .nil
    rw [List.append_assoc] at hall
    exact fun q hq => hall.subset (List.mem_append_right _ hq)
  · rw [relayed_tell, relayed_tell]
    exact hpassed.append hnew
  · rw [session_tell, session_tell]
    exact hleft

end Session

namespace Party

variable (p : Party) (initiator : Bool) (n : TimerToken)
variable {cues cues' : List (TimerToken × SessionEvent)}

theorem matches_start : Session.Run.Matches p.sessionId [] (p.run initiator n [])
    (p.run initiator n []) := by
  have hqueue := (Session.calm_start (s := p.session initiator) rfl n).queue
  have hparty := p.party_run initiator n []
  refine ⟨rfl, ?_, .nil, nofun, .nil, [], [], .nil, ?_, List.Sublist.refl _⟩
  · have hsame := Likeness.sessions_refl (p.run initiator n []).session hqueue
    rwa [show (p.run initiator n []).session.sessionId = p.sessionId from
      congrArg Party.sessionId hparty] at hsame
  · rw [run_nil, Session.Run.session_start, hqueue]
    exact .nil

/-- Runs over events that resemble each other match. -/
theorem matches_run (h : List.Forall₂ (fun c c' => c'.1 = c.1 ∧ c.2.Resembles c'.2) cues cues') :
    ∃ given, (p.run initiator n cues).Matches p.sessionId given (p.run initiator n cues') := by
  -- by induction on the reversed lists, as a run grows at its end
  have hreversed : ∀ {xs xs' : List (TimerToken × SessionEvent)},
      List.Forall₂ (fun c c' => c'.1 = c.1 ∧ c.2.Resembles c'.2) xs xs' →
        ∃ given, (p.run initiator n xs.reverse).Matches p.sessionId given
          (p.run initiator n xs'.reverse) := by
    intro xs xs' hxs
    induction hxs with
    | nil => exact ⟨[], p.matches_start initiator n⟩
    | @cons c c' xs xs' hc _ ih =>
      obtain ⟨given, hgiven⟩ := ih
      refine ⟨given ++ c.2.handedBoth c'.2, ?_⟩
      rw [List.reverse_cons, List.reverse_cons, run_concat, run_concat, hc.1]
      exact hgiven.tell (p.phase_run initiator n _) (p.phase_run initiator n _) hc.2 c.1
  have hcues := hreversed (List.forall₂_reverse_iff.mpr h)
  rwa [List.reverse_reverse, List.reverse_reverse] at hcues

/-- **Sealed bodies have no influence.**  Two runs over events that differ in sealed bodies and in
flags alone match in every beat: the sessions differ in nothing but the messages that wait, and ask
for the same.  What each says for itself is the same, what it hands over is what it has just
received, and what it passes on, in both runs at the same time, is what it was given at the same
time in both. -/
theorem sealed_bodies_unread
    (h : List.Forall₂ (fun c c' => c'.1 = c.1 ∧ c.2.Resembles c'.2) cues cues') :
    let r := p.run initiator n cues
    let r' := p.run initiator n cues'
    r'.opening = r.opening ∧ ∃ given passed, Splits given r.submitted r'.submitted ∧
      passed.Sublist given ∧ Splits passed r.relayed r'.relayed ∧
        List.Forall₂ (Beat.Matches given) r.beats r'.beats := by
  intro r r'
  obtain ⟨given, hmatches⟩ := p.matches_run initiator n h
  obtain ⟨passed, waiting, hpassed, -, hsub⟩ := hmatches.relayed
  exact ⟨hmatches.opening, given, passed, hmatches.submitted,
    (List.sublist_append_left ..).trans hsub, hpassed, hmatches.beats⟩

/-- A client connects twice.  The second time its REQUEST, a RESPONSE that it hears and a KEEPALIVE
have other bodies, and the OPEN that it hears has flags. -/
theorem sealed_bodies_unread_client :
    let p : Party :=
      { peer := .v4 ⟨10, 0, 0, 1⟩ 4189, role := .client, sessionId := 1, settings := {} }
    let opening := (OpenObject.propose 30 120 2).message
    let cues : List (TimerToken × SessionEvent) :=
      [(2, .fromLocal (.make .request [1])), (2, .transportUp), (3, .network opening),
        (4, .network keepaliveMessage), (6, .network (.make .response [3]))]
    let cues' : List (TimerToken × SessionEvent) :=
      [(2, .fromLocal (.make .request [2, 2])), (2, .transportUp),
        (3, .network { opening with flags := 5 }), (4, .network (.make .keepalive [9])),
        (6, .network { Message.make .response [4] with flags := 1 })]
    let r := p.run true 1 cues
    let r' := p.run true 1 cues'
    List.Forall₂ (fun c c' => c'.1 = c.1 ∧ c.2.Resembles c'.2) cues cues' ∧
      r'.session = r.session ∧ r.session.state = .sessionUp ∧
      r.relayed = [.make .request [1]] ∧ r'.relayed = [.make .request [2, 2]] ∧
      ∃ given, Splits given r.submitted r'.submitted ∧
        List.Forall₂ (Beat.Matches given) r.beats r'.beats := by
  intro p opening cues cues' r r'
  have hcues : List.Forall₂ (fun c c' => c'.1 = c.1 ∧ c.2.Resembles c'.2) cues cues' := by
    refine .cons ⟨rfl, .fromLocal ?_⟩ (.cons ⟨rfl, .same _⟩ (.cons ⟨rfl, .network ?_⟩
      (.cons ⟨rfl, .network ?_⟩ (.cons ⟨rfl, .network ?_⟩ .nil))))
    · exact ⟨rfl, rfl, nofun⟩
    · exact ⟨rfl, rfl, fun _ => rfl⟩
    · exact ⟨rfl, rfl, nofun⟩
    · exact ⟨rfl, rfl, nofun⟩
  obtain ⟨-, given, -, hgiven, -, -, hbeats⟩ := sealed_bodies_unread p true 1 hcues
  exact ⟨hcues, by decide +kernel, by decide +kernel, by decide +kernel, by decide +kernel, given,
    hgiven, hbeats⟩

end Party

end PathSession
