import PathSession.Proofs.Pair.Agreement
import PathSession.Proofs.Session.Bargain

/-!
# The outcome of a handshake

When nothing disturbs a handshake, its outcome depends on the two configurations alone: neither the
order in which the sides start and read, nor the pieces in which they read, has any part in it.

* `SessionEvent.isHandshake`: the events of an undisturbed handshake;
* `Agree.settles_of_grants`: whoever accepts an offer is entitled to;
* `Ended`: why a session has closed;
* `Exchange.ended`: sessions close for no other reason;
* `Course.handshake`: the outcome.
-/

namespace PathSession

/-- The events of a handshake that goes undisturbed: the connect completes, and keepalives are
due. -/
def SessionEvent.isHandshake : SessionEvent → Bool
  | transportUp | timerExpired .keepAlive _ => true
  | _ => false

theorem SessionEvent.ambient_of_isHandshake {e : SessionEvent} (h : e.isHandshake = true) :
    e.Ambient := by
  cases e with
  | transportUp | timerExpired => trivial
  | _ => cases h

/-- No session ends in a handshake, unless a message makes it. -/
theorem Turn.closed_take {t : Turn} {e : SessionEvent} (he : e.isHandshake = true) :
    (t.take e).session.closed = t.session.closed := by
  cases e with
  | transportUp =>
    simp only [take, transportUp]
    split
    · simp [greet, sendOpen, awaitOpen]
    · rfl
  | timerExpired kind token =>
    cases kind with
    | keepAlive =>
      simp only [take]
      split
      · simp [expire]
      · rfl
    | _ => cases he
  | _ => cases he

/-! ### What was accepted -/

namespace Agree

variable {allowed : SessionEvent → Prop} {parties : Side → Party} {w : Side → Speaker}
variable {r : Side → Transcript} (h : Agree allowed parties w r) (x : Side)
include h

theorem party_terms : (w x).session.terms.party = parties x := (h.told x).party_eq

/-- The first thing said is the proposal that the side is configured with. -/
theorem said_first {m : Message} (hm : (r x).said[0]? = some m) :
    m = (parties x).proposal.message := by
  have hconnected : (r x).stage.connected = true := by
    by_contra hc
    rw [((h.told x).nil_of_unconnected (by simpa using hc)).1] at hm
    cases hm
  have hfirst := (h.told x).talk.first hconnected
  rw [h.party_terms x, hm] at hfirst
  exact Option.some.inj hfirst

theorem first_offer {m : Message} {o : OpenObject} (hm : (r x).heard[0]? = some m)
    (ho : m.content = .ok (.opening o)) : o = (parties x.other).proposal := by
  rw [h.said_first x.other (h.said_of_heard x hm), Party.proposal, OpenObject.content_propose] at ho
  exact (Content.opening.inj (Except.ok.inj ho)).symm

/-- A counter proposal answers the proposal that the other side is configured with. -/
theorem said_counter {m : Message} {e : ErrorObject} {o : OpenObject}
    (hm : (r x).said[1]? = some m) (hcontent : m.content = .ok (.error e (some o))) :
    (parties x).settings.policy.check (parties x.other).proposal = .negotiable ∧
      e = .establishment .negotiable ∧ o = (parties x).counterTo (parties x.other).proposal := by
  have hx := h.told x
  have hcounters : (r x).stage.counters = true := by
    refine Progress.counters_of_said ?_
    rw [← hx.talk.said_marks, List.getElem?_map, hm,
      ← Message.mark_eq_counter.mpr ⟨e, o, hcontent⟩]
    rfl
  obtain ⟨m', o', hm', ho', hcheck, hsaid⟩ := hx.talk.countered hcounters
  obtain rfl := h.first_offer x hm' ho'
  rw [hm] at hsaid
  rw [Option.some.inj hsaid, Party.content_counterMessage, h.party_terms x] at hcontent
  obtain ⟨he, ho⟩ := Content.error.inj (Except.ok.inj hcontent)
  rw [Terms.check, h.party_terms x] at hcheck
  exact ⟨hcheck, he.symm, (Option.some.inj ho).symm⟩

/-- A revised offer is a counter proposal of the other side to the first one. -/
theorem revised_offer (hr : (r x).stage.revises = true) :
    (parties x.other).settings.policy.check (parties x).proposal = .negotiable ∧
      (parties x).settings.policy.check ((parties x.other).counterTo (parties x).proposal)
        = .acceptable ∧
      (w x).session.keepalive = ((parties x.other).counterTo (parties x).proposal).keepalive ∧
      (w x).session.deadTimer = ((parties x.other).counterTo (parties x).proposal).deadTimer := by
  obtain ⟨m, e, o, hm, hcontent, hcheck, hkeep, hdead⟩ := (h.told x).talk.revised hr
  obtain ⟨hcheck', -, ho⟩ := h.said_counter x.other (h.said_of_heard x hm) hcontent
  rw [Side.other_other] at hcheck' ho
  subst ho
  rw [Terms.check, h.party_terms x] at hcheck
  exact ⟨hcheck', hcheck, hkeep, hdead⟩

/-- An offer that is accepted is one that can be agreed on, and stands at the agreed values. -/
theorem settles_of_grants (hg : (r x).stage.grants = true) :
    (parties x.other).Settles (parties x) ∧
      (w x.other).session.keepalive = ((parties x.other).settled (parties x)).keepalive ∧
      (w x.other).session.deadTimer = ((parties x.other).settled (parties x)).deadTimer := by
  obtain ⟨hcheck, -, -⟩ := h.terms_eq x hg
  rw [Terms.check, h.party_terms x] at hcheck
  -- the accepted offer is the revised one, or still the one that was configured
  by_cases hr : (r x.other).stage.revises = true
  · obtain ⟨hneg, hacc, hkeep, hdead⟩ := h.revised_offer x.other hr
    rw [Side.other_other] at hneg hacc hkeep hdead
    refine ⟨.inr ⟨hneg, hacc⟩, ?_⟩
    rw [Party.settled, if_neg (by rw [hneg]; decide)]
    exact ⟨hkeep, hdead⟩
  · obtain ⟨hkeep, hdead⟩ := (h.told x.other).talk.kept (by simpa using hr)
    rw [h.party_terms x.other] at hkeep hdead
    have hoffer : (parties x).settings.policy.check (parties x.other).proposal = .acceptable := by
      rw [← hcheck]
      exact Policy.check_congr hkeep.symm hdead.symm
    refine ⟨.inl hoffer, ?_⟩
    rw [Party.settled, if_pos hoffer]
    exact ⟨hkeep, hdead⟩

/-- If one side is up, both offers can be agreed on. -/
theorem settles_of_isUp (hup : (r x).stage.isUp = true) (y : Side) :
    (parties y).Settles (parties y.other) := by
  obtain ⟨hgrants, hgranted⟩ := Progress.grants_of_isUp hup
  by_cases hy : y = x
  · subst hy
    have hg := Progress.grants_of_granted (h.meets y) (h.meets' y) hgranted
    have := (h.settles_of_grants y.other hg).1
    rwa [Side.other_other] at this
  · obtain rfl := Side.eq_other hy
    have := (h.settles_of_grants x hgrants).1
    rwa [Side.other_other]

/-! ### Why a session closes -/

/-- What is heard next was said at that place. -/
theorem said_next {m : Message} (hnext : (r x).heard ++ [m] <+: (r x.other).said) :
    (r x.other).said[(r x).stage.heard.length]? = some m := by
  obtain ⟨t, ht⟩ := hnext
  rw [← ht]
  exact getElem?_grown (getElem?_last _ _ (h.told x).talk.length_heard.symm) t

/-- A first offer is what the other side is configured with, and a second one is acceptable, since
it is what we countered with ourselves. -/
theorem offer_cases (hordered : (parties x).settings.policy.Ordered) {m : Message} {o : OpenObject}
    (hs : (r x).stage.state = .openWait) (hnext : (r x).heard ++ [m] <+: (r x.other).said)
    (hm : m.content = .ok (.opening o)) :
    (r x).stage.counters = false ∧ o = (parties x.other).proposal ∨
      (parties x).settings.policy.check o = .acceptable := by
  have hy := h.told x.other
  have hsaid := h.said_next x hnext
  rcases Progress.length_heard_openWait hs with ⟨hcounters, hlen⟩ | hlen
  · rw [hlen] at hsaid
    rw [h.said_first x.other hsaid, Party.proposal, OpenObject.content_propose] at hm
    exact .inl ⟨hcounters, (Content.opening.inj (Except.ok.inj hm)).symm⟩
  · right
    rw [hlen] at hsaid
    have hrevises : (r x.other).stage.revises = true := by
      refine Progress.revises_of_said ?_
      rw [← hy.talk.said_marks, List.getElem?_map, hsaid, ← Message.mark_eq_offer.mpr ⟨o, hm⟩]
      rfl
    obtain ⟨-, -, hkeep, hdead⟩ := h.revised_offer x.other hrevises
    rw [Side.other_other] at hkeep hdead
    have hlatest := hy.talk.latest (Progress.connected_of_revises hrevises)
    rw [Progress.openAt, if_pos hrevises, hsaid] at hlatest
    rw [Option.some.inj hlatest, Terms.content_offer] at hm
    obtain rfl := Content.opening.inj (Except.ok.inj hm)
    rw [← Policy.check_counterProposal hordered (parties x.other).proposal (parties x).sessionId]
    exact Policy.check_congr hkeep hdead

/-- A counter proposal is the other side's answer to our configured proposal. -/
theorem counter_cases {m : Message} {e : ErrorObject} {o : OpenObject}
    (hs : (r x).stage.state = .keepWait) (hrevises : (r x).stage.revises = false)
    (hnext : (r x).heard ++ [m] <+: (r x.other).said)
    (hm : m.content = .ok (.error e (some o))) :
    (parties x.other).settings.policy.check (parties x).proposal = .negotiable ∧
      e = .establishment .negotiable ∧ o = (parties x.other).counterTo (parties x).proposal := by
  have hsaid := h.said_next x hnext
  rw [(Progress.revise_flags hs hrevises).2.2.2.1] at hsaid
  have hcounter := h.said_counter x.other hsaid hm
  rwa [Side.other_other] at hcounter

end Agree

/-- Why a session has closed: the two do not agree on some offer, and unless the other side has
closed as well, it is told so. -/
def Ended (parties : Side → Party) (w : Side → Speaker) (x : Side) : Prop :=
  ¬ (∀ y, (parties y).Settles (parties y.other)) ∧
    ((∃ m ∈ (w x).account.sent, m.mark = .other) ∨ (w x.other).session.closed = true)

/-- A turn that ends a session and says something says farewell. -/
theorem Ends.exists_other {s : Session} {t : Turn} (h : Ends s t)
    (hs : Action.sent t.actions ≠ []) : ∃ m ∈ Action.sent t.actions, m.mark = .other := by
  obtain ⟨m, hm⟩ := List.exists_mem_of_ne_nil _ hs
  exact ⟨m, hm, (h.farewell m hm).mark_eq⟩

namespace Agree

variable {parties : Side → Party} {w : Side → Speaker} {r : Side → Transcript}
variable (h : Agree (·.isHandshake = true) parties w r) {x : Side}
variable (hc : (w x).session.closed = false) {m : Message}
include h hc

/-- A side that waits for an offer ends only if it can not agree on the first one. -/
theorem ended_openWait (hordered : (parties x).settings.policy.Ordered)
    (hs : (r x).stage.state = .openWait) (hnext : (r x).heard ++ [m] <+: (r x.other).said)
    (hend : ((w x).hear m).session.closed = true) :
    ¬ (parties x.other).Settles (parties x) ∧
      ∃ m' ∈ Action.sent ((w x).respond (.event (.network m))).actions, m'.mark = .other := by
  have hx := h.told x
  have hflags := hx.standing hc
  have hstate : (w x).session.state = .openWait := (hx.state_eq hc).trans hs
  obtain ⟨hcon, hup, -⟩ := Progress.openWait_flags hs
  obtain ⟨hu, -⟩ := Progress.connected_flags hcon
  have hmark : m.mark = .offer := by
    have hmarks := hnext.map Message.mark
    rw [List.map_append, hx.talk.heard_marks, (h.told x.other).talk.said_marks] at hmarks
    exact (Progress.next_heard (h.meets x) (h.meets' x) hup hmarks).1 hs
  obtain ⟨o, hm⟩ := Message.mark_eq_offer.mp hmark
  have hturn := Speaker.respond_openWait m hc hstate
  replace hend : ((w x).respond (.event (.network m))).session.closed = true := hend
  rcases Turn.inOpenWait_cases (t := Turn.start (w x).session (w x).rig.nextToken) rfl m with
    ⟨o', hm', hconsider⟩ | ⟨-, hne⟩
  · obtain rfl := Content.opening.inj (Except.ok.inj (hm.symm.trans hm'))
    rw [hconsider] at hturn
    rw [hturn] at hend ⊢
    have hcases := Turn.consider_cases (t := Turn.start (w x).session (w x).rig.nextToken) rfl
      (hx.phase hu) hstate o
    rcases hcases with ⟨-, ht⟩ | ⟨-, -, ht⟩ | ⟨ht, hsent, hverdict⟩
    · rw [ht.still] at hend
      cases hend
    · rw [ht.still] at hend
      cases hend
    · refine ⟨?_, ht.exists_other hsent⟩
      rw [Turn.session_start, Terms.check, h.party_terms x] at hverdict
      -- a second offer would have been accepted, so it was the first, and not negotiable
      rcases h.offer_cases x hordered hs hnext hm with ⟨hcounters, rfl⟩ | hacc
      · have h0 : (w x).session.openRetries = 0 := by
          have := congrArg Standing.openRetries hflags
          exact this.trans (by simp [Progress.standing, hcounters])
        rintro (hacc | ⟨hneg, -⟩)
        · rw [hacc] at hverdict
          simp at hverdict
        · rw [hneg] at hverdict
          simp [h0] at hverdict
      · rw [hacc] at hverdict
        simp at hverdict
  · exact absurd hm (hne o)

/-- A side that waits for an answer ends only if it is countered with what it can not accept. -/
theorem ended_keepWait (hs : (r x).stage.state = .keepWait)
    (hnext : (r x).heard ++ [m] <+: (r x.other).said)
    (hend : ((w x).hear m).session.closed = true) :
    ¬ (parties x).Settles (parties x.other) ∧
      ∃ m' ∈ Action.sent ((w x).respond (.event (.network m))).actions, m'.mark = .other := by
  have hx := h.told x
  have hstate : (w x).session.state = .keepWait := (hx.state_eq hc).trans hs
  obtain ⟨hcon, hup⟩ := Progress.keepWait_flags hs
  obtain ⟨hu, -⟩ := Progress.connected_flags hcon
  have hmarks := hnext.map Message.mark
  rw [List.map_append, hx.talk.heard_marks, (h.told x.other).talk.said_marks] at hmarks
  obtain ⟨-, hmark, hrev⟩ := Progress.next_heard (h.meets x) (h.meets' x) hup hmarks
  have hturn := Speaker.respond_keepWait m hc hstate
  replace hend : ((w x).respond (.event (.network m))).session.closed = true := hend
  rw [hturn] at hend ⊢
  have hcases := Turn.inKeepWait_cases (t := Turn.start (w x).session (w x).rig.nextToken) rfl
    (hx.phase hu) hstate m
  rcases hcases with ⟨-, ht⟩ | ⟨e, o, -, -, ht⟩ | ⟨ht, hne, hreason⟩
  · rw [ht.still] at hend
    cases hend
  · rw [ht.still] at hend
    cases hend
  · have hnot : m.mark ≠ .assent := fun hm => hne (Message.mark_eq_assent.mp hm)
    obtain ⟨e, o, hm⟩ := Message.mark_eq_counter.mp ((hmark hs).resolve_left hnot)
    have hrevises : (r x).stage.revises = false := by
      by_contra hr
      exact hnot (hrev (by simpa using hr) hs)
    obtain ⟨hneg, rfl, rfl⟩ := h.counter_cases x hs hrevises hnext hm
    obtain ⟨hsent, hadopt⟩ := hreason _ _ hm
    refine ⟨?_, ht.exists_other hsent⟩
    have hpolicy : (w x).session.settings.policy = (parties x).settings.policy :=
      congrArg (fun p => p.settings.policy) hx.party_eq
    rw [Turn.session_start, hpolicy, Turn.adoptable, Option.filter_eq_none_iff] at hadopt
    rintro (hacc | ⟨-, hacc⟩)
    · rw [hneg] at hacc
      cases hacc
    · refine hadopt _ rfl ?_
      rw [hacc]
      decide

/-- A side that is up hears nothing but keepalives from one that is not closed. -/
theorem open_of_isUp (hup : (r x).stage.isUp = true)
    (hother : (w x.other).session.closed = false)
    (hm : (w x.other).account.sent[(w x).account.messages.length]? = some m) :
    ((w x).hear m).session.closed = false := by
  have hx := h.told x
  have hy := h.told x.other
  have hlen : (r x.other).said.length ≤ (w x).account.messages.length := by
    have := congrArg List.length (Progress.heard_eq_of_isUp (h.meets x) (h.meets' x) hup)
    rw [hx.messages_eq, List.length_append, hx.talk.length_heard, hy.talk.length_said]
    omega
  rw [Account.sent, hy.spoken.sent_eq, List.getElem?_append_right hlen] at hm
  obtain ⟨-, rfl | hlocal | ⟨hcl, -⟩⟩ := hy.later_mem m (List.mem_of_getElem? hm)
  · have hstate := (hx.state_eq hc).trans (Progress.isUp_iff.mp hup)
    have hturn := Speaker.respond_sessionUp keepaliveMessage hc hstate
    show ((w x).respond (.event (.network keepaliveMessage))).session.closed = false
    rw [hturn]
    have hcases := Turn.inSessionUp_cases (t := Turn.start (w x).session (w x).rig.nextToken) rfl
      keepaliveMessage
    rcases hcases with ht | ⟨-, hclose⟩
    · exact ht.still.trans hc
    · exact absurd (hclose _ content_keepaliveMessage) (by decide)
  · cases hlocal
  · rw [hother] at hcl
    cases hcl

end Agree

/-- One side takes a step; if it ends by it, a reason is to be given. -/
theorem Ended.update {parties : Side → Party} {w : Side → Speaker} (x : Side) {v : Speaker}
    (hended : ∀ y, (w y).session.closed = true → Ended parties w y)
    (hsent : (w x).account.sent <+: v.account.sent)
    (hclosed : (w x).session.closed = true → v.session.closed = true)
    (hnew : (w x).session.closed = false → v.session.closed = true →
      ¬ (∀ y, (parties y).Settles (parties y.other)) ∧
        ((∃ m ∈ v.account.sent, m.mark = .other) ∨ (w x.other).session.closed = true)) :
    ∀ y, (Function.update w x v y).session.closed = true →
      Ended parties (Function.update w x v) y := by
  intro y hy
  by_cases hyx : y = x
  · subst hyx
    rw [Function.update_self] at hy
    rw [Ended, Function.update_self, Function.update_of_ne (Side.other_ne y)]
    by_cases hc : (w y).session.closed = true
    · obtain ⟨hnot, hwhy⟩ := hended y hc
      exact ⟨hnot, hwhy.imp_left fun ⟨m, hm, hmark⟩ => ⟨m, hsent.subset hm, hmark⟩⟩
    · exact hnew (by simpa using hc) hy
  · obtain rfl := Side.eq_other hyx
    rw [Function.update_of_ne hyx] at hy
    rw [Ended, Function.update_of_ne hyx, Side.other_other, Function.update_self]
    obtain ⟨hnot, hwhy⟩ := hended x.other hy
    rw [Side.other_other] at hwhy
    exact ⟨hnot, hwhy.imp_right hclosed⟩

/-- In an undisturbed handshake of parties with ordered bounds, sessions close for no other
reason. -/
theorem Exchange.ended {parties : Side → Party} {w : Side → Speaker}
    (hordered : ∀ x, (parties x).settings.policy.Ordered)
    (h : Exchange (·.isHandshake = true) parties w) :
    ∀ x, (w x).session.closed = true → Ended parties w x := by
  induction h with
  | init => exact fun x hc => nomatch hc
  | @start w h x hf ih =>
    refine Ended.update x ih (by simp [Speaker.play]) (fun hc => ?_) fun hc hend => ?_
    · rw [hf.2] at hc
      cases hc
    · have hopen : ((w x).play .start).session.closed = false := Session.closed_start _ hc
      rw [hopen] at hend
      cases hend
  | @event w h x e hf he ih =>
    refine Ended.update x ih (by simp [Speaker.play]) (fun hc => ?_) fun hc hend => ?_
    · exact (Speaker.rests_of_closed hc e).still.trans hc
    · have hopen : ((w x).play (.event e)).session.closed = false := by
        show ((w x).respond (.event e)).session.closed = false
        rw [Speaker.respond_of_open hc, Turn.closed_take he]
        exact hc
      rw [hopen] at hend
      cases hend
  | @hear w h x m hconnected hm ih =>
    refine Ended.update x ih (by simp [Speaker.hear]) (fun hc => ?_) fun hc hend => ?_
    · exact (Speaker.rests_of_closed hc _).still.trans hc
    · obtain ⟨r, hr⟩ := h.agree fun _ => SessionEvent.ambient_of_isHandshake
      by_cases hup : (r x).stage.isUp = true
      · -- an up side knows that both offers can be agreed on, so neither side has closed
        have hother : (w x.other).session.closed = false := by
          by_contra hcl
          exact (ih x.other (by simpa using hcl)).1 (hr.settles_of_isUp x hup)
        rw [hr.open_of_isUp hc hup hother hm] at hend
        cases hend
      · replace hup : (r x).stage.isUp = false := by simpa using hup
        rcases hr.next x hc hup hm with hnext | ⟨-, hcl, -⟩
        · have hsubset : ∀ m' ∈ Action.sent ((w x).respond (.event (.network m))).actions,
              m' ∈ ((w x).hear m).account.sent := by
            intro m' hm'
            rw [Speaker.hear, Speaker.sent_after]
            exact List.mem_append_right _ hm'
          obtain ⟨-, hidle, hpending⟩ :=
            Progress.connected_flags ((hr.told x).connected.symm.trans hconnected)
          cases hs : (r x).stage.state with
          | openWait =>
            obtain ⟨hnot, m', hm', hmark⟩ := hr.ended_openWait hc (hordered x) hs hnext hend
            refine ⟨fun hall => hnot ?_, .inl ⟨m', hsubset m' hm', hmark⟩⟩
            have := hall x.other
            rwa [Side.other_other] at this
          | keepWait =>
            obtain ⟨hnot, m', hm', hmark⟩ := hr.ended_keepWait hc hs hnext hend
            exact ⟨fun hall => hnot (hall x), .inl ⟨m', hsubset m' hm', hmark⟩⟩
          | sessionUp => exact absurd (Progress.isUp_iff.mpr hs) (by simp [hup])
          | idle => exact absurd hs hidle
          | tcpPending => exact absurd hs hpending
        · exact ⟨(ih x.other hcl).1, .inr hcl⟩

/-! ### The outcome -/

namespace Agree

variable {parties : Side → Party} {w : Side → Speaker} {r : Side → Transcript}
variable (h : Agree (·.isHandshake = true) parties w r)
variable (hended : ∀ x, (w x).session.closed = true → Ended parties w x)
variable (hconnected : ∀ x, (w x).session.connected = true)
variable (hheard : ∀ x, (w x).account.messages = (w x.other).account.sent)

section
include h hheard

/-- A side that still negotiates has heard nothing but the negotiation. -/
theorem heard_eq {x : Side} (hc : (w x).session.closed = false) (hup : (r x).stage.isUp = false) :
    (r x).heard = (r x.other).said ++ (r x.other).later := by
  have hx := h.told x
  rw [← (h.told x.other).spoken.sent_eq]
  have := hheard x
  rwa [hx.messages_eq, (hx.quiet hc hup).2, List.append_nil] at this

/-- When all is heard, a session has closed only if the other has. -/
theorem closed_other (hended : ∀ x, (w x).session.closed = true → Ended parties w x) {x : Side}
    (hx : (w x).session.closed = true) : (w x.other).session.closed = true := by
  obtain ⟨hnot, ⟨m, hm, hmark⟩ | hcl⟩ := hended x hx
  · by_contra hc
    replace hc : (w x.other).session.closed = false := by simpa using hc
    have hup : (r x.other).stage.isUp = false := by
      by_contra hup
      exact hnot (h.settles_of_isUp x.other (by simpa using hup))
    -- the farewell was heard, but it is no part of a negotiation
    have hheard' := h.heard_eq hheard hc hup
    rw [Side.other_other, ← (h.told x).spoken.sent_eq] at hheard'
    refine Progress.other_notMem_heard (r x.other).stage ?_
    rw [← (h.told x.other).talk.heard_marks, hheard', ← hmark]
    exact List.mem_map_of_mem hm
  · exact hcl

include hconnected

/-- When all is heard, a side that has not closed is up, unless the other has closed. -/
theorem isUp_of_open {x : Side} (hx : (w x).session.closed = false)
    (hy : (w x.other).session.closed = false) : (r x).stage.isUp = true := by
  by_contra hup
  replace hup : (r x).stage.isUp = false := by simpa using hup
  have hheard' := h.heard_eq hheard hx hup
  by_cases hup' : (r x.other).stage.isUp = true
  · -- an up side has said all it takes
    have := Progress.isUp_of_heard (h.meets x) (h.meets' x) hup' (by
      rw [← (h.told x).talk.length_heard, ← (h.told x.other).talk.length_said, hheard',
        List.length_append]
      omega)
    rw [hup] at this
    cases this
  · -- with all heard on both sides, two that negotiate would wait for each other
    replace hup' : (r x.other).stage.isUp = false := by simpa using hup'
    have hheard'' := h.heard_eq hheard hy hup'
    rw [Side.other_other, ((h.told x).quiet hx hup).1, List.append_nil] at hheard''
    rw [((h.told x.other).quiet hy hup').1, List.append_nil] at hheard'
    refine absurd (Progress.not_stuck (σ := (r x).stage) (τ := (r x.other).stage) ?_ ?_
      ((h.told x).connected.symm.trans (hconnected x)) hup) (by simp [hup'])
    · rw [← (h.told x).talk.heard_marks, hheard', (h.told x.other).talk.said_marks]
    · rw [← (h.told x.other).talk.heard_marks, hheard'', (h.told x).talk.said_marks]

end

end Agree

namespace Course

variable {parties : Side → Party} {c : Course}

/-- **The outcome of a handshake.**  Let two sessions with ordered policy bounds start, connect and
read each other in any order and in pieces of any size, with keepalives falling due at any time and
no other event.  Once both have a transport and nothing is on its way, both are up or both have
closed without ever having been up.  They are up exactly when each one's configured proposal is
acceptable to the other, or negotiable and then countered with what it accepts itself; and they work
with the values that this leads to. -/
theorem handshake (hordered : ∀ x, (parties x).settings.policy.Ordered)
    (h : Run (·.isHandshake = true) parties c)
    (hconnected : ∀ x, (c.pair.get x).rig.session.connected = true)
    (hwire : ∀ x, (c.pair.get x).wire = []) (hpending : ∀ x, (c.pair.get x).pendingSize = 0) :
    ((∀ x, (c.pair.get x).rig.session.state = .sessionUp) ∨
        ∀ x, (c.pair.get x).rig.session.closed = true ∧
          .established ∉ (c.account x).actions) ∧
      ((∀ x, (c.pair.get x).rig.session.state = .sessionUp) ↔
        ∀ x, (parties x).Settles (parties x.other)) ∧
      ((∀ x, (c.pair.get x).rig.session.state = .sessionUp) → ∀ x,
        let agreed := (parties x).settled (parties x.other)
        (c.pair.get x).rig.session.keepalive = agreed.keepalive ∧
          (c.pair.get x).rig.session.deadTimer = agreed.deadTimer ∧
          (c.pair.get x.other).rig.session.peerKeepalive = agreed.keepalive ∧
          (c.pair.get x.other).rig.session.peerDeadTimer = agreed.deadTimer) := by
  have hallowed : ∀ e : SessionEvent, e.isHandshake = true → e.Ambient :=
    fun _ => SessionEvent.ambient_of_isHandshake
  have hcarries := h.carries hallowed
  obtain ⟨r, hr⟩ := hcarries.exchange.agree hallowed
  have hended := hcarries.exchange.ended hordered
  have hheard : ∀ x, (c.speaker x).account.messages = (c.speaker x.other).account.sent :=
    fun x => hcarries.messages_eq hallowed (hwire x.other) (hpending x)
  have hup : ∀ x, (c.pair.get x).rig.session.state = .sessionUp → (r x).stage.isUp = true :=
    fun x hs => ((hr.told x).isUp_of_state hs).1
  -- either nobody has closed, or both have
  have hcases : (∀ x, (c.speaker x).session.closed = false) ∨
      ∀ x, (c.speaker x).session.closed = true := by
    by_cases hc : (c.speaker .a).session.closed = true
    · have := hr.closed_other hheard hended hc
      exact .inr fun x => by cases x <;> assumption
    · by_cases hc' : (c.speaker .b).session.closed = true
      · exact absurd (hr.closed_other hheard hended hc') hc
      · refine .inl fun x => ?_
        cases x with
        | a => simpa using hc
        | b => simpa using hc'
  have hopen : (∀ x, (c.speaker x).session.closed = false) →
      ∀ x, (c.pair.get x).rig.session.state = .sessionUp := by
    intro hc x
    have hisUp := hr.isUp_of_open hconnected hheard (hc x) (hc x.other)
    exact ((hr.told x).state_eq (hc x)).trans (Progress.isUp_iff.mp hisUp)
  refine ⟨?_, ⟨fun hs y => ?_, fun hall => ?_⟩, fun hs x => ?_⟩
  · refine hcases.imp hopen fun hc x => ⟨hc x, fun hestablished => ?_⟩
    have hisUp := (hr.told x).spoken.established.mp hestablished
    exact (hended x (hc x)).1 (hr.settles_of_isUp x hisUp)
  · exact hr.settles_of_isUp .a (hup .a (hs .a)) y
  · rcases hcases with hc | hc
    · exact hopen hc
    · exact absurd hall (hended .a (hc .a)).1
  · obtain ⟨hgrants, -⟩ := Progress.grants_of_isUp (hup x.other (hs x.other))
    obtain ⟨-, hkeep, hdead⟩ := hr.settles_of_grants x.other hgrants
    obtain ⟨-, hkeep', hdead'⟩ := hr.terms_eq x.other hgrants
    rw [Side.other_other] at hkeep hdead hkeep' hdead'
    exact ⟨hkeep, hdead, hkeep'.trans hkeep, hdead'.trans hdead⟩

/-- A run in which the offer of the initiator is countered and revised. -/
theorem handshake_countered :
    let c := (init countered).moves counteredMoves
    Run (·.isHandshake = true) countered c ∧
      (∀ x, (countered x).settings.policy.Ordered) ∧
      (∀ x, (c.pair.get x).rig.session.connected = true) ∧
      (∀ x, (c.pair.get x).wire = []) ∧ (∀ x, (c.pair.get x).pendingSize = 0) ∧
      (∀ x, (c.pair.get x).rig.session.state = .sessionUp) ∧
      (c.pair.get .a).rig.session.keepalive = 20 ∧
      (c.pair.get .b).rig.session.peerKeepalive = 20 := by
  intro c
  have hrun : Run (·.isHandshake = true) countered c :=
    Run.init.moves (by decide +kernel)
  have hordered : ∀ x, (countered x).settings.policy.Ordered := fun x => by cases x <;> decide
  have hconnected : ∀ x, (c.pair.get x).rig.session.connected = true :=
    fun x => by cases x <;> decide +kernel
  have hwire : ∀ x, (c.pair.get x).wire = [] := fun x => by cases x <;> decide +kernel
  have hpending : ∀ x, (c.pair.get x).pendingSize = 0 := fun x => by cases x <;> decide +kernel
  obtain ⟨-, hiff, hvalues⟩ := handshake hordered hrun hconnected hwire hpending
  have hup := hiff.mpr fun x => by cases x <;> decide
  obtain ⟨hkeep, -, hpeer, -⟩ := hvalues hup .a
  exact ⟨hrun, hordered, hconnected, hwire, hpending, hup, hkeep, hpeer⟩

end Course

end PathSession
