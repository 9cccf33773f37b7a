import PathSession.Proofs.Pair.Exchange
import PathSession.Proofs.Pair.Relay

/-!
# After the negotiation

A side that is up has heard all that belongs to the negotiation, and what it hears from then on
comes after it.  A side that never comes up says a last thing at most, and what that is depends on
how far it has got.

* `Told.stays_up`, `Told.comes_up`, `Told.stays_granting`: a transcript is as good as determined by
  the account it is true to;
* `Heeds`: what a side made of messages that came after the negotiation, and how it closed;
* `Exchange.heeds`: so it is for every side of an exchange.
-/

namespace PathSession

/-! ### Points of a negotiation -/

namespace Progress

variable {σ τ : Progress}

theorem eq_of_isUp (hσ : σ.isUp = true) (hτ : τ.isUp = true) (h : σ.said = τ.said) : σ = τ := by
  revert σ τ
  decide

/-- A side that has accepted the other's offer is told by what it said. -/
theorem eq_of_grants (hσ : σ.isUp = false) (hτ : τ.isUp = false) (hg : τ.grants = true)
    (h : σ.said = τ.said) : σ = τ := by
  revert σ τ
  decide

/-- Coming up takes something to be heard. -/
theorem not_heard_of_comesUp (hσ : σ.isUp = false) (hτ : τ.isUp = true) (h : σ.said <+: τ.said) :
    ¬ τ.heard <+: σ.heard := by
  revert σ τ
  decide

theorem keepWait_of_grants (hσ : σ.isUp = false) (hg : σ.grants = true) : σ.state = .keepWait := by
  revert σ
  decide

/-- One side is up and the other is not: the other has accepted its offer, and has its assent to
hear. -/
theorem of_up_alone (h : σ.Meets τ) (h' : τ.Meets σ) (hσ : σ.isUp = true) (hτ : τ.isUp = false) :
    τ.grants = true ∧ σ.said = τ.heard ++ [.assent] := by
  revert σ τ
  decide

end Progress

/-! ### Transcripts of one account -/

/-- A list falls in one way into elements that satisfy a predicate and elements that do not. -/
theorem append_inj_of_pred {α : Type} {p : α → Bool} {l₁ l₂ l₁' l₂' : List α}
    (h : l₁ ++ l₂ = l₁' ++ l₂') (h₁ : ∀ a ∈ l₁, p a = true) (h₁' : ∀ a ∈ l₁', p a = true)
    (h₂ : ∀ a ∈ l₂, p a = false) (h₂' : ∀ a ∈ l₂', p a = false) : l₁ = l₁' ∧ l₂ = l₂' := by
  have htake : ∀ {l l' : List α}, (∀ a ∈ l, p a = true) → (∀ a ∈ l', p a = false) →
      (l ++ l').takeWhile p = l := by
    intro l l' hl hl'
    rw [List.takeWhile_append_of_pos hl]
    cases l' with
    | nil => exact List.append_nil l
    | cons a l' => rw [List.takeWhile_cons, hl' a List.mem_cons_self]; exact List.append_nil l
  have heq : l₁ = l₁' := by rw [← htake h₁ h₂, h, htake h₁' h₂']
  subst heq
  exact ⟨rfl, List.append_cancel_left h⟩

namespace Told

variable {allowed : SessionEvent → Prop} {party : Party} {v v' : Speaker} {r r' : Transcript}

/-- What belongs to the negotiation plays a part in it. -/
theorem said_mark_ne (h : Told allowed party v r) {m : Message} (hm : m ∈ r.said) :
    m.mark ≠ .other := by
  intro hmark
  refine Progress.other_notMem_said r.stage ?_
  rw [← h.talk.said_marks, ← hmark]
  exact List.mem_map_of_mem hm

section Same

variable {more : List Action} {l : List Message}
variable (h : Told allowed party v r) (h' : Told allowed party v' r')
variable (hmessages : v'.account.messages = v.account.messages ++ l)
include h h' hmessages

/-- With as much heard in the negotiation, whatever is heard comes after it. -/
theorem rest_of_length (hlen : r'.heard.length = r.heard.length) : r'.rest = r.rest ++ l := by
  have hall := h'.messages_eq
  rw [hmessages, h.messages_eq, List.append_assoc] at hall
  exact (List.append_inj_right hall hlen.symm).symm

variable (hactions : v'.account.actions = v.account.actions ++ more)
include hactions

/-- Once a side is up, its negotiation is over. -/
theorem stays_up (hup : r.stage.isUp = true) :
    r'.stage.isUp = true ∧ r'.rest = r.rest ++ l := by
  have hestablished := h.spoken.established.mpr hup
  have hup' : r'.stage.isUp = true := by
    rw [← h'.spoken.established, hactions]
    exact List.mem_append_left _ hestablished
  have hsaid : r'.said = r.said := by
    rw [← h'.spoken.early hup', hactions, Action.untilUp_of_mem hestablished, h.spoken.early hup]
  have hstage : r'.stage = r.stage :=
    Progress.eq_of_isUp hup' hup (by rw [← h'.talk.said_marks, hsaid, h.talk.said_marks])
  refine ⟨hup', h.rest_of_length h' hmessages ?_⟩
  rw [h'.talk.length_heard, hstage, h.talk.length_heard]

/-- A side comes up with the message that it hears last. -/
theorem comes_up (hc : v.session.closed = false) (hup : r.stage.isUp = false)
    (hup' : r'.stage.isUp = true) (hl : l.length ≤ 1) : r'.rest = [] := by
  obtain ⟨hlater, hrest⟩ := h.quiet hc hup
  have hnot : .established ∉ v.account.actions := by simp [h.spoken.established, hup]
  have hsaid : r.said <+: r'.said := by
    have hsent := h.spoken.sent_eq
    rw [hlater, List.append_nil] at hsent
    rw [← h'.spoken.early hup', hactions, Action.untilUp_of_notMem hnot, Action.sent_append, hsent]
    exact List.prefix_append _ _
  have hstages : r.stage.said <+: r'.stage.said := by
    rw [← h.talk.said_marks, ← h'.talk.said_marks]
    exact hsaid.map _
  have hall := h'.messages_eq
  rw [hmessages, h.messages_eq, hrest, List.append_nil] at hall
  by_contra hne
  -- otherwise it would have come up with what it had heard before
  have hprefix : r'.heard <+: r.heard := by
    refine List.prefix_of_prefix_length_le (hall ▸ List.prefix_append _ _)
      (List.prefix_append _ l) ?_
    have hlen := congrArg List.length hall
    have := List.length_pos_iff.mpr hne
    simp only [List.length_append] at hlen
    omega
  refine Progress.not_heard_of_comesUp hup hup' hstages ?_
  rw [← h.talk.heard_marks, ← h'.talk.heard_marks]
  exact hprefix.map _

/-- A side that has accepted the other's offer and does not come up stays where it is, if it says
nothing more for the negotiation. -/
theorem stays_granting (hup : r.stage.isUp = false) (hup' : r'.stage.isUp = false)
    (hg : r'.stage.grants = true) (hmore : ∀ m ∈ Action.sent more, m.mark = .other) :
    r.stage = r'.stage ∧ r'.later = r.later ++ Action.sent more ∧ r'.rest = r.rest ++ l := by
  have hsent := h'.spoken.sent_eq
  rw [hactions, Action.sent_append, h.spoken.sent_eq, List.append_assoc] at hsent
  obtain ⟨hsaid, hlater⟩ := append_inj_of_pred (p := fun m => m.mark ≠ .other) hsent
    (fun m hm => by simp [h.said_mark_ne hm]) (fun m hm => by simp [h'.said_mark_ne hm])
    (fun m hm => by
      rcases List.mem_append.mp hm with hm | hm
      · simp [(h.farewell hup m hm).mark_eq]
      · simp [hmore m hm])
    (fun m hm => by simp [(h'.farewell hup' m hm).mark_eq])
  have hstage : r.stage = r'.stage :=
    Progress.eq_of_grants hup hup' hg (by rw [← h.talk.said_marks, hsaid, h'.talk.said_marks])
  refine ⟨hstage, hlater.symm, h.rest_of_length h' hmessages ?_⟩
  rw [h'.talk.length_heard, ← hstage, h.talk.length_heard]

end Same

end Told

/-! ### After the negotiation -/

/-- What a side says when nobody has answered its offer in time. -/
def keepWaitNotice : Message := (ErrorObject.establishment .keepWaitExpired).message none

/-- What a session says at its end is a farewell. -/
theorem Session.Parts.farewell {s : Session} {e : SessionEvent} {reason : CloseReason}
    {said : List Message} (h : s.Parts e reason said) : ∀ m ∈ said, m.Farewell := by
  have hcomplaint : ∀ m ∈ Action.sent (Turn.complaint s.state), m.Farewell := by
    intro m hm
    cases hs : s.state <;> rw [hs] at hm
    · cases hm
    · cases hm
    · exact .inl ⟨_, List.mem_singleton.mp hm⟩
    · exact .inl ⟨_, List.mem_singleton.mp hm⟩
    · exact .inr ⟨_, List.mem_singleton.mp hm⟩
  cases h with
  | connectRetriesExhausted | transportFailure | outOfOrder | peerClosed => exact nofun
  | unframeable | malformed => exact hcomplaint
  | negotiationFailed | openWaitExpired | keepWaitExpired =>
    exact fun m hm => .inl ⟨_, List.mem_singleton.mp hm⟩
  | deadTimerExpired => exact fun m hm => .inr ⟨_, List.mem_singleton.mp hm⟩
  | localClose =>
    intro m hm
    split at hm
    · exact .inr ⟨_, List.mem_singleton.mp hm⟩
    · cases hm

/-- A session that waits for an answer and gets none ends with nothing or a CLOSE, or with the
notice that nobody answered. -/
theorem Session.Parts.of_keepWait {s : Session} {e : SessionEvent} {reason : CloseReason}
    {said : List Message} (h : s.Parts e reason said) (hs : s.state = .keepWait)
    (he : e.Ambient) : (∀ m ∈ said, m.kind? = some .close) ∨
      said = [keepWaitNotice] ∧ reason = .keepWaitExpired := by
  cases h with
  | connectRetriesExhausted hs' => rw [hs] at hs'; cases hs'
  | transportFailure => exact .inl (List.forall_mem_nil _)
  | keepWaitExpired => exact .inr ⟨rfl, rfl⟩
  | openWaitExpired hs' => rw [hs] at hs'; cases hs'
  | deadTimerExpired hs' => rw [hs] at hs'; cases hs'
  | localClose =>
    refine .inl fun m hm => ?_
    split at hm
    · rw [List.mem_singleton.mp hm]
      rfl
    · cases hm
  | unframeable | malformed | outOfOrder | negotiationFailed | peerClosed => cases he

/-- An answer that assents does not end a session that waits for it. -/
theorem Speaker.still_of_assent {v : Speaker} {m : Message} (hphase : v.session.Phase)
    (hc : v.session.closed = false) (hs : v.session.state = .keepWait) (hm : m.mark = .assent) :
    (v.respond (.event (.network m))).session.closed = false := by
  have hcases := Turn.inKeepWait_cases (t := Turn.start v.session v.rig.nextToken) rfl hphase hs m
  rw [← Speaker.respond_keepWait m hc hs] at hcases
  rcases hcases with ⟨-, hadvances⟩ | ⟨_, _, -, -, hadvances⟩ | ⟨-, hcontent, -⟩
  · exact hadvances.still
  · exact hadvances.still
  · exact absurd (Message.mark_eq_assent.mp hm) hcontent

/-- What a side made of the messages that came after its negotiation, and how it closed if it has
accepted the other's offer but never come up: with nothing or a CLOSE, with the notice that nobody
answered, or on a message that was no answer. -/
structure Heeds (v : Speaker) (r : Transcript) : Prop where
  unattended : r.stage.isUp = false → v.account.attended = []
  attended : v.account.attended <+: r.rest
  all : v.session.closed = false → v.account.attended = r.rest
  parting : r.stage.isUp = false → r.stage.grants = true → v.session.closed = true →
    (∀ m ∈ r.later, m.kind? = some .close) ∨
      r.later = [keepWaitNotice] ∧ .close .keepWaitExpired ∈ v.account.actions ∨
      ∃ m, r.rest.head? = some m ∧ m.mark ≠ .assent

namespace Heeds

variable {allowed : SessionEvent → Prop} {party : Party} {v : Speaker} {r r' : Transcript}

/-- A side that has not come up and is not closed has heard nothing but the negotiation. -/
theorem of_open (h : Told allowed party v r) (hc : v.session.closed = false)
    (hup : r.stage.isUp = false) (hattended : v.account.attended = []) : Heeds v r := by
  have hrest := (h.quiet hc hup).2
  refine ⟨fun _ => hattended, ?_, fun _ => hattended.trans hrest.symm, fun _ _ hc' => ?_⟩
  · rw [hattended]
    exact List.nil_prefix
  · rw [hc] at hc'
    cases hc'

section Take

variable (h : Told allowed party v r) (hv : Heeds v r) (hu : r.stage ≠ .unstarted)
variable {e : SessionEvent} (h' : Told allowed party (v.take e) r')
include h hv hu h'

theorem take_attended :
    (r'.stage.isUp = false → (v.take e).account.attended = []) ∧
      (v.take e).account.attended <+: r'.rest ∧
      ((v.take e).session.closed = false → (v.take e).account.attended = r'.rest) := by
  have hphase := h.phase hu
  have hattended : (v.take e).account.attended = v.account.attended ++ v.attends e :=
    Speaker.attended_after
  have hmessages : (v.take e).account.messages =
      v.account.messages ++ (v.hearings e).map Hearing.message := Speaker.messages_after ..
  have hclosed : v.session.closed = true → (v.take e).session.closed = true := fun hc =>
    (Speaker.rests_of_closed hc e).still.trans hc
  cases hup : r.stage.isUp with
  | true =>
    obtain ⟨hup', hrest⟩ := h.stays_up h' hmessages Speaker.actions_after hup
    rw [hattended, hrest]
    refine ⟨by simp [hup'], ?_⟩
    by_cases hc : v.session.closed = true
    · -- a closed session attends to nothing
      rw [Speaker.attends_of_not_up (hphase.not_up_of_closed hc), List.append_nil]
      refine ⟨hv.attended.trans (List.prefix_append _ _), fun hc' => ?_⟩
      rw [hclosed hc] at hc'
      cases hc'
    · replace hc : v.session.closed = false := by simpa using hc
      have hs := (h.state_eq hc).trans (Progress.isUp_iff.mp hup)
      rw [hv.all hc, List.prefix_append_right_inj]
      cases hc' : (v.take e).session.closed with
      | true =>
        rw [Speaker.attends_of_closed hc']
        exact ⟨List.nil_prefix, nofun⟩
      | false =>
        have hall : v.attends e = (v.hearings e).map Hearing.message := by
          cases e with
          | network m => exact Speaker.attends_network hs hc'
          | _ => rfl
        rw [hall]
        exact ⟨List.prefix_refl _, fun _ => rfl⟩
  | false =>
    have hs : v.session.state ≠ .sessionUp := by
      intro hs
      rw [(h.isUp_of_state hs).1] at hup
      cases hup
    rw [hattended, Speaker.attends_of_not_up hs, hv.unattended hup]
    refine ⟨fun _ => rfl, List.nil_prefix, fun hc' => ?_⟩
    have hc : v.session.closed = false := by
      by_contra hc
      rw [hclosed (by simpa using hc)] at hc'
      cases hc'
    cases hup' : r'.stage.isUp with
    | true =>
      refine (h.comes_up h' hmessages Speaker.actions_after hc hup hup' ?_).symm
      cases e <;> simp [Speaker.hearings]
    | false => exact (h'.quiet hc' hup').2.symm

/-- A session that closes although it has accepted the other's offer. -/
theorem take_parting (he : e.Ambient ∨ ∃ m, e = .network m) (hup' : r'.stage.isUp = false)
    (hg : r'.stage.grants = true) (hc' : (v.take e).session.closed = true) :
    (∀ m ∈ r'.later, m.kind? = some .close) ∨
      r'.later = [keepWaitNotice] ∧ .close .keepWaitExpired ∈ (v.take e).account.actions ∨
      ∃ m, r'.rest.head? = some m ∧ m.mark ≠ .assent := by
  have hphase := h.phase hu
  have hmessages : (v.take e).account.messages =
      v.account.messages ++ (v.hearings e).map Hearing.message := Speaker.messages_after ..
  have hup : r.stage.isUp = false := by
    by_contra hup
    rw [(h.stays_up h' hmessages Speaker.actions_after (by simpa using hup)).1] at hup'
    cases hup'
  by_cases hc : v.session.closed = true
  · have hnone : (v.respond (.event e)).actions = [] := (Session.handle_of_closed hc _ e).2.2
    obtain ⟨hstage, hlater, hrest⟩ := h.stays_granting h' hmessages Speaker.actions_after hup hup'
      hg (by rw [hnone]; exact List.forall_mem_nil _)
    have hactions : (v.take e).account.actions = v.account.actions := by
      rw [Speaker.take, Speaker.actions_after, hnone, List.append_nil]
    rw [hlater, hrest, hactions, hnone, Action.sent_nil, List.append_nil]
    rcases hv.parting hup (hstage ▸ hg) hc with hclose | hnotice | ⟨m, hm, hmark⟩
    · exact .inl hclose
    · exact .inr (.inl hnotice)
    · exact .inr (.inr ⟨m, by rw [List.head?_append, hm]; rfl, hmark⟩)
  · replace hc : v.session.closed = false := by simpa using hc
    have hout := Session.outcome_handle hphase hc v.rig.nextToken e
    change Session.Outcome _ _ e (v.respond (.event e)) at hout
    cases hout with
    | goesOn ht => exact absurd (hc'.symm.trans ht.still) (by decide)
    | comesUp _ ht => exact absurd (hc'.symm.trans ht.still) (by decide)
    | @ends _ _ reason said hp ht =>
      obtain ⟨before, hactions, hsaid, -⟩ := ht.actions
      have hsent : Action.sent (v.respond (.event e)).actions = said := by
        rw [hactions, Action.sent_append, hsaid]
        exact List.append_nil _
      obtain ⟨hstage, hlater, hrest⟩ := h.stays_granting h' hmessages Speaker.actions_after hup hup'
        hg (by rw [hsent]; exact fun m hm => (hp.farewell m hm).mark_eq)
      obtain ⟨hnothing, hunheard⟩ := h.quiet hc hup
      rw [hsent, hnothing, List.nil_append] at hlater
      rw [hunheard, List.nil_append] at hrest
      have hs : v.session.state = .keepWait :=
        (h.state_eq hc).trans (Progress.keepWait_of_grants hup (hstage ▸ hg))
      have hreason : .close reason ∈ (v.take e).account.actions := by
        rw [Speaker.take, Speaker.actions_after, hactions]
        simp
      rw [hlater, hrest]
      rcases he with he | ⟨m, rfl⟩
      · rcases hp.of_keepWait hs he with hclose | ⟨hnotice, rfl⟩
        · exact .inl hclose
        · exact .inr (.inl ⟨hnotice, hreason⟩)
      · refine .inr (.inr ⟨m, rfl, fun hmark => ?_⟩)
        have hstill := Speaker.still_of_assent hphase hc hs hmark
        exact absurd (ht.closed.symm.trans hstill) (by decide)

theorem take (he : e.Ambient ∨ ∃ m, e = .network m) : Heeds (v.take e) r' := by
  obtain ⟨hunattended, hattended, hall⟩ := take_attended h hv hu h'
  exact ⟨hunattended, hattended, hall, take_parting h hv hu h' he⟩

end Take

/-- A session that starts. -/
theorem start (h : Told allowed party v r) (hv : Heeds v r) (hf : v.session.Fresh)
    (h' : Told allowed party (v.play .start) r') : Heeds (v.play .start) r' := by
  have hup : r.stage.isUp = false := by
    rw [h.fresh_iff.mp hf]
    rfl
  have hc' : (v.play .start).session.closed = false := Session.closed_start _ hf.2
  have hattended : (v.play .start).account.attended = [] := by
    rw [Speaker.play, Speaker.attended_after, hv.unattended hup]
    rfl
  refine of_open h' hc' ?_ hattended
  by_contra hup'
  have hs := (h'.state_eq hc').trans (Progress.isUp_iff.mp (by simpa using hup'))
  exact Session.state_start_ne _ _ hs

end Heeds

/-- In an exchange every side heeds what it hears. -/
theorem Exchange.heeds {allowed : SessionEvent → Prop} {parties : Side → Party}
    {w : Side → Speaker} (hallowed : ∀ e, allowed e → e.Ambient)
    (h : Exchange allowed parties w) :
    ∀ x r, Told allowed (parties x) (w x) r → Heeds (w x) r := by
  induction h with
  | init =>
    intro x r hr
    have hup : r.stage.isUp = false := by
      by_contra hup
      have := hr.spoken.established.mpr (by simpa using hup)
      cases this
    exact Heeds.of_open hr rfl hup rfl
  | @start w h x hf ih =>
    intro y s hs
    by_cases hy : y = x
    · subst hy
      rw [Function.update_self] at hs ⊢
      obtain ⟨r, hr⟩ := h.agree hallowed
      exact Heeds.start (hr.told y) (ih y _ (hr.told y)) hf hs
    · rw [Function.update_of_ne hy] at hs ⊢
      exact ih y s hs
  | @event w h x e hf he ih =>
    intro y s hs
    by_cases hy : y = x
    · subst hy
      have hnetwork : ∀ m, e ≠ .network m := by
        rintro m rfl
        exact hallowed _ he
      rw [Function.update_self, Speaker.play_eq_take hnetwork] at hs ⊢
      obtain ⟨r, hr⟩ := h.agree hallowed
      exact Heeds.take (hr.told y) (ih y _ (hr.told y))
        (fun hu => hf ((hr.told y).fresh_iff.mpr hu)) hs (.inl (hallowed e he))
    · rw [Function.update_of_ne hy] at hs ⊢
      exact ih y s hs
  | @hear w h x m hc hm ih =>
    intro y s hs
    by_cases hy : y = x
    · subst hy
      rw [Function.update_self] at hs ⊢
      obtain ⟨r, hr⟩ := h.agree hallowed
      obtain ⟨hu, -⟩ := Progress.connected_flags ((hr.told y).connected.symm.trans hc)
      exact Heeds.take (e := .network m) (hr.told y) (ih y _ (hr.told y)) hu hs (.inr ⟨m, rfl⟩)
    · rw [Function.update_of_ne hy] at hs ⊢
      exact ih y s hs

end PathSession
