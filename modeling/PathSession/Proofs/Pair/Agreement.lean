import PathSession.Proofs.Pair.Course

/-!
# Two sides agree

Whatever happens to a pair and in whatever order, the two ends never disagree on what was
negotiated, and nothing that is said after coming up is taken for part of a negotiation.

* `Agree.terms_eq`: accepted values are the other side's own;
* `Agree.accepted`: an acceptance counts only for the latest offer;
* `Agree.late`: what is said late is heard late;
* `Course.agreement`: all three, for every run of a pair.
-/

namespace PathSession

namespace Agree

variable {allowed : SessionEvent → Prop} {parties : Side → Party} {w : Side → Speaker}
variable {r : Side → Transcript} (h : Agree allowed parties w r) (x : Side)
include h

/-- What was heard at a place of the negotiation was said there. -/
theorem said_of_heard {i : Nat} {m : Message} (hm : (r x).heard[i]? = some m) :
    (r x.other).said[i]? = some m := by
  obtain ⟨t, ht⟩ := h.heard_prefix_said x
  rw [← ht]
  exact getElem?_grown hm t

/-- Whoever accepts an offer accepts the other side's latest one. -/
theorem terms_eq (hg : (r x).stage.grants = true) :
    (w x).session.terms.check (w x.other).session.terms.offer = .acceptable ∧
      (w x).session.peerKeepalive = (w x.other).session.keepalive ∧
      (w x).session.peerDeadTimer = (w x.other).session.deadTimer := by
  obtain ⟨m, o, hm, hcontent, hcheck, hkeep, hdead⟩ := (h.told x).talk.granted hg
  have hlatest := (h.told x.other).talk.latest
    (Progress.connected_of_grants (h.meets x) (h.meets' x) hg)
  have hsaid := h.said_of_heard x hm
  rw [Progress.grantedAt_eq (h.meets x) (h.meets' x) hg, hlatest] at hsaid
  obtain rfl := Option.some.inj hsaid
  rw [Terms.content_offer] at hcontent
  obtain rfl := Content.opening.inj (Except.ok.inj hcontent)
  exact ⟨hcheck, hkeep, hdead⟩

/-- Whoever counts its offer as accepted made no other since, and the other side accepted it when
it was heard. -/
theorem accepted (hg : (r x).stage.granted = true) : ∃ (k : Nat) (e : Hearing),
    (w x).account.sent[k]? = some e.message ∧ e.message.kind? = some .opening ∧
      (∀ (j : Nat) (m : Message), k < j → (w x).account.sent[j]? = some m →
        m.kind? ≠ some .opening) ∧
      (w x.other).account.heard[k]? = some e ∧ e.before.remoteOk = false ∧
      e.after.remoteOk = true := by
  have hx := h.told x
  have hy := h.told x.other
  have hmeets := h.meets' x
  have hgrants := Progress.grants_of_granted (h.meets x) hmeets hg
  obtain ⟨e, he, hbefore, hafter⟩ := hy.granted hgrants
  have hat := Progress.grantedAt_eq hmeets (h.meets x) hgrants
  rw [hat] at he
  -- the message that was accepted is the latest offer
  have hlatest := hx.talk.latest (Progress.connected_of_granted hg)
  have hsent : (w x).account.sent[(r x).stage.openAt]?
      = some (w x).session.terms.offer.message := by
    rw [Account.sent, hx.spoken.sent_eq]
    exact getElem?_grown hlatest _
  have hmessage : e.message = (w x).session.terms.offer.message := by
    have horder := h.order x.other
    rw [Side.other_other] at horder
    obtain ⟨t, ht⟩ := horder
    have : (w x.other).account.messages[(r x).stage.openAt]? = some e.message := by
      rw [Account.messages, List.getElem?_map, he]
      rfl
    rw [← ht, getElem?_grown this t] at hsent
    exact Option.some.inj hsent
  refine ⟨(r x).stage.openAt, e, by rw [hmessage]; exact hsent, by rw [hmessage]; rfl, ?_, he,
    hbefore, hafter⟩
  intro j m hj hm
  rw [Account.sent, hx.spoken.sent_eq] at hm
  -- a later message belongs to the negotiation, where no offer follows, or comes after it
  by_cases hlen : j < (r x).said.length
  · rw [List.getElem?_append_left hlen] at hm
    have hmark : (r x).stage.said[j]? = some m.mark := by
      rw [← hx.talk.said_marks, List.getElem?_map, hm]
      rfl
    have hmem : m.mark ∈ (r x).stage.said.drop ((r x).stage.openAt + 1) := by
      refine List.mem_of_getElem? (i := j - ((r x).stage.openAt + 1)) ?_
      rw [List.getElem?_drop, ← hmark]
      congr 1
      omega
    refine Message.kind_ne_opening_of_mark ?_
    cases hc : m.mark with
    | offer => exact absurd (hc ▸ hmem) (Progress.offer_notMem_after _)
    | other => exact absurd (hc ▸ List.mem_of_mem_drop hmem) (Progress.other_notMem_said _)
    | assent => exact .inl rfl
    | counter => exact .inr rfl
  · rw [List.getElem?_append_right (by omega)] at hm
    exact (hx.later_mem m (List.mem_of_getElem? hm)).1

/-- Whatever a side says after coming up, the other side handles once it is up or closed. -/
theorem late {k : Nat} {e : Hearing}
    (hk : (Action.sent (Action.untilUp (w x).account.actions)).length ≤ k)
    (he : (w x.other).account.heard[k]? = some e) :
    e.before.state = .sessionUp ∨ e.before.closed = true := by
  have hx := h.told x
  have hearly := h.early x.other k e he
  rw [Side.other_other] at hearly
  by_cases hup : (r x).stage.isUp = true
  · rw [hx.spoken.early hup] at hk
    rcases hearly with h1 | h1 | h1 | ⟨h1, -⟩
    · exact .inl h1
    · exact .inr h1
    · omega
    · rw [hup] at h1
      cases h1
  · -- a side that never came up has said nothing that late
    have hnot : .established ∉ (w x).account.actions := by
      rw [hx.spoken.established]
      exact hup
    have huntil := Action.untilUp_of_notMem hnot []
    rw [List.append_nil] at huntil
    rw [huntil] at hk
    have hlen := (h.order x.other).length_le
    rw [Side.other_other, Account.messages, List.length_map] at hlen
    have := (List.getElem?_eq_some_iff.mp he).1
    simp only [Account.sent, Action.untilUp, List.takeWhile_nil, List.append_nil] at hlen hk
    omega

end Agree

namespace Course

/-- **Two ends agree.**  Let two sessions run over two wires in any way: events of any kind but
malformed octets come to both, and octets are read in pieces of any size.  Whenever a side has
accepted the other's proposal, it holds exactly the values that the other side works with.  Whenever
a side counts its own proposal as accepted, the other side did accept it, and it was the latest.
What a side sends after it was established, the other side handles while it is up or when it has
closed, and not while it still negotiates. -/
theorem agreement {parties : Side → Party} {c : Course}
    (h : Run SessionEvent.Ambient parties c) (x : Side) :
    let own := (c.pair.get x).rig.session
    let others := (c.pair.get x.other).rig.session
    (own.remoteOk = true →
        own.peerKeepalive = others.keepalive ∧ own.peerDeadTimer = others.deadTimer) ∧
      (own.localOk = true → ∃ (k : Nat) (e : Hearing),
        (c.account x).sent[k]? = some e.message ∧ e.message.kind? = some .opening ∧
          (∀ (j : Nat) (m : Message), k < j → (c.account x).sent[j]? = some m →
            m.kind? ≠ some .opening) ∧
          (c.account x.other).heard[k]? = some e ∧ e.before.remoteOk = false ∧
          e.after.remoteOk = true) ∧
      (c.account x.other).messages <+: (c.account x).sent ∧
      ∀ (k : Nat) (e : Hearing), (Action.sent (Action.untilUp (c.account x).actions)).length ≤ k →
        (c.account x.other).heard[k]? = some e →
          e.before.state = .sessionUp ∨ e.before.closed = true := by
  intro own others
  obtain ⟨r, hr⟩ := (h.carries fun _ he => he).exchange.agree fun _ he => he
  have htold := hr.told x
  -- a closed session has accepted nothing and counts nothing as accepted
  have hopen : own.remoteOk = true ∨ own.localOk = true → own.closed = false := by
    intro hok
    by_contra hc
    obtain ⟨-, -, hlocal, hremote⟩ := htold.of_closed ((Bool.not_eq_false _).mp hc)
    rcases hok with hok | hok
    · exact absurd (hok.symm.trans hremote) (by decide)
    · exact absurd (hok.symm.trans hlocal) (by decide)
  refine ⟨fun hok => ?_, fun hok => ?_, ?_, fun k e hk he => hr.late x hk he⟩
  · have hflags := congrArg Standing.remoteOk (htold.standing (hopen (.inl hok)))
    exact (hr.terms_eq x (hflags.symm.trans hok)).2
  · have hflags := congrArg Standing.localOk (htold.standing (hopen (.inr hok)))
    exact hr.accepted x (hflags.symm.trans hok)
  · have := hr.order x.other
    rwa [Side.other_other] at this

/-- A server that has accepted the revised offer of a client. -/
theorem agreement_countered :
    let c := (init countered).moves counteredMoves
    Run SessionEvent.Ambient countered c ∧ (c.pair.get .b).rig.session.remoteOk = true ∧
      (c.pair.get .b).rig.session.peerKeepalive = (c.pair.get .a).rig.session.keepalive ∧
      (c.pair.get .a).rig.session.keepalive = 20 := by
  intro c
  have hconnects : Run (· = .transportUp) countered c := Run.init.moves (by decide +kernel)
  have hrun : Run SessionEvent.Ambient countered c :=
    hconnects.mono fun e he => by rw [he]; trivial
  have hremote : (c.pair.get .b).rig.session.remoteOk = true := by decide +kernel
  exact ⟨hrun, hremote, ((agreement hrun .b).1 hremote).1, by decide +kernel⟩

end Course

end PathSession
