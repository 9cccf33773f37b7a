import Mathlib.Logic.Function.Basic
import PathSession.Proofs.Pair.Speaker
import PathSession.Session.Pair

/-!
# Two speakers, message by message

Two sides in an exchange start, are told of events, and hear each other's messages one by one and in
order.  Their transcripts fit together: what the one heard in the negotiation the other said in it.

* `Exchange`: the reachable pairs of speakers;
* `Agree`: the invariant of an exchange;
* `Agree.meets`: the points of two sides meet;
* `Agree.next`: what a side hears next while it negotiates;
* `Exchange.agree`: every exchange has the invariant.
-/

namespace PathSession

namespace Side

/-- Side `a` opens the connection. -/
def initiates : Side → Bool
  | a => true
  | b => false

@[simp] theorem other_other (x : Side) : x.other.other = x := by
  cases x <;> rfl

@[simp] theorem other_ne (x : Side) : x.other ≠ x := by
  cases x <;> decide

@[simp] theorem ne_other (x : Side) : x ≠ x.other := Ne.symm (other_ne x)

theorem eq_other {x y : Side} (h : y ≠ x) : y = x.other := by
  revert h
  cases x <;> cases y <;> decide

end Side

/-- Two speakers that start, are told of allowed events, and hear each other, in any order. -/
inductive Exchange (allowed : SessionEvent → Prop) (parties : Side → Party) :
    (Side → Speaker) → Prop
  | init : Exchange allowed parties fun x => .init ((parties x).session x.initiates)
  | start {w : Side → Speaker} (h : Exchange allowed parties w) (x : Side)
      (hf : (w x).session.Fresh) :
      Exchange allowed parties (Function.update w x ((w x).play .start))
  | event {w : Side → Speaker} (h : Exchange allowed parties w) (x : Side) {e : SessionEvent}
      (hf : ¬ (w x).session.Fresh) (he : allowed e) :
      Exchange allowed parties (Function.update w x ((w x).play (.event e)))
  /-- the next message that the other side has sent -/
  | hear {w : Side → Speaker} (h : Exchange allowed parties w) (x : Side) {m : Message}
      (hc : (w x).session.connected = true)
      (hm : (w x.other).account.sent[(w x).account.messages.length]? = some m) :
      Exchange allowed parties (Function.update w x ((w x).hear m))

/-- The invariant of an exchange: the transcripts are true, messages are heard in the order in which
they were sent, and whoever hears a message before it is up hears the negotiation, or the end of a
side that never came up. -/
structure Agree (allowed : SessionEvent → Prop) (parties : Side → Party) (w : Side → Speaker)
    (r : Side → Transcript) : Prop where
  told : ∀ x, Told allowed (parties x) (w x) (r x)
  order : ∀ x, (w x).account.messages <+: (w x.other).account.sent
  early : ∀ x k h, (w x).account.heard[k]? = some h →
    h.before.state = .sessionUp ∨ h.before.closed = true ∨ k < (r x.other).said.length ∨
      (r x.other).stage.isUp = false ∧ (w x.other).session.closed = true

/-- The next element after a prefix extends it. -/
theorem prefix_concat {α : Type} {l l' : List α} {a : α} (h : l <+: l')
    (ha : l'[l.length]? = some a) : l ++ [a] <+: l' := by
  obtain ⟨t, rfl⟩ := h
  rw [List.getElem?_append_right (Nat.le_refl _), Nat.sub_self] at ha
  cases t with
  | nil => cases ha
  | cons b t =>
    cases ha
    exact ⟨t, by simp⟩

namespace Agree

variable {allowed : SessionEvent → Prop} {parties : Side → Party} {w : Side → Speaker}
variable {r : Side → Transcript}

section Facts

variable (h : Agree allowed parties w r) (x : Side)
include h

/-- What was heard of the negotiation is a prefix of everything the other side said. -/
theorem heard_prefix_sent : (r x).heard <+: (r x.other).said ++ (r x.other).later := by
  have hsent := (h.told x.other).spoken.sent_eq
  have horder := h.order x
  rw [(h.told x).messages_eq, Account.sent, hsent] at horder
  exact (List.prefix_append _ _).trans horder

theorem meets : (r x).stage.Meets (r x.other).stage := by
  have hx := h.told x
  have hy := h.told x.other
  have hprefix := h.heard_prefix_sent x
  rcases List.prefix_or_prefix_of_prefix hprefix (List.prefix_append _ _) with hle | ⟨l, hl⟩
  · left
    rw [← hx.talk.heard_marks, ← hy.talk.said_marks]
    exact hle.map _
  · by_cases hup : (r x.other).stage.isUp = true
    · right
      rw [← hx.talk.heard_marks, ← hy.talk.said_marks]
      exact ⟨hup, ⟨l.map Message.mark, by rw [← hl, List.map_append]⟩⟩
    · -- a side that is not up only goes on to say farewell, which is no part of a negotiation
      left
      have hup : (r x.other).stage.isUp = false := by simpa using hup
      rw [← hl, List.prefix_append_right_inj] at hprefix
      cases l with
      | nil =>
        rw [← hx.talk.heard_marks, ← hy.talk.said_marks, ← hl, List.append_nil]
      | cons m l =>
        have hm : m ∈ (r x.other).later := hprefix.subset (List.mem_cons_self ..)
        refine absurd ?_ (Progress.other_notMem_heard (r x).stage)
        rw [← hx.talk.heard_marks, ← hl, ← (hy.farewell hup m hm).mark_eq]
        exact List.mem_map_of_mem (by simp)

theorem meets' : (r x.other).stage.Meets (r x).stage := by
  have := h.meets x.other
  rwa [Side.other_other] at this

/-- Nothing that was said after coming up was heard as part of the negotiation. -/
theorem heard_prefix_said : (r x).heard <+: (r x.other).said := by
  refine List.prefix_of_prefix_length_le (h.heard_prefix_sent x) (List.prefix_append _ _) ?_
  rw [(h.told x).talk.length_heard, (h.told x.other).talk.length_said]
  exact (Progress.heard_prefix (h.meets x) (h.meets' x)).length_le

/-- The next message for a side that negotiates belongs to the negotiation, unless the other side
has given up. -/
theorem next {m : Message} (hc : (w x).session.closed = false) (hup : (r x).stage.isUp = false)
    (hm : (w x.other).account.sent[(w x).account.messages.length]? = some m) :
    (r x).heard ++ [m] <+: (r x.other).said ∨
      (r x.other).stage.isUp = false ∧ (w x.other).session.closed = true ∧ m.Farewell := by
  have hx := h.told x
  have hy := h.told x.other
  have hmessages : (w x).account.messages = (r x).heard := by
    rw [hx.messages_eq, (hx.quiet hc hup).2, List.append_nil]
  rw [hmessages, Account.sent, hy.spoken.sent_eq] at hm
  by_cases hlen : (r x).heard.length < (r x.other).said.length
  · left
    rw [List.getElem?_append_left hlen] at hm
    exact prefix_concat (h.heard_prefix_said x) hm
  · right
    rw [List.getElem?_append_right (by omega)] at hm
    have hmem : m ∈ (r x.other).later := List.mem_of_getElem? hm
    -- an up side has nothing left to say in the negotiation, so we would be up as well
    have hup' : (r x.other).stage.isUp = false := by
      by_contra hup'
      have := Progress.isUp_of_heard (h.meets x) (h.meets' x) (by simpa using hup') (by
        rw [← hx.talk.length_heard, ← hy.talk.length_said]
        omega)
      rw [hup] at this
      cases this
    refine ⟨hup', ?_, hy.farewell hup' m hmem⟩
    by_contra hc'
    rw [(hy.quiet (by simpa using hc') hup').1] at hmem
    cases hmem

/-- A revised offer is not countered again. -/
theorem next_mark {m : Message} (hc : (w x).session.closed = false)
    (hm : (w x.other).account.sent[(w x).account.messages.length]? = some m)
    (hrev : (r x).stage.revises = true) (hs : (r x).stage.state = .keepWait) :
    m.mark ≠ .counter := by
  obtain ⟨-, hup⟩ := Progress.keepWait_flags hs
  rcases h.next x hc hup hm with hnext | ⟨-, -, hm'⟩
  · have hmarks := hnext.map Message.mark
    rw [List.map_append, (h.told x).talk.heard_marks, (h.told x.other).talk.said_marks] at hmarks
    have := (Progress.next_heard (h.meets x) (h.meets' x) hup hmarks).2.2 hrev hs
    rw [this]
    decide
  · rw [hm'.mark_eq]
    decide

end Facts

/-! ### The steps -/

/-- One side takes a step that keeps its own transcript true. -/
theorem update (h : Agree allowed parties w r) (x : Side) {v : Speaker} {s : Transcript}
    (htold : Told allowed (parties x) v s) (hgrows : (r x).Grows (w x).session.closed s)
    (hsent : (w x).account.sent <+: v.account.sent)
    (horder : v.account.messages <+: (w x.other).account.sent)
    (hclosed : (w x).session.closed = true → v.session.closed = true)
    (hearly : ∀ k h, v.account.heard[k]? = some h →
      h.before.state = .sessionUp ∨ h.before.closed = true ∨ k < (r x.other).said.length ∨
        (r x.other).stage.isUp = false ∧ (w x.other).session.closed = true) :
    Agree allowed parties (Function.update w x v) (Function.update r x s) := by
  constructor
  · intro y
    by_cases hy : y = x
    · subst hy
      rw [Function.update_self, Function.update_self]
      exact htold
    · rw [Function.update_of_ne hy, Function.update_of_ne hy]
      exact h.told y
  · intro y
    by_cases hy : y = x
    · subst hy
      rw [Function.update_self, Function.update_of_ne (Side.other_ne y)]
      exact horder
    · obtain rfl := Side.eq_other hy
      rw [Side.other_other, Function.update_self, Function.update_of_ne (Side.other_ne x)]
      have := h.order x.other
      rw [Side.other_other] at this
      exact this.trans hsent
  · intro y k e he
    by_cases hy : y = x
    · subst hy
      rw [Function.update_self] at he
      rw [Function.update_of_ne (Side.other_ne y), Function.update_of_ne (Side.other_ne y)]
      exact hearly k e he
    · obtain rfl := Side.eq_other hy
      rw [Function.update_of_ne (Side.other_ne x)] at he
      rw [Side.other_other, Function.update_self, Function.update_self]
      have := h.early x.other k e he
      rw [Side.other_other] at this
      -- what `x` said has only grown, and a closed side stays at its point
      rcases this with hup | hcl | hlt | ⟨hup, hcl⟩
      · exact .inl hup
      · exact .inr (.inl hcl)
      · exact .inr (.inr (.inl (Nat.lt_of_lt_of_le hlt hgrows.said.length_le)))
      · exact .inr (.inr (.inr ⟨by rw [hgrows.stage hcl, hup], hclosed hcl⟩))

variable (hallowed : ∀ e, allowed e → e.Ambient)
include hallowed

theorem start (h : Agree allowed parties w r) (x : Side) (hf : (w x).session.Fresh) :
    ∃ r', Agree allowed parties (Function.update w x ((w x).play .start)) r' := by
  obtain ⟨s, htold, hgrows⟩ := (h.told x).start hallowed hf
  refine ⟨_, h.update x htold hgrows ?_ ?_ (fun hc => ?_) fun k e he => ?_⟩
  · rw [Speaker.play, Speaker.sent_after]
    exact List.prefix_append _ _
  · rw [Speaker.messages_play]
    exact h.order x
  · rw [hf.2] at hc
    cases hc
  · exact h.early x k e (by simpa [Speaker.play, Speaker.after] using he)

theorem event (h : Agree allowed parties w r) (x : Side) {e : SessionEvent}
    (hf : ¬ (w x).session.Fresh) (he : allowed e) :
    ∃ r', Agree allowed parties (Function.update w x ((w x).play (.event e))) r' := by
  obtain ⟨s, htold, hgrows⟩ := (h.told x).event hallowed hf he
  refine ⟨_, h.update x htold hgrows ?_ ?_ (fun hc => ?_) fun k y hy => ?_⟩
  · rw [Speaker.play, Speaker.sent_after]
    exact List.prefix_append _ _
  · rw [Speaker.messages_play]
    exact h.order x
  · exact (Speaker.rests_of_closed hc e).still.trans hc
  · exact h.early x k y (by simpa [Speaker.play, Speaker.after] using hy)

theorem hear (h : Agree allowed parties w r) (x : Side) {m : Message}
    (hc : (w x).session.connected = true)
    (hm : (w x.other).account.sent[(w x).account.messages.length]? = some m) :
    ∃ r', Agree allowed parties (Function.update w x ((w x).hear m)) r' := by
  obtain ⟨s, htold, hgrows⟩ := (h.told x).hear hallowed hc fun hcl => h.next_mark x hcl hm
  refine ⟨_, h.update x htold hgrows ?_ ?_ (fun hcl => ?_) fun k e he => ?_⟩
  · rw [Speaker.hear, Speaker.sent_after]
    exact List.prefix_append _ _
  · rw [Speaker.messages_hear]
    exact prefix_concat (h.order x) hm
  · exact (Speaker.rests_of_closed hcl _).still.trans hcl
  · replace he : ((w x).account.heard ++ [_])[k]? = some e := he
    by_cases hk : k < (w x).account.heard.length
    · rw [List.getElem?_append_left hk] at he
      exact h.early x k e he
    · rw [List.getElem?_append_right (by omega)] at he
      obtain ⟨hk', rfl⟩ : k = (w x).account.heard.length ∧ _ = e := by
        cases hd : k - (w x).account.heard.length with
        | zero =>
          rw [hd] at he
          exact ⟨by omega, Option.some.inj he⟩
        | succ d =>
          rw [hd] at he
          cases he
      -- the message that is heard now
      by_cases hcl : (w x).session.closed = true
      · exact .inr (.inl hcl)
      · replace hcl : (w x).session.closed = false := by simpa using hcl
        by_cases hup : (r x).stage.isUp = true
        · exact .inl (((h.told x).state_eq hcl).trans (Progress.isUp_iff.mp hup))
        · rcases h.next x hcl (by simpa using hup) hm with hnext | ⟨hup', hcl', -⟩
          · have hlen := hnext.length_le
            have hmessages := congrArg List.length (h.told x).messages_eq
            rw [((h.told x).quiet hcl (by simpa using hup)).2, List.append_nil, Account.messages,
              List.length_map] at hmessages
            rw [List.length_append, List.length_singleton] at hlen
            exact .inr (.inr (.inl (by omega)))
          · exact .inr (.inr (.inr ⟨hup', hcl'⟩))

end Agree

/-- Every exchange has transcripts that fit together. -/
theorem Exchange.agree {allowed : SessionEvent → Prop} {parties : Side → Party}
    {w : Side → Speaker} (hallowed : ∀ e, allowed e → e.Ambient)
    (h : Exchange allowed parties w) : ∃ r, Agree allowed parties w r := by
  induction h with
  | init =>
    refine ⟨fun _ => { stage := .unstarted, said := [], later := [], heard := [], rest := [] }, ?_⟩
    refine ⟨fun x => Told.init _ _, fun x => List.nil_prefix, fun x k e he => ?_⟩
    rw [show (Speaker.init ((parties x).session x.initiates)).account.heard = [] from rfl,
      List.getElem?_nil] at he
    cases he
  | start h x hf ih =>
    obtain ⟨r, hr⟩ := ih
    exact hr.start hallowed x hf
  | event h x hf he ih =>
    obtain ⟨r, hr⟩ := ih
    exact hr.event hallowed x hf he
  | hear h x hc hm ih =>
    obtain ⟨r, hr⟩ := ih
    exact hr.hear hallowed x hc hm

end PathSession
