import Mathlib.Data.List.Nodup
import PathSession.Proofs.Session.Likeness
import PathSession.Proofs.Session.Parting
import PathSession.Proofs.Session.Transitions

/-!
# What a release leaves

A release cancels every armed timer and has the session rest in idle without ending it.  A session
does not rest there in its own course, yet it may still be told of messages, expiries and transport
events.  None of them wakes it: it ends, or it stays as it is but for its queue.

* `Session.Resting`: idle, with no timer armed and nothing agreed on;
* `Session.farewell?`: what a resting session asks for when an event ends it;
* `Session.Undisturbed`: a turn that asks for nothing and changes nothing but the queue;
* `Session.Resting.handle`: what an event does to a resting session;
* `Party.resting_life`: a session rests from its first release on;
* `Party.release_complete`: what a release does, and that nothing undoes it.
-/

namespace PathSession

/-! ### Cancelling once -/

theorem Action.nodup_cancels (kind : TimerKind) (token : Option TimerToken) :
    (cancels kind token).Nodup := by
  cases token with
  | none => exact List.nodup_nil
  | some token => exact List.nodup_singleton _

theorem TimerKind.nodup_all : all.Nodup := by decide

/-- No timer is cancelled twice. -/
theorem Turn.nodup_cancellations (s : Session) : (cancellations s).Nodup := by
  refine List.nodup_flatMap.mpr ⟨fun kind _ => Action.nodup_cancels kind _, ?_⟩
  -- cancellations of timers of two kinds differ in the kind
  refine TimerKind.nodup_all.imp fun hne a ha ha' => hne ?_
  obtain ⟨_, -, rfl⟩ := Action.mem_cancels.mp ha
  obtain ⟨_, -, ha'⟩ := Action.mem_cancels.mp ha'
  exact (Action.cancelTimer.inj ha').1

namespace Session

variable {s : Session} {n : TimerToken} {e : SessionEvent}

theorem session_release (s : Session) (n : TimerToken) : (s.release n).session =
    { s with timers := {}, localOk := false, remoteOk := false, state := .idle } :=
  Turn.session_release _

theorem nextToken_release (s : Session) (n : TimerToken) : (s.release n).nextToken = n :=
  Turn.nextToken_release _

theorem actions_release (s : Session) (n : TimerToken) :
    (s.release n).actions = Turn.cancellations s :=
  Turn.actions_release _

/-! ### Rest -/

/-- A session is idle, has no timer armed and has agreed on nothing. -/
structure Resting (s : Session) : Prop where
  state : s.state = .idle
  timers : s.timers = {}
  localOk : s.localOk = false
  remoteOk : s.remoteOk = false

/-- What a resting session asks for when an event ends it. -/
def farewell? (s : Session) : SessionEvent → Option (List Action)
  | .connectionLost => some [.close .transportFailure]
  | .framingFailed => some [.close .framingError]
  | .closeRequested =>
    some ((if s.connected then [.send CloseCause.noExplanation.message] else []) ++
      [.close .localClose])
  | _ => none

/-- A turn asks for nothing and changes nothing but the queue. -/
structure Undisturbed (s : Session) (n : TimerToken) (t : Turn) : Prop where
  session : ∃ queue, t.session = { s with outbound := queue }
  nextToken : t.nextToken = n
  actions : t.actions = []

/-- A turn does nothing at all. -/
structure Untouched (s : Session) (n : TimerToken) (t : Turn) : Prop where
  session : t.session = s
  nextToken : t.nextToken = n
  actions : t.actions = []

theorem Untouched.undisturbed {t : Turn} (h : s.Untouched n t) : s.Undisturbed n t :=
  ⟨⟨s.outbound, h.session⟩, h.nextToken, h.actions⟩

/-- A remark is nothing that touches a session. -/
theorem untouched_note (s : Session) (n : TimerToken) (remark : Note) :
    s.Untouched n ((Turn.start s n).note remark) :=
  ⟨rfl, rfl, rfl⟩

theorem resting_release (s : Session) (n : TimerToken) : (s.release n).session.Resting := by
  rw [session_release]
  exact ⟨rfl, rfl, rfl, rfl⟩

theorem resting_ended (s : Session) : s.ended.Resting := ⟨rfl, rfl, rfl, rfl⟩

namespace Resting

variable (h : s.Resting)
include h

theorem cancellations : Turn.cancellations s = [] := by
  simp [Turn.cancellations, h.timers, Action.cancels]

theorem queue (queue : List Message) : Resting { s with outbound := queue } :=
  ⟨h.state, h.timers, h.localOk, h.remoteOk⟩

/-- A release of a resting session does nothing. -/
theorem release (n : TimerToken) : s.Untouched n (s.release n) where
  session := by
    rw [session_release]
    obtain ⟨hstate, htimers, hlocal, hremote⟩ := h
    cases s
    subst hstate htimers hlocal hremote
    rfl
  nextToken := nextToken_release s n
  actions := by rw [actions_release, h.cancellations]

/-- Nothing is armed that could expire. -/
theorem handle_timerExpired (n : TimerToken) (kind : TimerKind) (token : TimerToken) :
    s.Untouched n (s.handle n (.timerExpired kind token)) := by
  unfold handle
  split
  · exact untouched_note s n _
  · rw [Turn.take, if_neg (by simp [h.timers])]
    exact untouched_note s n _

/-- A resting session that closes has no timer to cancel. -/
theorem close {t : Turn} (ht : t.session = s) (reason : CloseReason) :
    (t.close reason).session = s.ended ∧ (t.close reason).nextToken = t.nextToken ∧
      (t.close reason).actions = t.actions ++ [.close reason] := by
  rw [Turn.session_close, Turn.nextToken_close, Turn.actions_close, ht, h.cancellations,
    List.append_nil]
  exact ⟨rfl, rfl, rfl⟩

/-- An event that ends a resting session. -/
theorem handle_of_farewell? (hc : s.closed = false) {said : List Action}
    (he : s.farewell? e = some said) (n : TimerToken) :
    (s.handle n e).session = s.ended ∧ (s.handle n e).nextToken = n ∧
      (s.handle n e).actions = said := by
  rw [handle_eq_take hc]
  cases e with
  | connectionLost =>
    cases he
    rw [Turn.take, if_neg (by simp [h.state])]
    exact h.close rfl _
  | framingFailed =>
    cases he
    have hquiet : ∀ remark, (((Turn.start s n).note remark).formatError) =
        ((Turn.start s n).note remark).close .framingError := by
      intro remark
      simp [Turn.formatError, h.state]
    rw [Turn.take, hquiet]
    exact h.close rfl _
  | closeRequested =>
    cases he
    rw [Turn.take]
    cases hconn : s.connected <;> simp only [Turn.session_start, hconn] <;> exact h.close rfl _
  | _ => cases he

/-- An event that does not end a resting session leaves all but its queue. -/
theorem handle_of_farewell?_eq_none (he : s.farewell? e = none) (n : TimerToken) :
    s.Undisturbed n (s.handle n e) := by
  by_cases hc : s.closed = true
  · obtain ⟨hsession, htoken, hactions⟩ := handle_of_closed hc n e
    exact ⟨⟨s.outbound, hsession⟩, htoken, hactions⟩
  · rw [handle_eq_take (Bool.eq_false_iff.mpr hc)]
    cases e with
    | accepted | connectRequested => exact (untouched_note s n _).undisturbed
    | transportUp =>
      rw [Turn.take, Turn.transportUp, if_neg (by simp [h.state])]
      exact (untouched_note s n _).undisturbed
    | transportFailed =>
      rw [Turn.take, if_neg (by simp [h.state])]
      exact ⟨⟨s.outbound, rfl⟩, rfl, rfl⟩
    | network m =>
      simp only [Turn.take, Turn.fromNetwork, Turn.session_start, h.state]
      exact (untouched_note s n _).undisturbed
    | fromLocal m =>
      rw [Turn.take, Turn.fromLocal, if_neg (by simp [h.state])]
      split
      · exact ⟨⟨s.outbound ++ [m], rfl⟩, rfl, rfl⟩
      · exact (untouched_note s n _).undisturbed
    | timerExpired kind token =>
      rw [← handle_eq_take (Bool.eq_false_iff.mpr hc)]
      exact (h.handle_timerExpired n kind token).undisturbed
    | connectionLost | framingFailed | closeRequested => cases he

/-- **Nothing wakes a resting session.**  An event ends it, or leaves all but its queue. -/
theorem handle (n : TimerToken) (e : SessionEvent) :
    (s.closed = false ∧ ∃ said, s.farewell? e = some said ∧
      (s.handle n e).session = s.ended ∧ (s.handle n e).nextToken = n ∧
        (s.handle n e).actions = said) ∨ s.Undisturbed n (s.handle n e) := by
  cases he : s.farewell? e with
  | none => exact .inr (h.handle_of_farewell?_eq_none he n)
  | some said =>
    cases hc : s.closed with
    | true =>
      obtain ⟨hsession, htoken, hactions⟩ := handle_of_closed hc n e
      exact .inr ⟨⟨s.outbound, hsession⟩, htoken, hactions⟩
    | false => exact .inl ⟨rfl, said, rfl, h.handle_of_farewell? hc he n⟩

/-- A session that rests keeps resting. -/
theorem answer (n : TimerToken) (c : Call) : (s.answer n c).session.Resting := by
  cases c with
  | release => exact resting_release s n
  | handle e =>
    obtain ⟨-, said, -, hsession, -⟩ | ⟨⟨queue, hsession⟩, -⟩ := h.handle n e
    · exact hsession ▸ resting_ended s
    · exact hsession ▸ h.queue queue

end Resting

end Session

namespace Party

open Session

/-- A session rests from its first release on. -/
theorem resting_life (p : Party) (initiator : Bool) (n : TimerToken)
    (calls : List (TimerToken × Call)) (m : TimerToken) (more : List (TimerToken × Call)) :
    (p.life initiator n (calls ++ (m, .release) :: more)).session.Resting := by
  induction more using List.reverseRecOn with
  | nil =>
    rw [life_concat, Life.session_call]
    exact resting_release _ m
  | append_singleton more call ih =>
    rw [← List.cons_append, ← List.append_assoc, life_concat, Life.session_call]
    exact ih.answer call.1 call.2

/-- **Release is complete, and may be repeated.**  Whatever a session has been called for since its
start, a release cancels each armed timer once, by its token, asks for nothing else, and has the
session idle with no timer armed and nothing agreed on, otherwise as it was.  However it is called
after that, another release does nothing, no timer that runs out has an effect, and an event that
does not end the session changes nothing but its queue. -/
theorem release_complete (p : Party) (initiator : Bool) (n : TimerToken)
    (calls : List (TimerToken × Call)) (m : TimerToken) :
    let s := (p.life initiator n calls).session
    let t := s.release m
    (t.actions.Nodup ∧ ∀ a, a ∈ t.actions ↔
      ∃ kind token, s.timers.get kind = some token ∧ a = .cancelTimer kind token) ∧
    t.session = { s with timers := {}, localOk := false, remoteOk := false, state := .idle } ∧
    t.session.snapshot = { s.snapshot with
      state := .idle, localOk := false, remoteOk := false, armedTimers := [] } ∧
    t.session.closed = s.closed ∧
    ∀ more, let r := (p.life initiator n (calls ++ (m, .release) :: more)).session
      (∀ n', r.Untouched n' (r.release n')) ∧
      (∀ n' kind token, r.Untouched n' (r.handle n' (.timerExpired kind token))) ∧
      ∀ n' e, (r.closed = false ∧ ∃ said, r.farewell? e = some said ∧
          (r.handle n' e).session = r.ended ∧ (r.handle n' e).nextToken = n' ∧
            (r.handle n' e).actions = said) ∨ r.Undisturbed n' (r.handle n' e) := by
  intro s t
  refine ⟨⟨?_, fun a => ?_⟩, session_release s m, ?_, ?_, fun more => ?_⟩
  · rw [actions_release]
    exact Turn.nodup_cancellations s
  · rw [actions_release]
    exact Turn.mem_cancellations
  · rw [session_release]
    rfl
  · rw [session_release]
  · have hrest := p.resting_life initiator n calls m more
    exact ⟨hrest.release, hrest.handle_timerExpired, hrest.handle⟩

end Party

end PathSession
