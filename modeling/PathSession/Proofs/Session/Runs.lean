import PathSession.Proofs.Session.History
import PathSession.Proofs.Session.Pacing

/-!
# Sessions since their start

A run of a session is the turn it starts with and a beat for each event that it is told of later,
in any order, from any peer and with any tokens.  Its timers can be followed through all that was
told and asked for since, and are those of the session at every point.

* `Session.Run`, `Party.run`: a session since its start;
* `Party.history_run`: a run is a history of its session;
* `Posting`, `TimerSlots.replay?`: timers as they follow from what is told and asked for;
* `Party.replay_run`: those of a run are the timers of its session.
-/

namespace PathSession

/-! ### Runs -/

/-- A session since its start: the turn it starts with, and a beat for each event it is told of. -/
structure Session.Run where
  opening : Turn
  beats : List Beat

namespace Session.Run

variable (r : Run)

/-- The last turn so far. -/
def latest : Turn := (r.beats.getLast?.map Beat.turn).getD r.opening

/-- The session as it is by now. -/
def session : Session := r.latest.session

/-- All that was asked for so far, in order. -/
def actions : List Action := r.opening.actions ++ r.beats.flatMap fun b => b.turn.actions

/-- One more event, when the given token is the next unused one. -/
def tell (n : TimerToken) (e : SessionEvent) : Run :=
  { r with beats := r.beats ++ [⟨r.session, e, r.session.handle n e⟩] }

variable (n : TimerToken) (e : SessionEvent)

/-- A session that has only started. -/
@[simp] theorem session_start (t : Turn) : session ⟨t, []⟩ = t.session := rfl

@[simp] theorem actions_start (t : Turn) : actions ⟨t, []⟩ = t.actions := List.append_nil _

@[simp] theorem beats_tell :
    (r.tell n e).beats = r.beats ++ [⟨r.session, e, r.session.handle n e⟩] := rfl

@[simp] theorem session_tell : (r.tell n e).session = (r.session.handle n e).session := by
  simp [session, latest, tell]

@[simp] theorem actions_tell :
    (r.tell n e).actions = r.actions ++ (r.session.handle n e).actions := by
  simp [actions, tell]

end Session.Run

namespace Party

variable (p : Party) (initiator : Bool) (n : TimerToken)

/-- The run of a session of a party that is started and then told of events, each with the token
that is the next unused one by then. -/
def run (cues : List (TimerToken × SessionEvent)) : Session.Run :=
  cues.foldl (fun r cue => r.tell cue.1 cue.2) ⟨(p.session initiator).start n, []⟩

@[simp] theorem run_nil : p.run initiator n [] = ⟨(p.session initiator).start n, []⟩ := rfl

@[simp] theorem run_concat (cues : List (TimerToken × SessionEvent))
    (cue : TimerToken × SessionEvent) :
    p.run initiator n (cues ++ [cue]) = (p.run initiator n cues).tell cue.1 cue.2 :=
  List.foldl_concat ..

theorem opening_run (cues : List (TimerToken × SessionEvent)) :
    (p.run initiator n cues).opening = (p.session initiator).start n := by
  induction cues using List.reverseRecOn with
  | nil => rfl
  | append_singleton cues cue ih => rwa [run_concat]

/-- A run is a history of its session. -/
theorem history_run (cues : List (TimerToken × SessionEvent)) :
    ∃ moves, Session.History p initiator (p.run initiator n cues).session
      (p.run initiator n cues).actions moves := by
  induction cues using List.reverseRecOn with
  | nil => exact ⟨_, by simpa using .start n⟩
  | append_singleton cues cue ih =>
    obtain ⟨moves, h⟩ := ih
    exact ⟨_, by simpa using h.handle cue.1 cue.2⟩

theorem phase_run (cues : List (TimerToken × SessionEvent)) :
    (p.run initiator n cues).session.Phase := by
  obtain ⟨moves, h⟩ := p.history_run initiator n cues
  exact h.phase

/-- What a session was made from stays the same. -/
theorem party_run (cues : List (TimerToken × SessionEvent)) :
    (p.run initiator n cues).session.party = p := by
  obtain ⟨moves, h⟩ := p.history_run initiator n cues
  exact h.party

/-- A beat of a run is the turn of the session as it was, for the event that came next. -/
theorem beat_of_run {cues : List (TimerToken × SessionEvent)} {b : Beat}
    (hb : b ∈ (p.run initiator n cues).beats) : ∃ cues' n' e,
      b = ⟨(p.run initiator n cues').session, e,
        (p.run initiator n cues').session.handle n' e⟩ := by
  induction cues using List.reverseRecOn with
  | nil => cases hb
  | append_singleton cues cue ih =>
    rw [run_concat, Session.Run.beats_tell] at hb
    rcases List.mem_append.mp hb with hb | hb
    · exact ih hb
    · exact ⟨cues, cue.1, cue.2, List.mem_singleton.mp hb⟩

end Party

/-! ### Following the timers -/

/-- What a session is told or asks for. -/
inductive Posting
  | told (e : SessionEvent)
  | asked (a : Action)

namespace TimerSlots

/-- The armed timers after a posting.  One that runs out under the token it is armed with leaves its
slot.  It is out of order to arm what is armed already, and to cancel under another token. -/
def post? (s : TimerSlots) : Posting → Option TimerSlots
  | .told (.timerExpired k token) => some (if s.get k = some token then s.set k none else s)
  | .asked (.armTimer k token _) => if s.get k = none then some (s.set k (some token)) else none
  | .asked (.cancelTimer k token) => if s.get k = some token then some (s.set k none) else none
  | _ => some s

/-- The armed timers after several postings. -/
def replay? (s : TimerSlots) (postings : List Posting) : Option TimerSlots :=
  postings.foldlM post? s

variable (s : TimerSlots)

theorem replay?_cons (x : Posting) (postings : List Posting) :
    s.replay? (x :: postings) = (s.post? x).bind (·.replay? postings) := rfl

theorem replay?_append (xs ys : List Posting) :
    s.replay? (xs ++ ys) = (s.replay? xs).bind (·.replay? ys) := List.foldlM_append

end TimerSlots

/-- Timers that are kept on the books can be followed. -/
theorem Ledger.replay_asked {l l' : Ledger} {actions : List Action}
    (h : l.enterAll? actions = some l') :
    l.slots.replay? (actions.map .asked) = some l'.slots := by
  induction actions generalizing l with
  | nil =>
    cases h
    rfl
  | cons a actions ih =>
    rw [enterAll?_cons] at h
    obtain ⟨l₁, hl₁, h⟩ := Option.bind_eq_some_iff.mp h
    have hpost : l.slots.post? (.asked a) = some l₁.slots := by
      cases a with
      | armTimer k token after =>
        obtain ⟨hfree, heq⟩ := Option.ite_none_right_eq_some.mp hl₁
        cases heq
        exact if_pos hfree.1
      | cancelTimer k token =>
        obtain ⟨hk, heq⟩ := Option.ite_none_right_eq_some.mp hl₁
        cases heq
        exact if_pos hk
      | _ =>
        cases hl₁
        rfl
    rw [List.map_cons, TimerSlots.replay?_cons, hpost]
    exact ih h

namespace Session

/-- An event finds the timers that are left once it is told. -/
theorem post_told (s : Session) (e : SessionEvent) :
    s.timers.post? (.told e) = some (s.slotsAt e) := by
  cases e <;> rfl

/-- No timer of a closed session can run out. -/
theorem Phase.slotsAt_of_closed {s : Session} (h : s.Phase) (hc : s.closed = true) (e : SessionEvent) :
    s.slotsAt e = s.timers := by
  cases e with
  | timerExpired kind token =>
    refine if_neg fun hk => ?_
    have hholds := h.holds
    rw [h.state_of_timer (Option.isSome_iff_exists.mpr ⟨token, hk⟩)] at hholds
    have hopen : s.closed = false := by cases kind <;> exact hholds.1
    rw [hc] at hopen
    cases hopen
  | _ => rfl

end Session

/-- An event and all that is asked for in its turn. -/
def Beat.postings (b : Beat) : List Posting := .told b.event :: b.turn.actions.map .asked

/-- All that a session was told and has asked for, one after the other. -/
def Session.Run.postings (r : Session.Run) : List Posting :=
  r.opening.actions.map .asked ++ r.beats.flatMap Beat.postings

theorem Session.Run.postings_tell (r : Session.Run) (n : TimerToken) (e : SessionEvent) :
    (r.tell n e).postings =
      r.postings ++ .told e :: (r.session.handle n e).actions.map .asked := by
  simp [postings, Beat.postings, tell]

/-- A turn takes the timers from where it finds them to where it leaves them. -/
theorem Session.replay_handle {s : Session} (h : s.Phase) (n : TimerToken) (e : SessionEvent) :
    s.timers.replay? (.told e :: (s.handle n e).actions.map .asked) =
      some (s.handle n e).session.timers := by
  rw [TimerSlots.replay?_cons, post_told, Option.bind_some]
  by_cases hc : s.closed = true
  · obtain ⟨hsession, -, hactions⟩ := handle_of_closed hc n e
    rw [hactions, hsession, h.slotsAt_of_closed hc]
    rfl
  · have hbooks := (outcome_handle h (by simpa using hc) n e).closes.1
    exact Ledger.replay_asked hbooks

/-- **The timers of a run.**  Followed through all that a session was told and has asked for, timers
are armed, cancelled and run out in order, and those that are left are the ones it has. -/
theorem Party.replay_run (p : Party) (initiator : Bool) (n : TimerToken)
    (cues : List (TimerToken × SessionEvent)) :
    TimerSlots.replay? {} (p.run initiator n cues).postings =
      some (p.run initiator n cues).session.timers := by
  induction cues using List.reverseRecOn with
  | nil =>
    have hbooks := (Session.calm_start (s := p.session initiator) rfl n).books
    rw [run_nil, Session.Run.postings, List.flatMap_nil, List.append_nil]
    exact Ledger.replay_asked hbooks
  | append_singleton cues cue ih =>
    rw [run_concat, Session.Run.postings_tell, TimerSlots.replay?_append, ih, Option.bind_some,
      Session.replay_handle (p.phase_run initiator n cues), Session.Run.session_tell]

end PathSession
