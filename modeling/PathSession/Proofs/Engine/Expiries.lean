import Mathlib.Algebra.Order.BigOperators.Group.List
import Mathlib.Algebra.Order.Ring.Nat
import PathSession.Proofs.Engine.Supervision

/-!
# Only so many timers expire up to a time

The clock runs to a time from deadline to deadline, and the expiry of a timer may arm it anew: a
connect is tried once more, and a KEEPALIVE is followed by the next.  The one uses up a retry, and
the other comes later.  So what can still expire up to that time gets less with every expiry, and
the clock gets there.

* `Rearms`: what a session does when a timer has run out;
* `Schedule.load`: a measure of the timers that wait, and what requests add to it;
* `ClockedEngine.pending`: how many expiries there can be up to a time, fewer after each;
* `Timeline.Reached.runTo`, `Timeline.Reached.submit`, `Timeline.Reached.advance`: an engine on a
  clock goes through a timeline.
-/

namespace PathSession

/-! ### Timers that are armed anew -/

/-- How often a session may still try to connect. -/
def Session.retriesLeft (s : Session) : Nat := s.settings.maxConnectRetries.toNat - s.connectRetries

/-- When a timer has run out, at most a timer of that kind is armed: for a connect that uses up a
retry, or for a KEEPALIVE that comes later. -/
structure Rearms (s : Session) (kind : TimerKind) (t : Turn) : Prop where
  retries : t.session.retriesLeft ≤ s.retriesLeft
  armings : Action.armings t.actions = [] ∨
    ∃ after, Action.armings t.actions = [(kind, after)] ∧
      (kind = .connect ∧ t.session.retriesLeft < s.retriesLeft ∨ kind = .keepAlive ∧ 0 < after)

namespace Turn

variable {s : Session} {t : Turn} {kind : TimerKind}

theorem rearms_close (harmings : Action.armings t.actions = [])
    (hretries : t.session.retriesLeft ≤ s.retriesLeft) (reason : CloseReason) :
    Rearms s kind (t.close reason) where
  retries := by
    rw [session_close]
    exact hretries
  armings := .inl (by simp [harmings, cancellations, TimerKind.all])

theorem rearms_expire (ha : t.actions = []) (h : s.Phase) {token : TimerToken}
    (hk : s.timers.get kind = some token)
    (hsession : t.session = { s with timers := s.timers.set kind none }) :
    Rearms s kind (t.expire kind) := by
  obtain ⟨hstate, halive, -⟩ := (h.timer_iff kind).mp (by rw [hk]; rfl)
  have hkeeps : t.session.retriesLeft ≤ s.retriesLeft := by
    rw [hsession]
    exact Nat.le_refl _
  unfold expire
  cases kind with
  | connect =>
    simp only [session_note, hsession, hstate, TimerKind.state, if_true]
    unfold connectFailed
    simp only
    split
    · refine rearms_close (by simp [ha]) ?_ _
      simp only [session_note, session_change, hsession, Session.retriesLeft]
      exact Nat.sub_le_sub_left (Nat.le_succ _) _
    · rename_i hmore
      simp only [session_note, session_change, hsession] at hmore
      have hless : s.settings.maxConnectRetries.toNat - (s.connectRetries + 1) <
          s.settings.maxConnectRetries.toNat - s.connectRetries := by omega
      exact ⟨by simpa [Session.retriesLeft, hsession] using hless.le,
        .inr ⟨s.settings.connectTimeout, by simp [ha, hsession], .inl ⟨rfl, by
          simpa [Session.retriesLeft, hsession] using hless⟩⟩⟩
  | openWait | keepWait | deadTimer =>
    simp only [refuse, sendError]
    refine rearms_close ?_ ?_ _
    · simp [ha]
    · exact hkeeps
  | keepAlive =>
    refine ⟨by simp [Session.retriesLeft, hsession],
      .inr ⟨.ofSeconds s.keepalive.toNat, by simp [ha, hsession], .inr ⟨rfl, ?_⟩⟩⟩
    exact Nat.mul_pos (halive rfl) (by decide)

end Turn

theorem Session.rearms_handle {s : Session} (h : s.Phase) (hc : s.closed = false) (n : TimerToken)
    (kind : TimerKind) (token : TimerToken) :
    Rearms s kind (s.handle n (.timerExpired kind token)) := by
  have hturn : s.handle n (.timerExpired kind token) =
      (Turn.start s n).take (.timerExpired kind token) := by simp [handle, hc]
  rw [hturn, Turn.take]
  split
  · rename_i hk
    exact Turn.rearms_expire (t := (Turn.start s n).change _) rfl h hk rfl
  · exact ⟨le_rfl, .inl rfl⟩

/-! ### Requests and the timers that wait -/

/-- The timer that a request arms and how long for, if it does. -/
def TimerRequest.arming? : TimerRequest → Option (PeerAddress × TimerKind × Millis)
  | .arm peer kind _ after => some (peer, kind, after)
  | .cancel _ => none

theorem Action.filterMap_arming? (peer : PeerAddress) (as : List Action) :
    (as.filterMap (request? peer)).filterMap TimerRequest.arming? =
      (armings as).map fun x => (peer, x) := by
  rw [armings, List.filterMap_filterMap, List.map_filterMap]
  refine List.filterMap_congr fun a _ => ?_
  cases a <;> rfl

namespace Handler

variable {h : Handler}

/-- How often the session of a peer may still try to connect. -/
def retriesLeft (h : Handler) (p : PeerAddress) : Nat := (h.session? p).elim 0 Session.retriesLeft

/-- The expiry of a timer gives no session a retry, and what it arms anew is of its own kind. -/
theorem process_expired (hl : h.Lives) (peer : PeerAddress) (kind : TimerKind)
    (token : TimerToken) :
    let handled := h.process peer (.timerExpired kind token)
    (∀ p, handled.next.retriesLeft p ≤ h.retriesLeft p) ∧
      (handled.requests.filterMap TimerRequest.arming? = [] ∨
        ∃ after, handled.requests.filterMap TimerRequest.arming? = [(peer, kind, after)] ∧
          (kind = .connect ∧ handled.next.retriesLeft peer < h.retriesLeft peer ∨
            kind = .keepAlive ∧ 0 < after)) := by
  intro handled
  rcases process_beat hl peer (.timerExpired kind token) with
    ⟨b, hbeat, htakes⟩ | ⟨-, -, hnext, hrequests⟩
  · have hs : h.session? peer = some b.session :=
      htakes.before.resolve_right (by rintro ⟨-, hcreates, -⟩; cases hcreates)
    rw [beat?, hs] at hbeat
    have hturn : b.turn = b.session.handle h.nextToken (.timerExpired kind token) :=
      (congrArg Beat.turn (Option.some.inj hbeat)).symm
    obtain ⟨hphase, hc⟩ := hl peer _ hs
    obtain ⟨hretries, harmings⟩ := Session.rearms_handle hphase hc h.nextToken kind token
    rw [← hturn] at hretries harmings
    have hleft : handled.next.retriesLeft peer ≤ b.turn.session.retriesLeft := by
      rw [retriesLeft, htakes.after]
      split
      · exact Nat.zero_le _
      · exact Nat.le_refl _
    have hbefore : h.retriesLeft peer = b.session.retriesLeft := by
      rw [retriesLeft, hs]
      rfl
    refine ⟨fun p => ?_, ?_⟩
    · by_cases hp : p = peer
      · subst hp
        rw [hbefore]
        exact hleft.trans hretries
      · rw [retriesLeft, session?_process_of_ne hl hp, retriesLeft]
    · rw [htakes.requests, Action.filterMap_arming?, hbefore]
      rcases harmings with hnone | ⟨after, harms, ⟨hkind, hless⟩ | hlater⟩
      · exact .inl (by rw [hnone]; rfl)
      · exact .inr ⟨after, by rw [harms]; rfl, .inl ⟨hkind, hleft.trans_lt hless⟩⟩
      · exact .inr ⟨after, by rw [harms]; rfl, .inr hlater⟩
  · exact ⟨fun p => by rw [show handled.next = h from hnext], .inl (by
      rw [show handled.requests = [] from hrequests]; rfl)⟩

end Handler

namespace Schedule

variable {Q : Type} [AlarmQueue Q] {s : Schedule Q} {f g : PeerAddress → TimerKind → Millis → Nat}

/-- The sum of a measure over the timers that wait. -/
def load (s : Schedule Q) (f : PeerAddress → TimerKind → Millis → Nat) : Nat :=
  (s.queue.map fun a => f a.peer a.kind a.deadline).sum

theorem load_mono (h : ∀ p kind deadline, f p kind deadline ≤ g p kind deadline) :
    s.load f ≤ s.load g := List.sum_le_sum fun _ _ => h _ _ _

theorem load_apply (r : TimerRequest) : (s.apply r).load f ≤
    s.load f + (r.arming?.elim 0 fun (p, kind, after) => f p kind (s.now + after)) := by
  cases r with
  | arm peer kind token after =>
    rcases s.arm_cases peer kind token after with
      ⟨-, hsame⟩ | ⟨place, -, -, hperm⟩ | ⟨-, hnone, -⟩
    · rw [apply, hsame]
      exact Nat.le_add_right _ _
    · rw [apply, load, (hperm.map _).sum_eq, List.map_cons, List.sum_cons, Nat.add_comm]
      exact Nat.le_refl _
    · rw [apply, load, hnone]
      exact Nat.zero_le _
  | cancel token => exact ((s.queue_cancel_sublist token).map _).sum_le_sum (by simp)

/-- Carrying out requests adds what the timers that they arm measure. -/
theorem load_foldl_apply (requests : List TimerRequest) : (requests.foldl apply s).load f ≤
    s.load f + ((requests.filterMap TimerRequest.arming?).map
      fun (p, kind, after) => f p kind (s.now + after)).sum := by
  induction requests generalizing s with
  | nil => exact Nat.le_add_right _ _
  | cons r requests ih =>
    refine ih.trans ?_
    have hr := load_apply (s := s) (f := f) r
    rw [now_apply]
    cases harms : r.arming? with
    | none =>
      rw [harms] at hr
      rw [List.filterMap_cons_none harms]
      exact Nat.add_le_add_right hr _
    | some x =>
      rw [harms] at hr
      rw [List.filterMap_cons_some harms, List.map_cons, List.sum_cons, ← Nat.add_assoc]
      exact Nat.add_le_add_right hr _

end Schedule

/-! ### What can still expire -/

namespace ClockedEngine

variable {Q : Type} {e e' : ClockedEngine Q} {horizon : Millis} {p : PeerAddress} {kind : TimerKind}
variable {deadline deadline' : Millis}

/-- How many expiries up to a time a timer can lead to, its own included. -/
def expiries (e : ClockedEngine Q) (horizon : Millis) (p : PeerAddress) (kind : TimerKind)
    (deadline : Millis) : Nat :=
  if deadline ≤ horizon then
    match kind with
    | .connect => e.handler.retriesLeft p + 1
    | .keepAlive => horizon - deadline + 1
    | .openWait | .keepWait | .deadTimer => 1
  else
    0

theorem expiries_mono (h : e'.handler.retriesLeft p ≤ e.handler.retriesLeft p) :
    e'.expiries horizon p kind deadline ≤ e.expiries horizon p kind deadline := by
  unfold expiries
  split
  · cases kind with
    | connect => exact Nat.succ_le_succ h
    | _ => exact Nat.le_refl _
  · exact Nat.le_refl _

theorem expiries_pos (hdue : deadline ≤ horizon) : 0 < e.expiries horizon p kind deadline := by
  unfold expiries
  rw [if_pos hdue]
  cases kind <;> exact Nat.succ_pos _

/-- A timer that is armed anew leads to fewer expiries than it did before. -/
theorem expiries_rearmed (hdue : deadline ≤ horizon)
    (h : kind = .connect ∧ e'.handler.retriesLeft p < e.handler.retriesLeft p ∨
      kind = .keepAlive ∧ deadline < deadline') :
    e'.expiries horizon p kind deadline' < e.expiries horizon p kind deadline := by
  by_cases hdue' : deadline' ≤ horizon
  · unfold expiries
    rw [if_pos hdue, if_pos hdue']
    rcases h with ⟨rfl, hless⟩ | ⟨rfl, hlater⟩
    · exact Nat.succ_lt_succ hless
    · exact Nat.succ_lt_succ (Nat.sub_lt_sub_left (hlater.trans_le hdue') hlater)
  · refine Nat.lt_of_le_of_lt (Nat.le_of_eq ?_) (expiries_pos hdue)
    unfold expiries
    rw [if_neg hdue']

variable [AlarmQueue Q]

/-- How many expiries there can be up to a time. -/
def pending (e : ClockedEngine Q) (horizon : Millis) : Nat := e.schedule.load (e.expiries horizon)

/-- Every expiry leaves fewer to come. -/
theorem pending_expire (hl : e.handler.Lives) {a : Alarm} {s : Schedule Q}
    (he : e.schedule.expire? horizon = some (a, s)) :
    (({ e with schedule := s } : ClockedEngine Q).take a.peer
      (.timerExpired a.kind a.token)).1.pending horizon < e.pending horizon := by
  obtain ⟨hqueue, hdue, hnow, -⟩ := Schedule.expire?_eq_some he
  obtain ⟨hretries, harmings⟩ := Handler.process_expired hl a.peer a.kind a.token
  generalize htaken : (({ e with schedule := s } : ClockedEngine Q).take a.peer
    (.timerExpired a.kind a.token)).1 = taken
  generalize harmed : (e.handler.process a.peer (.timerExpired a.kind a.token)).requests.filterMap
    TimerRequest.arming? = armed at harmings
  have hschedule : taken.schedule = (e.handler.process a.peer
      (.timerExpired a.kind a.token)).requests.foldl Schedule.apply s := by
    rw [← htaken]
    exact foldl_schedule? _ _
  have hrest : s.load (taken.expiries horizon) ≤ s.load (e.expiries horizon) :=
    Schedule.load_mono fun p kind deadline => expiries_mono (by rw [← htaken]; exact hretries p)
  have hnew : (armed.map fun (p, kind, after) =>
      taken.expiries horizon p kind (s.now + after)).sum <
        e.expiries horizon a.peer a.kind a.deadline := by
    rcases harmings with rfl | ⟨after, rfl, hrearms⟩
    · exact expiries_pos hdue
    · rw [List.map_singleton, List.sum_singleton]
      refine expiries_rearmed hdue (hrearms.imp ?_ ?_)
      · rw [← htaken]
        exact id
      · rintro ⟨hkind, hafter⟩
        refine ⟨hkind, ?_⟩
        rw [hnow]
        exact Nat.lt_of_le_of_lt (Nat.le_max_right _ _) (Nat.lt_add_of_pos_right hafter)
  calc taken.pending horizon
      ≤ s.load (taken.expiries horizon) + (armed.map fun (p, kind, after) =>
          taken.expiries horizon p kind (s.now + after)).sum := by
        rw [pending, hschedule, ← harmed]
        exact Schedule.load_foldl_apply _
    _ < s.load (e.expiries horizon) + e.expiries horizon a.peer a.kind a.deadline :=
        Nat.add_lt_add_of_le_of_lt hrest hnew
    _ = e.pending horizon := by
        rw [pending, Schedule.load, Schedule.load, hqueue, Nat.add_comm]
        rfl

/-- There are no more expiries up to a time than the bound that running to it assumes. -/
theorem pending_le_expiryBound (hprompt : e.schedule.Prompt) (hc : e.handler.Configured) :
    e.pending horizon ≤ e.expiryBound horizon := by
  have hretries : ∀ p, e.handler.retriesLeft p ≤ e.handler.settings.maxConnectRetries.toNat := by
    intro p
    rw [Handler.retriesLeft]
    cases hs : e.handler.session? p with
    | none => exact Nat.zero_le _
    | some s =>
      rw [← hc p s hs]
      exact Nat.sub_le _ _
  have hbound := List.sum_le_card_nsmul
    (e.schedule.queue.map fun a => e.expiries horizon a.peer a.kind a.deadline)
    (horizon - e.schedule.now + e.handler.settings.maxConnectRetries.toNat + 2) ?_
  · rw [List.length_map] at hbound
    exact hbound
  · intro x hx
    obtain ⟨a, ha, rfl⟩ := List.mem_map.mp hx
    have hahead := Nat.sub_le_sub_left (hprompt a ha) horizon
    have hleft := hretries a.peer
    unfold expiries
    split
    · split <;> omega
    · exact Nat.zero_le _

theorem expireUpTo_of_none (he : e.schedule.expire? horizon = none) (n : Nat) :
    (expireUpTo horizon n e).1 = e := by
  cases n with
  | zero => rfl
  | succ n => simp only [expireUpTo, expireNext?, he]

theorem expireUpTo_succ {a : Alarm} {s : Schedule Q} (he : e.schedule.expire? horizon = some (a, s))
    (n : Nat) : (expireUpTo horizon (n + 1) e).1 =
      (expireUpTo horizon n (({ e with schedule := s } : ClockedEngine Q).take a.peer
        (.timerExpired a.kind a.token)).1).1 := by
  simp only [expireUpTo, expireNext?, he]

end ClockedEngine

/-! ### Running to a time -/

namespace Timeline

variable {Q : Type} [AlarmQueue Q] {role : Role} {settings : Settings} {firstId : UInt8}
variable {w : Timeline Q} {horizon : Millis}

/-- One expiry after the other is handled until none is due before the given time. -/
theorem Reached.expireUpTo {n : Nat} (h : Reached role settings firstId w)
    (hnow : w.now ≤ horizon) (hn : w.engine.pending horizon ≤ n) :
    ∃ w', Reached role settings firstId w' ∧
      w'.engine = (ClockedEngine.expireUpTo horizon n w.engine).1 ∧ w'.now ≤ horizon ∧
        ∀ a ∈ w'.engine.schedule.queue, horizon ≤ a.deadline := by
  induction n generalizing w with
  | zero =>
    cases he : w.engine.schedule.expire? horizon with
    | none => exact ⟨w, h, rfl, hnow, fun a ha => (Schedule.expire?_eq_none he a ha).le⟩
    | some x => exact absurd (ClockedEngine.pending_expire h.lives he) (by omega)
  | succ n ih =>
    cases he : w.engine.schedule.expire? horizon with
    | none =>
      exact ⟨w, h, (ClockedEngine.expireUpTo_of_none he _).symm, hnow,
        fun a ha => (Schedule.expire?_eq_none he a ha).le⟩
    | some x =>
      obtain ⟨a, s⟩ := x
      have hless := ClockedEngine.pending_expire h.lives he
      obtain ⟨-, hdue, hlater, -⟩ := Schedule.expire?_eq_some he
      rw [ClockedEngine.expireUpTo_succ he]
      refine ih (h.expire he) ?_ (Nat.le_of_lt_succ (hless.trans_le hn))
      rw [now_take]
      exact hlater.trans_le (Nat.max_le.mpr ⟨hnow, hdue⟩)

/-- **The clock gets to any time.**  An engine that runs to a time goes through a timeline. -/
theorem Reached.runTo (h : Reached role settings firstId w) (hnow : w.now ≤ horizon) :
    ∃ w', Reached role settings firstId w' ∧ w'.engine = (w.engine.runTo horizon).1 := by
  obtain ⟨w', h', hengine, hnow', hdue⟩ := h.expireUpTo hnow
    (ClockedEngine.pending_le_expiryBound h.prompt h.configured.2)
  refine ⟨_, h'.wait horizon hnow' hdue, ?_⟩
  rw [reset, hengine]
  rfl

/-- A task is handled, and what expires at once. -/
theorem Reached.submit (h : Reached role settings firstId w) (t : Task) (ht : t.expiry? = none) :
    ∃ w', Reached role settings firstId w' ∧
      w'.engine = (w.engine.submit t.peer t.event).1 :=
  (h.task t ht).runTo (Nat.le_refl _)

/-- Time passes. -/
theorem Reached.advance (h : Reached role settings firstId w) (time : Millis) :
    ∃ w', Reached role settings firstId w' ∧ w'.engine = (w.engine.advance time).1 :=
  h.runTo (Nat.le_add_right _ _)

end Timeline

end PathSession
