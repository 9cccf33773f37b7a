import Mathlib.Data.List.Count
import PathSession.Proofs.Timers.Schedule

/-!
# When the timers of a schedule are due

A timer is due as long after it was armed as was asked for.  The soonest comes out first, so as long
as the clock stops at every deadline, none is ever behind it.  And as long as no timer is asked for
that is due too late, the schedule stays whole.

* `Schedule.deadlines`: when the timers of a peer and a kind are due;
* `Schedule.deadline_of_apply`: a deadline is counted from the time of the request;
* `Schedule.broken_foldl_of_reach`: requests within reach leave the schedule whole;
* `Schedule.Lapsed`: once it has broken it holds nothing;
* `Schedule.Prompt`: nothing is overdue, with one lemma for each thing that a schedule does.
-/

namespace PathSession

namespace Schedule

variable {Q : Type} [AlarmQueue Q] {s : Schedule Q}

/-- When the timers of a peer and a kind are due, soonest first. -/
def deadlines (s : Schedule Q) (peer : PeerAddress) (kind : TimerKind) : List Millis :=
  (s.queue.filter fun a => a.peer = peer ∧ a.kind = kind).map Alarm.deadline

/-- A timer that is the only one of its kind that its peer has. -/
theorem deadlines_eq_singleton (hdistinct : (s.timers.map Timer.token).Nodup) {a : Alarm}
    (ha : a ∈ s.queue)
    (honly : ∀ b ∈ s.queue, b.peer = a.peer → b.kind = a.kind → b.token = a.token) :
    s.deadlines a.peer a.kind = [a.deadline] := by
  rw [timers, List.map_map] at hdistinct
  have hself : s.queue.filter (fun b => b.peer = a.peer ∧ b.kind = a.kind) =
      s.queue.filter (· = a) := by
    refine List.filter_congr fun b hb => decide_eq_decide.mpr ⟨fun h => ?_, fun h => ?_⟩
    · exact List.inj_on_of_nodup_map hdistinct hb ha (honly b hb h.1 h.2)
    · rw [h]
      exact ⟨rfl, rfl⟩
  rw [deadlines, hself, List.filter_eq, List.count_eq_one_of_mem (List.Nodup.of_map _ hdistinct) ha]
  rfl

/-! ### Requests -/

theorem now_arm (s : Schedule Q) (peer : PeerAddress) (kind : TimerKind) (token : TimerToken)
    (after : Millis) : (s.arm peer kind token after).now = s.now := by
  unfold arm
  split
  · rfl
  · split <;> rfl

theorem now_cancel (s : Schedule Q) (token : TimerToken) : (s.cancel token).now = s.now := by
  unfold cancel
  split <;> rfl

theorem now_apply (r : TimerRequest) : (s.apply r).now = s.now := by
  cases r with
  | arm peer kind token after => exact s.now_arm peer kind token after
  | cancel token => exact s.now_cancel token

theorem now_foldl_apply (requests : List TimerRequest) : (requests.foldl apply s).now = s.now := by
  induction requests generalizing s with
  | nil => rfl
  | cons r requests ih => rw [List.foldl_cons, ih, now_apply]

/-- A timer that waits after a request waited before, or is the one that was asked for. -/
theorem mem_queue_apply {r : TimerRequest} {a : Alarm} (ha : a ∈ (s.apply r).queue) :
    a ∈ s.queue ∨ ∃ after, r = .arm a.peer a.kind a.token after ∧ a.deadline = s.now + after := by
  cases r with
  | arm peer kind token after =>
    rcases s.arm_cases peer kind token after with
      ⟨-, hsame⟩ | ⟨place, -, -, hperm⟩ | ⟨-, hqueue, -⟩
    · exact .inl (hsame ▸ ha)
    · rcases List.mem_cons.mp (hperm.mem_iff.mp ha) with rfl | ha
      · exact .inr ⟨after, rfl, rfl⟩
      · exact .inl ha
    · rw [apply, hqueue] at ha
      cases ha
  | cancel token => exact .inl ((s.queue_cancel_sublist token).subset ha)

/-- A deadline is counted from the time of the request. -/
theorem deadline_of_apply {requests : List TimerRequest} {a : Alarm}
    (ha : a ∈ (requests.foldl apply s).queue) :
    a ∈ s.queue ∨ ∃ after, .arm a.peer a.kind a.token after ∈ requests ∧
      a.deadline = s.now + after := by
  induction requests generalizing s with
  | nil => exact .inl ha
  | cons r requests ih =>
    rcases ih ha with hqueue | ⟨after, hmem, hdeadline⟩
    · rcases mem_queue_apply hqueue with hqueue | ⟨after, rfl, hdeadline⟩
      · exact .inl hqueue
      · exact .inr ⟨after, List.mem_cons_self, hdeadline⟩
    · rw [now_apply] at hdeadline
      exact .inr ⟨after, List.mem_cons_of_mem _ hmem, hdeadline⟩

/-- A request for a timer within reach leaves a whole schedule so. -/
theorem broken_apply_of_reach (hb : s.broken = false) {r : TimerRequest}
    (hreach : ∀ peer kind token after, r = .arm peer kind token after →
      s.now + after ≤ Wheel.reach) : (s.apply r).broken = false := by
  cases r with
  | arm peer kind token after =>
    rcases s.arm_cases peer kind token after with ⟨hbroken, -⟩ | ⟨place, hwhole, -⟩ | ⟨-, -, hfar⟩
    · rw [hb] at hbroken
      cases hbroken
    · exact hwhole
    · exact absurd (hreach _ _ _ _ rfl) (Nat.not_le_of_lt hfar)
  | cancel token => exact (broken_cancel token).trans hb

theorem broken_foldl_of_reach (hb : s.broken = false) {requests : List TimerRequest}
    (hreach : ∀ peer kind token after, .arm peer kind token after ∈ requests →
      s.now + after ≤ Wheel.reach) : (requests.foldl apply s).broken = false := by
  induction requests generalizing s with
  | nil => exact hb
  | cons r requests ih =>
    refine ih (broken_apply_of_reach hb fun peer kind token after hr => ?_)
      fun peer kind token after harm => ?_
    · exact hreach peer kind token after (hr ▸ List.mem_cons_self)
    · rw [now_apply]
      exact hreach peer kind token after (List.mem_cons_of_mem _ harm)

/-! ### A broken schedule -/

/-- A schedule that has broken holds nothing. -/
def Lapsed (s : Schedule Q) : Prop := s.broken = true → s.queue = []

theorem lapsed_empty : Lapsed (empty : Schedule Q) := fun _ => queue_empty

namespace Lapsed

variable (h : s.Lapsed)
include h

theorem apply (r : TimerRequest) : (s.apply r).Lapsed := by
  intro hb
  cases r with
  | arm peer kind token after =>
    rcases s.arm_cases peer kind token after with
      ⟨hbroken, hsame⟩ | ⟨place, hwhole, -⟩ | ⟨-, hqueue, -⟩
    · rw [Schedule.apply, hsame]
      exact h hbroken
    · exact absurd (hwhole.symm.trans hb) Bool.false_ne_true
    · exact hqueue
  | cancel token =>
    rw [Schedule.apply, broken_cancel] at hb
    exact List.sublist_nil.mp (h hb ▸ s.queue_cancel_sublist token)

theorem expire {horizon : Millis} {a : Alarm} {s' : Schedule Q}
    (he : s.expire? horizon = some (a, s')) : s'.Lapsed := by
  obtain ⟨hqueue, -, -, -, hbroken⟩ := expire?_eq_some he
  intro hb
  rw [h (hbroken ▸ hb)] at hqueue
  cases hqueue

theorem rest (horizon : Millis) : (s.rest horizon).Lapsed :=
  fun hb => (s.queue_rest horizon).trans (h hb)

end Lapsed

/-! ### Nothing is overdue -/

/-- No timer is overdue. -/
def Prompt (s : Schedule Q) : Prop := ∀ a ∈ s.queue, s.now ≤ a.deadline

theorem prompt_empty : Prompt (empty : Schedule Q) := by
  rw [Prompt, queue_empty]
  exact List.forall_mem_nil _

/-- Time passes up to the soonest deadline at most. -/
theorem prompt_rest {horizon : Millis} (hdue : ∀ a ∈ s.queue, horizon ≤ a.deadline) :
    (s.rest horizon).Prompt := by
  intro a ha
  rw [queue_rest] at ha
  exact hdue a ha

namespace Prompt

variable (h : s.Prompt)
include h

theorem apply (r : TimerRequest) : (s.apply r).Prompt := by
  intro a ha
  rw [now_apply]
  rcases mem_queue_apply ha with ha | ⟨after, -, hdeadline⟩
  · exact h a ha
  · rw [hdeadline]
    exact Nat.le_add_right ..

/-- The clock stops at the deadline of the soonest timer, and the others are not overdue then. -/
theorem expire {horizon : Millis} {a : Alarm} {s' : Schedule Q}
    (he : s.expire? horizon = some (a, s')) :
    s'.Prompt ∧ s'.now = a.deadline ∧ s.queue = a :: s'.queue := by
  obtain ⟨hqueue, -, hnow, -⟩ := expire?_eq_some he
  have hsorted := s.sorted_queue
  rw [hqueue] at hsorted
  have hdeadline : s'.now = a.deadline := by
    rw [hnow]
    exact Nat.max_eq_right (h a (by rw [hqueue]; exact List.mem_cons_self))
  refine ⟨fun b hb => ?_, hdeadline, hqueue⟩
  rw [hdeadline]
  exact (List.pairwise_cons.mp hsorted).1 b hb

end Prompt

end Schedule

end PathSession
