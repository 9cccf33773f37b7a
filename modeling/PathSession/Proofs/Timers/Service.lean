import Mathlib.Data.List.Induction
import Mathlib.Data.List.TakeWhile
import PathSession.Proofs.Timers.Deadlines
import PathSession.Timers.Service

/-!
# What a timer service fires

What a timer service fires up to a time follows from what it was asked for until then: a timer is
due as long after it was armed as was asked for, unless its token has been cancelled by then.  The
queue, the index of places and the wheel make no difference to that.

* `TimerService.Step`, `TimerService.run`: a service that is asked for things while time passes;
* `TimerLog`, `TimerLog.due`, `TimerLog.waiting`: the same without a service;
* `Schedule.Drained`, `Schedule.drained_advance`: what is due comes out of a schedule, and no more;
* `Schedule.Keeps`: what has fired and what waits are all that was booked and not cancelled;
* `TimerService.Run.Works`, `TimerService.works_run`: this holds of a service as long as it runs;
* `TimerService.fires_on_time`: what has fired, and what can still be cancelled.
-/

namespace PathSession

/-- What is booked with a timer service: a timer, and when it is due. -/
structure Booking where
  deadline : Millis
  timer : Timer
  deriving DecidableEq, Repr

/-- The booking that an alarm is for. -/
def Alarm.booking (a : Alarm) : Booking := { deadline := a.deadline, timer := a.timer }

/-- What a timer service goes through: it is asked for something, or time passes. -/
inductive TimerService.Step
  | request (r : TimerRequest)
  | advance (time : Millis)

/-! ### Records -/

/-- What was asked for, each with the time at which it was, and the time by now. -/
structure TimerLog where
  now : Millis
  requests : List (Millis × TimerRequest)

namespace TimerLog

/-- One more step. -/
def add (l : TimerLog) : TimerService.Step → TimerLog
  | .request r => { l with requests := l.requests ++ [(l.now, r)] }
  | .advance time => { l with now := l.now + time }

/-- The record of several steps. -/
def record (steps : List TimerService.Step) : TimerLog :=
  steps.foldl add { now := 0, requests := [] }

/-- What is booked by a request that is made at a time. -/
def booking? : Millis × TimerRequest → Option Booking
  | (time, .arm peer kind token after) => some ⟨time + after, { peer, kind, token }⟩
  | (_, .cancel _) => none

/-- All that was booked, in order. -/
def bookings (l : TimerLog) : List Booking := l.requests.filterMap booking?

/-- Whether the token of a booking was cancelled before it was due. -/
def cancels (l : TimerLog) (b : Booking) : Bool :=
  l.requests.any fun q => q.2 = .cancel b.timer.token ∧ q.1 < b.deadline

/-- The bookings that were not cancelled before they were due. -/
def standing (l : TimerLog) : List Booking := l.bookings.filter fun b => !l.cancels b

/-- Those that are due by now. -/
def due (l : TimerLog) : List Booking := l.standing.filter (·.deadline ≤ l.now)

/-- Those that are not due yet. -/
def waiting (l : TimerLog) : List Booking := l.standing.filter (l.now < ·.deadline)

/-- No token is armed twice, or cancelled before it is armed. -/
structure Orderly (l : TimerLog) : Prop where
  once : (l.bookings.map (·.timer.token)).Nodup
  armed_first : l.requests.Pairwise fun q q' => ∀ x ∈ q'.2.timer?, q.2 ≠ .cancel x.token

variable {l : TimerLog} {peer : PeerAddress} {kind : TimerKind} {token : TimerToken}
variable {after : Millis}

theorem record_concat (steps : List TimerService.Step) (x : TimerService.Step) :
    record (steps ++ [x]) = (record steps).add x := List.foldl_concat ..

theorem bookings_arm : (l.add (.request (.arm peer kind token after))).bookings =
    l.bookings ++ [⟨l.now + after, { peer, kind, token }⟩] := by
  simp [bookings, add, booking?]

theorem bookings_cancel : (l.add (.request (.cancel token))).bookings = l.bookings := by
  simp [bookings, add, booking?]

theorem standing_subset (l : TimerLog) : l.standing ⊆ l.bookings := List.filter_subset_self _

theorem due_sublist (l : TimerLog) : l.due.Sublist l.bookings :=
  List.filter_sublist.trans List.filter_sublist

/-- What was booked stays booked. -/
theorem bookings_sublist (l : TimerLog) (x : TimerService.Step) :
    l.bookings.Sublist (l.add x).bookings := by
  cases x with
  | request r => exact (List.sublist_append_left ..).filterMap _
  | advance time => exact List.Sublist.refl _

/-! ### Records in order -/

theorem Orderly.of_add {x : TimerService.Step} (h : (l.add x).Orderly) : l.Orderly where
  once := h.once.sublist ((l.bookings_sublist x).map _)
  armed_first := by
    cases x with
    | request r => exact h.armed_first.sublist (List.sublist_append_left ..)
    | advance time => exact h.armed_first

/-- A token that is armed was not armed before. -/
theorem Orderly.fresh (h : (l.add (.request (.arm peer kind token after))).Orderly) :
    ∀ b ∈ l.bookings, b.timer.token ≠ token := by
  intro b hb htoken
  have honce := h.once
  rw [bookings_arm, List.map_append] at honce
  exact (List.disjoint_of_nodup_append honce) (List.mem_map_of_mem hb)
    (htoken ▸ List.mem_singleton_self _)

/-- A token that is armed was not cancelled before. -/
theorem Orderly.untouched (h : (l.add (.request (.arm peer kind token after))).Orderly) :
    ∀ q ∈ l.requests, q.2 ≠ .cancel token := by
  intro q hq
  exact (List.pairwise_append.mp h.armed_first).2.2 q hq _ (List.mem_singleton_self _) _ rfl

theorem standing_arm (h : (l.add (.request (.arm peer kind token after))).Orderly) :
    (l.add (.request (.arm peer kind token after))).standing =
      l.standing ++ [⟨l.now + after, { peer, kind, token }⟩] := by
  have hcancels : (l.add (.request (.arm peer kind token after))).cancels = l.cancels := by
    funext b
    simp [cancels, add]
  have hnew : l.cancels ⟨l.now + after, { peer, kind, token }⟩ = false :=
    List.any_eq_false.mpr fun q hq => by simp [h.untouched q hq]
  simp [standing, bookings_arm, hcancels, hnew]

/-- A cancellation is of those only that are not due yet. -/
theorem standing_cancel : (l.add (.request (.cancel token))).standing =
    l.standing.filter fun b => ¬ (b.timer.token = token ∧ l.now < b.deadline) := by
  have hcancels : ∀ b, (l.add (.request (.cancel token))).cancels b =
      (l.cancels b || decide (b.timer.token = token ∧ l.now < b.deadline)) := by
    intro b
    simp [cancels, add, eq_comm (a := token)]
  rw [standing, bookings_cancel, standing, List.filter_filter]
  refine List.filter_congr fun b _ => ?_
  rw [hcancels, Bool.not_or, Bool.and_comm, decide_not]

end TimerLog

/-! ### Schedules -/

namespace Schedule

variable {Q : Type} [AlarmQueue Q] {s : Schedule Q}

/-- What is due at a time has come out of a schedule, in order, and the rest waits. -/
structure Drained (s : Schedule Q) (horizon : Millis) (due : List Alarm) (s' : Schedule Q) :
    Prop where
  now : s'.now = horizon
  whole : s'.broken = s.broken
  split : due ++ s'.queue = s.queue
  past : ∀ a ∈ due, a.deadline ≤ horizon
  later : ∀ a ∈ s'.queue, horizon < a.deadline

/-- Nothing is due. -/
theorem drained_rest {horizon : Millis} (hnone : ∀ a ∈ s.queue, horizon < a.deadline) :
    s.Drained horizon [] (s.rest horizon) :=
  ⟨rfl, rfl, queue_rest .., List.forall_mem_nil _, queue_rest s horizon ▸ hnone⟩

/-- As many alarms can be due as there are. -/
theorem drained_drain {horizon : Millis} {n : Nat} (hn : s.queue.length ≤ n) :
    s.Drained horizon (drain horizon n s).1 (drain horizon n s).2 := by
  induction n generalizing s with
  | zero =>
    refine drained_rest ?_
    rw [List.eq_nil_of_length_eq_zero (Nat.le_zero.mp hn)]
    exact List.forall_mem_nil _
  | succ n ih =>
    rw [drain]
    cases he : s.expire? horizon with
    | none => exact drained_rest (expire?_eq_none he)
    | some due =>
      obtain ⟨a, s'⟩ := due
      obtain ⟨hqueue, hdue, -, -, hwhole⟩ := expire?_eq_some he
      rw [hqueue, List.length_cons] at hn
      have hrest := ih (Nat.le_of_succ_le_succ hn)
      refine ⟨hrest.now, hrest.whole.trans hwhole, ?_, List.forall_mem_cons.mpr ⟨hdue, hrest.past⟩,
        hrest.later⟩
      rw [hqueue, ← hrest.split]
      rfl

theorem drained_advance (s : Schedule Q) (time : Millis) :
    s.Drained (s.now + time) (s.advance time).1 (s.advance time).2 := drained_drain le_rfl

theorem Sound.drain (h : s.Sound) {horizon : Millis} (n : Nat) :
    (drain horizon n s).2.Sound := by
  induction n generalizing s with
  | zero => exact h.rest horizon
  | succ n ih =>
    rw [Schedule.drain]
    cases he : s.expire? horizon with
    | none => exact h.rest horizon
    | some due => exact ih (h.expire he).1

/-- A schedule, what has fired and a record fit together: what has fired and what waits are the
bookings that stand, and what has fired was due and came in the order of deadlines. -/
structure Keeps (s : Schedule Q) (l : TimerLog) (fired : List Alarm) : Prop where
  now : s.now = l.now
  sound : s.Sound
  booked : ((fired ++ s.queue).map Alarm.booking).Perm l.standing
  sorted : fired.Pairwise (·.deadline ≤ ·.deadline)
  past : ∀ a ∈ fired, a.deadline ≤ l.now
  ahead : ∀ a ∈ s.queue, l.now ≤ a.deadline

theorem keeps_empty : (empty : Schedule Q).Keeps (.record []) [] := by
  refine ⟨rfl, sound_empty, ?_, .nil, List.forall_mem_nil _, ?_⟩
  · rw [queue_empty]
    exact .refl _
  · rw [queue_empty]
    exact List.forall_mem_nil _

namespace Keeps

variable {l : TimerLog} {fired : List Alarm} (h : s.Keeps l fired)
include h

/-- The queue holds bookings. -/
theorem booking_mem {a : Alarm} (ha : a ∈ s.queue) : a.booking ∈ l.bookings :=
  l.standing_subset (h.booked.subset (List.mem_map_of_mem (List.mem_append_right _ ha)))

theorem arm {peer : PeerAddress} {kind : TimerKind} {token : TimerToken} {after : Millis}
    (ho : (l.add (.request (.arm peer kind token after))).Orderly)
    (hb : (s.arm peer kind token after).broken = false) :
    (s.arm peer kind token after).Keeps (l.add (.request (.arm peer kind token after))) fired := by
  obtain ⟨place, -, hperm⟩ := perm_queue_arm hb
  have hnew : ∀ b ∈ s.queue, b.token ≠ token := fun b hb' => ho.fresh _ (h.booking_mem hb')
  refine ⟨(s.now_arm ..).trans h.now, (h.sound.arm peer kind after hnew hb).1, ?_, h.sorted, h.past,
    fun b hb' => ?_⟩
  · rw [TimerLog.standing_arm ho, ← h.now]
    refine ((hperm.append_left fired).map Alarm.booking).trans ?_
    refine (List.perm_middle.map Alarm.booking).trans ?_
    exact (h.booked.cons _).trans (List.perm_append_singleton _ _).symm
  · rcases List.mem_cons.mp (hperm.mem_iff.mp hb') with rfl | hb'
    · show l.now ≤ s.now + after
      rw [h.now]
      exact Nat.le_add_right ..
    · exact h.ahead b hb'

/-- A cancellation that comes when nothing is due takes its booking out of the queue. -/
theorem cancel (hstrict : ∀ a ∈ s.queue, l.now < a.deadline) (token : TimerToken) :
    (s.cancel token).Keeps (l.add (.request (.cancel token))) fired := by
  have hqueue := h.sound.queue_cancel token
  refine ⟨(s.now_cancel token).trans h.now, (h.sound.cancel token).1, ?_, h.sorted, h.past,
    fun a ha => h.ahead a ((s.queue_cancel_sublist token).subset ha)⟩
  rw [TimerLog.standing_cancel]
  refine (List.Perm.of_eq ?_).trans (h.booked.filter _)
  rw [List.filter_map, List.filter_append, hqueue]
  -- what has fired is due, and what waits is not
  congr 2
  · refine (List.filter_eq_self.mpr fun a ha => decide_eq_true ?_).symm
    exact fun hnot => Nat.not_lt_of_le (h.past a ha) hnot.2
  · refine List.filter_congr fun a ha => decide_eq_decide.mpr ?_
    exact not_congr ⟨fun htoken => ⟨htoken, hstrict a ha⟩, And.left⟩

/-- Time that passes fires what is due in it. -/
theorem advance (time : Millis) :
    (s.advance time).2.Keeps (l.add (.advance time)) (fired ++ (s.advance time).1) ∧
      ∀ a ∈ (s.advance time).2.queue, (l.add (.advance time)).now < a.deadline := by
  obtain ⟨hnow, -, hsplit, hpast, hlater⟩ := s.drained_advance time
  rw [h.now] at hnow hpast hlater
  have hsorted := s.sorted_queue
  rw [← hsplit] at hsorted
  refine ⟨⟨hnow, h.sound.drain _, ?_, ?_, fun a ha => ?_,
    fun a ha => Nat.le_of_lt (hlater a ha)⟩, hlater⟩
  · rw [List.append_assoc, hsplit]
    exact h.booked
  · refine List.pairwise_append.mpr ⟨h.sorted, (List.pairwise_append.mp hsorted).1, ?_⟩
    intro a ha b hb
    have hqueue : b ∈ s.queue := hsplit ▸ List.mem_append_left _ hb
    exact Nat.le_trans (h.past a ha) (h.ahead b hqueue)
  · rcases List.mem_append.mp ha with ha | ha
    · exact Nat.le_trans (h.past a ha) (Nat.le_add_right ..)
    · exact hpast a ha

/-! ### When nothing is due -/

section Strict

variable (hstrict : ∀ a ∈ s.queue, l.now < a.deadline)
include hstrict

theorem fired_due : (fired.map Alarm.booking).Perm l.due := by
  have hall := h.booked.filter fun b => b.deadline ≤ l.now
  have hfired : fired.filter ((fun b : Booking => decide (b.deadline ≤ l.now)) ∘ Alarm.booking) =
      fired := List.filter_eq_self.mpr fun a ha => decide_eq_true (h.past a ha)
  have hqueue : s.queue.filter ((fun b : Booking => decide (b.deadline ≤ l.now)) ∘ Alarm.booking) =
      [] := List.filter_eq_nil_iff.mpr fun a ha =>
        mt of_decide_eq_true (Nat.not_le_of_lt (hstrict a ha))
  rwa [List.filter_map, List.filter_append, hfired, hqueue, List.append_nil] at hall

theorem queue_waiting : (s.queue.map Alarm.booking).Perm l.waiting := by
  have hall := h.booked.filter fun b => l.now < b.deadline
  have hfired : fired.filter ((fun b : Booking => decide (l.now < b.deadline)) ∘ Alarm.booking) =
      [] := List.filter_eq_nil_iff.mpr fun a ha =>
        mt of_decide_eq_true (Nat.not_lt_of_le (h.past a ha))
  have hqueue : s.queue.filter ((fun b : Booking => decide (l.now < b.deadline)) ∘ Alarm.booking) =
      s.queue := List.filter_eq_self.mpr fun a ha => decide_eq_true (hstrict a ha)
  rwa [List.filter_map, List.filter_append, hfired, hqueue, List.nil_append] at hall

/-- The tokens that can be found are those of the bookings that wait. -/
theorem contains_iff_waiting (token : TimerToken) :
    s.places.contains token = true ↔ ∃ b ∈ l.waiting, b.timer.token = token := by
  rw [contains_places_iff h.sound]
  constructor
  · rintro ⟨x, hx, htoken⟩
    obtain ⟨a, ha, rfl⟩ := List.mem_map.mp hx
    exact ⟨a.booking, (h.queue_waiting hstrict).subset (List.mem_map_of_mem ha), htoken⟩
  · rintro ⟨b, hb, htoken⟩
    obtain ⟨a, ha, rfl⟩ := List.mem_map.mp ((h.queue_waiting hstrict).symm.subset hb)
    exact ⟨a.timer, List.mem_map_of_mem ha, htoken⟩

end Strict

end Keeps

/-- Where nothing is due, nothing is taken out until time passes. -/
theorem advance_zero (h : ∀ a ∈ s.queue, s.now < a.deadline) :
    (s.advance 0).1 = [] ∧ (s.advance 0).2.queue = s.queue := by
  obtain ⟨-, -, hsplit, hpast, -⟩ := s.drained_advance 0
  have hnone : (s.advance 0).1 = [] := by
    refine List.eq_nil_iff_forall_not_mem.mpr fun a ha => ?_
    exact Nat.not_le_of_lt (h a (hsplit ▸ List.mem_append_left _ ha)) (hpast a ha)
  refine ⟨hnone, ?_⟩
  rwa [hnone] at hsplit

end Schedule

/-! ### Services -/

namespace TimerService

/-- A service and what it has fired so far. -/
structure Run (Q : Type) where
  service : TimerService Q
  fired : List Alarm

variable {Q : Type} [AlarmQueue Q]

namespace Run

/-- The run after the service has answered. -/
def after (r : Run Q) (answer : TimerService Q × List Alarm × Journal) : Run Q :=
  { service := answer.1, fired := r.fired ++ answer.2.1 }

/-- One more step. -/
def step (r : Run Q) : Step → Run Q
  | .request q => r.after (r.service.request q)
  | .advance time => r.after (r.service.advance time)

end Run

/-- A service that has just started, after several steps. -/
def run (steps : List Step) : Run Q := steps.foldl Run.step { service := .start, fired := [] }

theorem run_concat (steps : List Step) (x : Step) :
    (run (steps ++ [x]) : Run Q) = (run steps).step x :=
  List.foldl_concat ..

namespace Run

variable {r : Run Q} {l : TimerLog} {q : TimerRequest}

/-- A service that has stopped does not start again. -/
theorem running_of_step {x : Step} (h : (r.step x).service.running = true) :
    r.service.running = true := by
  by_contra hstop
  cases x <;> simp [step, after, TimerService.request, TimerService.advance, hstop] at h

/-- A service stops when its schedule breaks. -/
theorem whole_of_step (hrun : r.service.running = true)
    (h : (r.step (.request q)).service.running = true) :
    (r.service.schedule.apply q).broken = false := by
  by_contra hb
  rw [Bool.not_eq_false] at hb
  simp [step, after, TimerService.request, hrun, hb] at h

section Step

variable (hrun : r.service.running = true) (hattended : r.service.attended = true)
include hrun hattended

theorem step_advance (time : Millis) : r.step (.advance time) =
    { service := { r.service with schedule := (r.service.schedule.advance time).2 }
      fired := r.fired ++ (r.service.schedule.advance time).1 } := by
  simp [step, after, TimerService.advance, hrun, hattended]

/-- A service does what it is asked for, and fires what is due at once. -/
theorem step_request (hb : (r.service.schedule.apply q).broken = false) : r.step (.request q) =
    { service := { r.service with schedule := ((r.service.schedule.apply q).advance 0).2 }
      fired := r.fired ++ ((r.service.schedule.apply q).advance 0).1 } := by
  simp [step, after, TimerService.request, TimerService.advance, hrun, hb, hattended]

end Step

/-- A service that runs and fits a record, and holds nothing that is due. -/
structure Works (r : Run Q) (l : TimerLog) : Prop where
  running : r.service.running = true
  attended : r.service.attended = true
  whole : r.service.schedule.broken = false
  keeps : r.service.schedule.Keeps l r.fired
  later : ∀ a ∈ r.service.schedule.queue, l.now < a.deadline

namespace Works

variable (h : r.Works l)
include h

theorem advance (time : Millis) : (r.step (.advance time)).Works (l.add (.advance time)) := by
  obtain ⟨hkeeps, hlater⟩ := h.keeps.advance time
  rw [step_advance h.running h.attended]
  exact ⟨h.running, h.attended, (Schedule.drained_advance _ time).whole.trans h.whole, hkeeps,
    hlater⟩

theorem request (ho : (l.add (.request q)).Orderly)
    (hb : (r.service.schedule.apply q).broken = false) :
    (r.step (.request q)).Works (l.add (.request q)) := by
  have happly : (r.service.schedule.apply q).Keeps (l.add (.request q)) r.fired := by
    cases q with
    | arm peer kind token after => exact h.keeps.arm ho hb
    | cancel token => exact h.keeps.cancel h.later token
  obtain ⟨hkeeps, hlater⟩ := happly.advance 0
  rw [step_request h.running h.attended hb]
  exact ⟨h.running, h.attended, (Schedule.drained_advance _ 0).whole.trans hb, hkeeps, hlater⟩

/-- A cancellation fires nothing and takes out its own alarm only. -/
theorem cancel (token : TimerToken) :
    let t := r.step (.request (.cancel token))
    t.service.running = true ∧ t.fired = r.fired ∧
      t.service.schedule.queue = r.service.schedule.queue.filter (·.token ≠ token) := by
  have hkeeps := h.keeps.cancel h.later token
  have hqueue := h.keeps.sound.queue_cancel token
  have hb := (r.service.schedule.broken_cancel token).trans h.whole
  obtain ⟨hnone, hleft⟩ := (r.service.schedule.cancel token).advance_zero fun a ha => by
    rw [hqueue] at ha
    rw [hkeeps.now]
    exact h.later a (List.mem_of_mem_filter ha)
  intro t
  rw [show t = _ from step_request h.running h.attended hb]
  exact ⟨h.running, (congrArg _ hnone).trans (List.append_nil _), hleft.trans hqueue⟩

end Works

end Run

/-- As long as a service runs, it fits the record of its steps. -/
theorem works_run (steps : List Step) (hrun : (run steps : Run Q).service.running = true)
    (ho : (TimerLog.record steps).Orderly) : (run steps : Run Q).Works (.record steps) := by
  induction steps using List.reverseRecOn with
  | nil =>
    refine ⟨rfl, rfl, rfl, Schedule.keeps_empty, fun a ha => ?_⟩
    rw [show (run [] : Run Q).service.schedule.queue = [] from Schedule.queue_empty] at ha
    cases ha
  | append_singleton steps x ih =>
    rw [TimerLog.record_concat] at ho ⊢
    rw [run_concat] at hrun ⊢
    have hworks := ih (Run.running_of_step hrun) ho.of_add
    cases x with
    | request q => exact hworks.request ho (Run.whole_of_step hworks.running hrun)
    | advance time => exact hworks.advance time

/-- A service that is never asked for anything out of reach goes on running. -/
theorem running_run (steps : List Step)
    (hreach : ∀ b ∈ (TimerLog.record steps).bookings, b.deadline ≤ Wheel.reach) :
    let r : Run Q := run steps
    r.service.running = true ∧ r.service.attended = true ∧ r.service.schedule.broken = false ∧
      r.service.schedule.now = (TimerLog.record steps).now := by
  induction steps using List.reverseRecOn with
  | nil => exact ⟨rfl, rfl, rfl, rfl⟩
  | append_singleton steps x ih =>
    rw [TimerLog.record_concat] at hreach ⊢
    rw [run_concat]
    obtain ⟨hrun, hattended, hb, hnow⟩ := ih fun b hb =>
      hreach b ((TimerLog.bookings_sublist _ x).subset hb)
    cases x with
    | request q =>
      have hb' := Schedule.broken_apply_of_reach hb (r := q) fun peer kind token after hq => by
        rw [hnow]
        exact hreach ⟨_, { peer, kind, token }⟩
          (List.mem_filterMap.mpr ⟨_, List.mem_concat_self, by rw [hq]; rfl⟩)
      have hdrained := ((run steps : Run Q).service.schedule.apply q).drained_advance 0
      rw [Run.step_request hrun hattended hb']
      exact ⟨hrun, hattended, hdrained.whole.trans hb',
        hdrained.now.trans ((Schedule.now_apply q).trans hnow)⟩
    | advance time =>
      have hdrained := Schedule.drained_advance (run steps : Run Q).service.schedule time
      rw [Run.step_advance hrun hattended]
      exact ⟨hrun, hattended, hdrained.whole.trans hb,
        hdrained.now.trans (congrArg (· + time) hnow)⟩

/-- **Timers fire once, in order and on time.**  Whatever queue its alarms wait in, a service goes
on running if it is asked for nothing out of reach.  As long as it runs it has fired exactly the
bookings that were due and not cancelled before that, each once and the earlier ones first.  Those
that are not due yet wait, and theirs are the tokens it can find.  Cancelling a token fires nothing
and takes out its own timer only, and nothing at all if no timer waits under it. -/
theorem fires_on_time (steps : List Step) (ho : (TimerLog.record steps).Orderly) :
    let l := TimerLog.record steps
    let r : Run Q := run steps
    ((∀ b ∈ l.bookings, b.deadline ≤ Wheel.reach) → r.service.running = true) ∧
      (r.service.running = true →
        (r.fired.map Alarm.booking).Perm l.due ∧
        (r.fired.map Alarm.deadline).Pairwise (· ≤ ·) ∧
        ((l.bookings.map Booking.deadline).Nodup →
          (r.fired.map Alarm.deadline).Pairwise (· < ·)) ∧
        (r.service.schedule.queue.map Alarm.booking).Perm l.waiting ∧
        (∀ token, r.service.schedule.places.contains token = true ↔
          ∃ b ∈ l.waiting, b.timer.token = token) ∧
        ∀ token, let t := r.step (.request (.cancel token))
          t.service.running = true ∧ t.fired = r.fired ∧
            t.service.schedule.queue = r.service.schedule.queue.filter (·.token ≠ token) ∧
            ((∀ b ∈ l.waiting, b.timer.token ≠ token) →
              t.service.schedule.queue = r.service.schedule.queue)) := by
  intro l r
  refine ⟨fun hreach => (running_run (Q := Q) steps hreach).1, fun hrun => ?_⟩
  have hworks : r.Works l := works_run steps hrun ho
  have hfired := hworks.keeps.fired_due hworks.later
  have hwaiting := hworks.keeps.queue_waiting hworks.later
  have hsorted : (r.fired.map Alarm.deadline).Pairwise (· ≤ ·) :=
    List.pairwise_map.mpr hworks.keeps.sorted
  refine ⟨hfired, hsorted, fun hdistinct => ?_, hwaiting,
    hworks.keeps.contains_iff_waiting hworks.later, fun token => ?_⟩
  · have hnodup : (r.fired.map Alarm.deadline).Nodup := by
      have hdue := hdistinct.sublist (l.due_sublist.map _)
      rw [← (hfired.map _).nodup_iff, List.map_map] at hdue
      exact hdue
    exact hsorted.imp₂ (fun _ _ hle hne => Nat.lt_of_le_of_ne hle hne) hnodup
  · obtain ⟨hrunning, hnone, hqueue⟩ := hworks.cancel token
    refine ⟨hrunning, hnone, hqueue, fun habsent => hqueue.trans ?_⟩
    refine List.filter_eq_self.mpr fun a ha => decide_eq_true ?_
    exact habsent _ (hwaiting.subset (List.mem_map_of_mem ha))

/-- Of three timers one is cancelled before it is due.  Cancelling another that has fired, or a
token that was never armed, changes nothing. -/
theorem fires_on_time_twice :
    let peer : PeerAddress := .v4 ⟨10, 0, 0, 1⟩ 4189
    let steps : List Step :=
      [.request (.arm peer .openWait 1 60000), .request (.arm peer .keepAlive 2 30000),
        .request (.cancel 9), .advance 30000, .request (.cancel 2),
        .request (.arm peer .deadTimer 3 120000), .request (.cancel 3), .advance 60000]
    let r : Run WheelQueue := run steps
    (TimerLog.record steps).Orderly ∧ r.service.running = true ∧
      r.fired.map Alarm.booking =
        [⟨30000, peer, .keepAlive, 2⟩, ⟨60000, peer, .openWait, 1⟩] ∧
      (r.fired.map Alarm.booking).Perm (TimerLog.record steps).due ∧
      ∀ token, r.service.schedule.places.contains token = false := by
  intro peer steps r
  have horderly : (TimerLog.record steps).Orderly := ⟨by decide, by decide⟩
  obtain ⟨hreach, hfires⟩ := fires_on_time (Q := WheelQueue) steps horderly
  have hrun := hreach (by decide)
  obtain ⟨hperm, -, -, -, hcontains, -⟩ := hfires hrun
  have hwaiting : (TimerLog.record steps).waiting = [] := by decide +kernel
  refine ⟨horderly, hrun, by decide +kernel, hperm, fun token => ?_⟩
  rw [← Bool.not_eq_true, hcontains, hwaiting]
  exact nofun

end TimerService

end PathSession
