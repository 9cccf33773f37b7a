import PathSession.PeerAddress.Basic
import PathSession.Session.State
import PathSession.Timers.Wheel

/-!
# Queues of alarms

Timers wait for their deadlines in a queue.  What a node needs of one is little: what waits comes
out at its deadline, the soonest first, and what is taken out does not come any more.  How soon two
alarms with one deadline come out, and how far ahead an alarm may be put, is up to the queue.

* `Timer`, `Alarm`: what waits;
* `AlarmQueue`: what a queue does, and what is relied on;
* `WheelQueue`: the queue that follows a wheel.
-/

namespace PathSession

/-- An armed timer, whenever it is due. -/
structure Timer where
  peer : PeerAddress
  kind : TimerKind
  token : TimerToken
  deriving DecidableEq, Repr

/-- A timer that waits for its deadline.  The place tells it from all others that wait. -/
structure Alarm where
  deadline : Millis
  place : Nat
  peer : PeerAddress
  kind : TimerKind
  token : TimerToken
  deriving DecidableEq, Repr

/-- The timer of an alarm. -/
def Alarm.timer (a : Alarm) : Timer := { peer := a.peer, kind := a.kind, token := a.token }

/-- The alarm of a timer. -/
def Timer.alarm (x : Timer) (deadline : Millis) (place : Nat) : Alarm :=
  { deadline, place, peer := x.peer, kind := x.kind, token := x.token }

@[simp] theorem Timer.timer_alarm (x : Timer) (deadline : Millis) (place : Nat) :
    (x.alarm deadline place).timer = x := rfl

/-- A queue of alarms, with what is relied on.  An alarm within reach of the time 0 can always be
put in; one that is further ahead may be too much for the queue. -/
class AlarmQueue (Q : Type) where
  empty : Q
  /-- put in a timer with its deadline, if that is near enough -/
  insert? : Q → Millis → Timer → Option (Nat × Q)
  /-- take out the alarm at a place -/
  remove : Q → Nat → Q
  /-- take out the soonest alarm, if it is due at a time -/
  next? : Q → Millis → Option (Alarm × Q)
  /-- let time pass up to a time before which nothing is due -/
  wait : Q → Millis → Q
  /-- the alarms that wait, in the order in which they come out -/
  toList : Q → List Alarm
  sorted (q : Q) : (toList q).Pairwise (·.deadline ≤ ·.deadline)
  distinct (q : Q) : ((toList q).map Alarm.place).Nodup
  toList_empty : toList empty = []
  insert?_isSome (q : Q) {deadline : Millis} (x : Timer) (h : deadline ≤ Wheel.reach) :
    (insert? q deadline x).isSome = true
  perm_of_insert? {q q' : Q} {deadline : Millis} {x : Timer} {place : Nat}
    (h : insert? q deadline x = some (place, q')) :
    (toList q').Perm (x.alarm deadline place :: toList q)
  toList_remove (q : Q) (place : Nat) :
    toList (remove q place) = (toList q).filter (·.place ≠ place)
  of_next?_eq_some {q q' : Q} {horizon : Millis} {a : Alarm}
    (h : next? q horizon = some (a, q')) : toList q = a :: toList q' ∧ a.deadline ≤ horizon
  of_next?_eq_none {q : Q} {horizon : Millis} (h : next? q horizon = none) :
    ∀ a ∈ toList q, horizon < a.deadline
  toList_wait (q : Q) (horizon : Millis) : toList (wait q horizon) = toList q

/-- The waiting alarms, soonest first, and the wheel that they hang on. -/
structure WheelQueue where
  alarms : List Alarm
  nextPlace : Nat
  wheel : Wheel
  sorted : alarms.Pairwise (·.deadline ≤ ·.deadline)
  distinct : (alarms.map Alarm.place).Nodup
  below : ∀ a ∈ alarms, a.place < nextPlace

namespace WheelQueue

/-- No alarm at all. -/
def empty : WheelQueue :=
  { alarms := [], nextPlace := 0, wheel := {}
    sorted := .nil, distinct := .nil, below := nofun }

/-- The deadline of the first alarm. -/
def first? : List Alarm → Option Millis
  | [] => none
  | a :: _ => some a.deadline

/-- Put an alarm between those that are earlier and those that are later.  With `ahead` it goes
in front of those with the same deadline, else behind them. -/
def enqueue (ahead : Bool) (alarms : List Alarm) (a : Alarm) : List Alarm :=
  let goesBefore (b : Alarm) : Bool :=
    if ahead then b.deadline < a.deadline else b.deadline ≤ a.deadline
  alarms.takeWhile goesBefore ++ a :: alarms.dropWhile goesBefore

theorem perm_enqueue (ahead : Bool) (alarms : List Alarm) (a : Alarm) :
    (enqueue ahead alarms a).Perm (a :: alarms) := by
  unfold enqueue
  refine List.perm_middle.trans (List.Perm.cons a ?_)
  rw [List.takeWhile_append_dropWhile]

/-- A timer is put behind those that are due earlier and before those that are due later. -/
theorem sorted_enqueue (ahead : Bool) {alarms : List Alarm}
    (h : alarms.Pairwise (·.deadline ≤ ·.deadline)) (a : Alarm) :
    (enqueue ahead alarms a).Pairwise (·.deadline ≤ ·.deadline) := by
  unfold enqueue
  simp only
  generalize hbefore :
    (fun b : Alarm => if ahead then decide (b.deadline < a.deadline)
      else decide (b.deadline ≤ a.deadline)) = before
  have hearlier : ∀ b, before b = true → b.deadline ≤ a.deadline := by
    intro b hb
    rw [← hbefore] at hb
    cases ahead with
    | true => exact Nat.le_of_lt (of_decide_eq_true hb)
    | false => exact of_decide_eq_true hb
  have hlater : ∀ b, ¬ before b = true → a.deadline ≤ b.deadline := by
    intro b hb
    rw [← hbefore] at hb
    cases ahead with
    | true => exact Nat.le_of_not_lt fun hlt => hb (decide_eq_true hlt)
    | false => exact Nat.le_of_not_le fun hle => hb (decide_eq_true hle)
  induction alarms with
  | nil => exact List.pairwise_singleton ..
  | cons b alarms ih =>
    obtain ⟨hb, halarms⟩ := List.pairwise_cons.mp h
    by_cases hgoes : before b = true
    · rw [List.takeWhile_cons_of_pos hgoes, List.dropWhile_cons_of_pos hgoes, List.cons_append,
        List.pairwise_cons]
      refine ⟨fun c hc => ?_, ih halarms⟩
      rcases List.mem_append.mp hc with hc | hc
      · exact hb c ((List.takeWhile_sublist _).subset hc)
      · rcases List.mem_cons.mp hc with rfl | hc
        · exact hearlier b hgoes
        · exact hb c ((List.dropWhile_sublist _).subset hc)
    · rw [List.takeWhile_cons_of_neg hgoes, List.dropWhile_cons_of_neg hgoes, List.nil_append,
        List.pairwise_cons]
      refine ⟨fun c hc => ?_, h⟩
      rcases List.mem_cons.mp hc with rfl | hc
      · exact hlater _ hgoes
      · exact Nat.le_trans (hlater b hgoes) (hb c hc)

/-- Put in a timer.  The slots of the wheel are stacks, and each level that their alarms come down
turns them over: an alarm goes ahead of the others with its deadline if its level is even. -/
def insert (q : WheelQueue) (deadline : Millis) (x : Timer) : WheelQueue :=
  let ahead := q.wheel.level deadline % 2 = 0
  let a := x.alarm deadline q.nextPlace
  have hperm := perm_enqueue ahead q.alarms a
  { alarms := enqueue ahead q.alarms a
    nextPlace := q.nextPlace + 1
    wheel := q.wheel.expect deadline
    sorted := sorted_enqueue ahead q.sorted a
    distinct := by
      rw [(hperm.map Alarm.place).nodup_iff, List.map_cons, List.nodup_cons]
      refine ⟨fun hplace => ?_, q.distinct⟩
      obtain ⟨b, hb, heq⟩ := List.mem_map.mp hplace
      exact Nat.ne_of_lt (q.below b hb) heq
    below := by
      intro b hb
      rcases List.mem_cons.mp (hperm.mem_iff.mp hb) with rfl | hb
      · exact Nat.lt_succ_self _
      · exact Nat.lt_succ_of_lt (q.below b hb) }

/-- Put in a timer if the wheel reaches its deadline. -/
def insert? (q : WheelQueue) (deadline : Millis) (x : Timer) : Option (Nat × WheelQueue) :=
  if q.wheel.reaches deadline then some (q.nextPlace, q.insert deadline x) else none

/-- Keep some of the alarms. -/
def keep (q : WheelQueue) (wheel : Wheel) (alarms : List Alarm) (h : alarms.Sublist q.alarms) :
    WheelQueue :=
  { alarms
    nextPlace := q.nextPlace
    wheel
    sorted := q.sorted.sublist h
    distinct := q.distinct.sublist (h.map _)
    below := fun a ha => q.below a (h.subset ha) }

/-- Take out the alarm at a place. -/
def remove (q : WheelQueue) (place : Nat) : WheelQueue :=
  let rest := q.alarms.filter (·.place ≠ place)
  q.keep (q.wheel.forget (first? q.alarms) (first? rest)) rest List.filter_sublist

/-- Take out the soonest alarm if it is due at a time. -/
def next? (q : WheelQueue) (horizon : Millis) : Option (Alarm × WheelQueue) :=
  match q.alarms.head? with
  | none => none
  | some a =>
    if a.deadline ≤ horizon then
      let rest := q.alarms.tail
      some (a, q.keep (q.wheel.fire a.deadline (first? rest)) rest (List.tail_sublist _))
    else
      none

/-- Let time pass up to a time before which nothing is due. -/
def wait (q : WheelQueue) (horizon : Millis) : WheelQueue :=
  { q with wheel := q.wheel.wait (first? q.alarms) horizon }

instance : AlarmQueue WheelQueue where
  empty := empty
  insert? := insert?
  remove := remove
  next? := next?
  wait := wait
  toList := alarms
  sorted := sorted
  distinct := distinct
  toList_empty := rfl
  insert?_isSome q {deadline} x h := by
    have hreaches : q.wheel.reaches deadline = true :=
      decide_eq_true (Nat.le_trans (Nat.sub_le ..) h)
    rw [insert?, if_pos hreaches]
    rfl
  perm_of_insert? {q q' deadline x place} h := by
    unfold insert? at h
    split at h
    · cases h
      exact perm_enqueue ..
    · cases h
  toList_remove _ _ := rfl
  of_next?_eq_some {q q' horizon a} h := by
    unfold next? at h
    split at h
    · cases h
    · rename_i b hhead
      split at h
      · rename_i hdue
        cases h
        obtain ⟨rest, hrest⟩ := List.head?_eq_some_iff.mp hhead
        have htail : rest = q.alarms.tail := by rw [hrest, List.tail_cons]
        exact ⟨hrest.trans (congrArg (a :: ·) htail), hdue⟩
      · cases h
  of_next?_eq_none {q horizon} h := by
    intro a ha
    unfold next? at h
    split at h
    · rename_i hhead
      rw [List.head?_eq_none_iff.mp hhead] at ha
      cases ha
    · rename_i b hhead
      split at h
      · cases h
      · rename_i hlate
        obtain ⟨rest, hrest⟩ := List.head?_eq_some_iff.mp hhead
        have hsorted := q.sorted
        rw [hrest] at hsorted ha
        have hfirst := (List.pairwise_cons.mp hsorted).1
        rcases List.mem_cons.mp ha with rfl | ha
        · exact Nat.lt_of_not_le hlate
        · exact Nat.lt_of_lt_of_le (Nat.lt_of_not_le hlate) (hfirst a ha)
  toList_wait _ _ := rfl

end WheelQueue

end PathSession
