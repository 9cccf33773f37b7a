import Mathlib.Data.List.Nodup
import Mathlib.Data.List.Perm.Basic
import PathSession.Timers.Schedule

/-!
# What a schedule holds

To those who ask for timers a schedule is a list of timers: arming adds one, cancelling takes out
those with the token.  The queue, its order and the index of places make no difference to that, as
long as no token is armed twice and nothing is armed too far ahead.

* `Schedule.timers`: what is held;
* `TimerRequest.after`, `TimerRequest.scheduled`: what requests make of a list of timers;
* `Schedule.arm_cases`: what arming a timer does;
* `Schedule.Sound`: the queue and the index of places fit together;
* `Schedule.apply_after`, `Schedule.apply_scheduled`: a schedule does what requests ask of it;
* `Schedule.Sound.expire`: the soonest timer is taken out.
-/

namespace PathSession

/-! ### Requests and lists of timers -/

namespace TimerRequest

/-- The timers after a request. -/
def after (timers : List Timer) : TimerRequest → List Timer
  | arm peer kind token _ => timers ++ [{ peer, kind, token }]
  | cancel token => timers.filter (·.token ≠ token)

/-- The timers after several requests. -/
def scheduled (timers : List Timer) (requests : List TimerRequest) : List Timer :=
  requests.foldl after timers

/-- The timer that a request arms, if it does. -/
def timer? : TimerRequest → Option Timer
  | arm peer kind token _ => some { peer, kind, token }
  | cancel _ => none

/-- The timers that requests arm. -/
def armed (requests : List TimerRequest) : List Timer := requests.filterMap timer?

variable {timers timers' : List Timer} {requests : List TimerRequest} {x : Timer}

@[simp] theorem scheduled_nil : scheduled timers [] = timers := rfl

theorem scheduled_append (more : List TimerRequest) :
    scheduled timers (requests ++ more) = scheduled (scheduled timers requests) more :=
  List.foldl_append

@[simp] theorem armed_nil : armed [] = [] := rfl

theorem perm_after (h : timers.Perm timers') (r : TimerRequest) :
    (after timers r).Perm (after timers' r) := by
  cases r with
  | arm peer kind token time => exact h.append_right _
  | cancel token => exact h.filter _

theorem perm_scheduled (h : timers.Perm timers') :
    (scheduled timers requests).Perm (scheduled timers' requests) := by
  induction requests generalizing timers timers' with
  | nil => exact h
  | cons r requests ih => exact ih (perm_after h r)

theorem after_subset (h : timers ⊆ timers') (r : TimerRequest) :
    after timers r ⊆ after timers' r := by
  cases r with
  | arm peer kind token time =>
    exact List.append_subset.mpr
      ⟨List.subset_append_of_subset_left _ h, List.subset_append_right _ _⟩
  | cancel token => exact List.filter_subset _ h

theorem scheduled_subset (h : timers ⊆ timers') :
    scheduled timers requests ⊆ scheduled timers' requests := by
  induction requests generalizing timers timers' with
  | nil => exact h
  | cons r requests ih => exact ih (after_subset h r)

/-- One timer more in the beginning is at most one more in the end. -/
theorem scheduled_cons_subset :
    scheduled (x :: timers) requests ⊆ x :: scheduled timers requests := by
  induction requests generalizing timers with
  | nil => exact List.Subset.refl _
  | cons r requests ih =>
    have hafter : after (x :: timers) r ⊆ x :: after timers r := by
      cases r with
      | arm peer kind token time => exact List.Subset.refl _
      | cancel token =>
        intro y hy
        obtain ⟨hy, hne⟩ := List.mem_filter.mp hy
        rcases List.mem_cons.mp hy with rfl | hy
        · exact List.mem_cons_self ..
        · exact List.mem_cons_of_mem _ (List.mem_filter.mpr ⟨hy, hne⟩)
    show scheduled (after (x :: timers) r) requests ⊆ x :: scheduled (after timers r) requests
    exact List.Subset.trans (scheduled_subset hafter) ih

/-- Whatever is scheduled was there or was armed. -/
theorem scheduled_sublist : (scheduled timers requests).Sublist (timers ++ armed requests) := by
  induction requests generalizing timers with
  | nil => simp
  | cons r requests ih =>
    refine List.Sublist.trans ih ?_
    cases r with
    | arm peer kind token time =>
      rw [after, List.append_assoc]
      exact List.Sublist.refl _
    | cancel token => exact List.Sublist.append List.filter_sublist (List.Sublist.refl _)

end TimerRequest

/-! ### Schedules -/

namespace Schedule

open TimerRequest

variable {Q : Type} [AlarmQueue Q] {s : Schedule Q}

/-- The timers that a schedule holds. -/
def timers (s : Schedule Q) : List Timer := s.queue.map Alarm.timer

@[simp] theorem queue_empty : (empty : Schedule Q).queue = [] := AlarmQueue.toList_empty

@[simp] theorem queue_rest (s : Schedule Q) (horizon : Millis) :
    (s.rest horizon).queue = s.queue := AlarmQueue.toList_wait ..

theorem nodup_places (s : Schedule Q) : (s.queue.map Alarm.place).Nodup :=
  AlarmQueue.distinct s.alarms

theorem sorted_queue (s : Schedule Q) : s.queue.Pairwise (·.deadline ≤ ·.deadline) :=
  AlarmQueue.sorted s.alarms

/-- A timer that is armed is put into the queue, unless that is broken already or breaks of it. -/
theorem arm_cases (s : Schedule Q) (peer : PeerAddress) (kind : TimerKind) (token : TimerToken)
    (after : Millis) :
    s.broken = true ∧ s.arm peer kind token after = s ∨
      (∃ place, (s.arm peer kind token after).broken = false ∧
        (s.arm peer kind token after).places = s.places.insert token place ∧
        (s.arm peer kind token after).queue.Perm
          (Timer.alarm { peer, kind, token } (s.now + after) place :: s.queue)) ∨
      (s.arm peer kind token after).broken = true ∧
        (s.arm peer kind token after).queue = [] ∧ Wheel.reach < s.now + after := by
  unfold arm
  by_cases hb : s.broken = true
  · exact .inl ⟨hb, if_pos hb⟩
  · rw [if_neg hb]
    split
    · rename_i place alarms hinsert
      exact .inr (.inl ⟨place, by simpa using hb, rfl, AlarmQueue.perm_of_insert? hinsert⟩)
    · rename_i hinsert
      refine .inr (.inr ⟨rfl, AlarmQueue.toList_empty, Nat.lt_of_not_le fun hreach => ?_⟩)
      have hsome := AlarmQueue.insert?_isSome s.alarms { peer, kind, token } hreach
      rw [hinsert] at hsome
      cases hsome

/-- The same where the schedule stays whole. -/
theorem perm_queue_arm {peer : PeerAddress} {kind : TimerKind} {token : TimerToken} {after : Millis}
    (hb : (s.arm peer kind token after).broken = false) :
    ∃ place, (s.arm peer kind token after).places = s.places.insert token place ∧
      (s.arm peer kind token after).queue.Perm
        (Timer.alarm { peer, kind, token } (s.now + after) place :: s.queue) := by
  rcases s.arm_cases peer kind token after with ⟨hbroken, hsame⟩ | ⟨place, -, h⟩ | ⟨hbroken, -⟩
  · rw [hsame, hbroken] at hb
    cases hb
  · exact ⟨place, h⟩
  · rw [hbroken] at hb
    cases hb

/-- Cancelling a token leaves all alarms but the one it was last armed for. -/
theorem cancel_cases (s : Schedule Q) (token : TimerToken) :
    s.places.get? token = none ∧ s.cancel token = s ∨
      ∃ place, s.places.get? token = some place ∧
        (s.cancel token).places = s.places.erase token ∧
        (s.cancel token).queue = s.queue.filter (·.place ≠ place) := by
  unfold cancel
  cases hp : s.places.get? token with
  | none => exact .inl ⟨rfl, rfl⟩
  | some place => exact .inr ⟨place, rfl, rfl, AlarmQueue.toList_remove ..⟩

theorem queue_cancel_sublist (s : Schedule Q) (token : TimerToken) :
    (s.cancel token).queue.Sublist s.queue := by
  rcases s.cancel_cases token with ⟨-, hsame⟩ | ⟨place, -, -, hqueue⟩
  · rw [hsame]
  · rw [hqueue]
    exact List.filter_sublist

/-- The soonest alarm is taken out if it is due. -/
theorem expire?_eq_some {horizon : Millis} {a : Alarm} {s' : Schedule Q}
    (he : s.expire? horizon = some (a, s')) :
    s.queue = a :: s'.queue ∧ a.deadline ≤ horizon ∧ s'.now = max s.now a.deadline ∧
      s'.places = s.places.erase a.token ∧ s'.broken = s.broken := by
  unfold expire? at he
  split at he
  · cases he
  · rename_i b alarms hnext
    obtain ⟨hqueue, hdue⟩ := AlarmQueue.of_next?_eq_some hnext
    cases he
    exact ⟨hqueue, hdue, rfl, rfl, rfl⟩

theorem expire?_eq_none {horizon : Millis} (he : s.expire? horizon = none) :
    ∀ a ∈ s.queue, horizon < a.deadline := by
  unfold expire? at he
  split at he
  · rename_i hnext
    exact AlarmQueue.of_next?_eq_none hnext
  · cases he

/-- The index of places leads to every alarm of the queue by its token, and to nothing else. -/
structure Sound (s : Schedule Q) : Prop where
  listed : ∀ a ∈ s.queue, s.places.get? a.token = some a.place
  found : ∀ token place, s.places.get? token = some place →
    ∃ a ∈ s.queue, a.token = token ∧ a.place = place

theorem sound_empty : Sound (empty : Schedule Q) where
  listed a ha := by
    rw [queue_empty] at ha
    cases ha
  found token place hp := nomatch hp

namespace Sound

variable (h : s.Sound)
include h

/-- Two alarms of the queue under one token are one. -/
theorem eq_of_token {a b : Alarm} (ha : a ∈ s.queue) (hb : b ∈ s.queue)
    (hab : a.token = b.token) : a = b := by
  have hplace : a.place = b.place := by
    have := h.listed a ha
    rw [hab, h.listed b hb] at this
    exact (Option.some.inj this).symm
  exact List.inj_on_of_nodup_map s.nodup_places ha hb hplace

/-- A place is found under the token of its alarm only. -/
theorem place_eq_iff {token : TimerToken} {place : Nat}
    (hp : s.places.get? token = some place) {a : Alarm} (ha : a ∈ s.queue) :
    a.place = place ↔ a.token = token := by
  obtain ⟨b, hb, rfl, rfl⟩ := h.found token place hp
  constructor
  · intro hab
    rw [List.inj_on_of_nodup_map s.nodup_places ha hb hab]
  · intro hab
    rw [h.eq_of_token ha hb hab]

/-- A cancellation takes out the alarms under its token. -/
theorem queue_cancel (token : TimerToken) :
    (s.cancel token).queue = s.queue.filter (·.token ≠ token) := by
  rcases s.cancel_cases token with ⟨hp, hsame⟩ | ⟨place, hp, -, hqueue⟩
  · -- no alarm has the token, so none is taken out
    rw [hsame]
    refine (List.filter_eq_self.mpr fun a ha => ?_).symm
    have hne : a.token ≠ token := by
      rintro rfl
      rw [h.listed a ha] at hp
      cases hp
    exact decide_eq_true hne
  · rw [hqueue]
    exact List.filter_congr fun a ha => by simp [h.place_eq_iff hp ha]

theorem cancel (token : TimerToken) :
    (s.cancel token).Sound ∧ (s.cancel token).timers = after s.timers (.cancel token) := by
  have hqueue := h.queue_cancel token
  refine ⟨?_, ?_⟩
  · rcases s.cancel_cases token with ⟨-, hsame⟩ | ⟨place, hp, hplaces, -⟩
    · rw [hsame]
      exact h
    · refine ⟨fun a ha => ?_, fun token' place' hp' => ?_⟩
      · rw [hqueue] at ha
        obtain ⟨ha, hne⟩ := List.mem_filter.mp ha
        rw [hplaces, Table.get?_erase, if_neg (by simpa using hne)]
        exact h.listed a ha
      · rw [hplaces, Table.get?_erase] at hp'
        split at hp'
        · cases hp'
        · rename_i hne
          obtain ⟨a, ha, rfl, rfl⟩ := h.found token' place' hp'
          refine ⟨a, ?_, rfl, rfl⟩
          rw [hqueue]
          exact List.mem_filter.mpr ⟨ha, by simpa using hne⟩
  · simp only [timers, after, hqueue, List.filter_map]
    rfl

/-- A new token makes room for itself. -/
theorem arm (peer : PeerAddress) (kind : TimerKind) {token : TimerToken} (time : Millis)
    (hnew : ∀ a ∈ s.queue, a.token ≠ token)
    (hb : (s.arm peer kind token time).broken = false) :
    (s.arm peer kind token time).Sound ∧
      (s.arm peer kind token time).timers.Perm (after s.timers (.arm peer kind token time)) := by
  obtain ⟨place, hplaces, hperm⟩ := perm_queue_arm hb
  refine ⟨⟨fun a ha => ?_, fun token' place' hp => ?_⟩, ?_⟩
  · rw [hplaces]
    rcases List.mem_cons.mp (hperm.mem_iff.mp ha) with rfl | ha
    · exact Table.get?_insert_self ..
    · rw [Table.get?_insert_of_ne _ _ (hnew a ha)]
      exact h.listed a ha
  · rw [hplaces] at hp
    by_cases ht : token' = token
    · subst ht
      rw [Table.get?_insert_self] at hp
      exact ⟨_, hperm.mem_iff.mpr List.mem_cons_self, rfl, Option.some.inj hp⟩
    · rw [Table.get?_insert_of_ne _ _ ht] at hp
      obtain ⟨a, ha, hrest⟩ := h.found token' place' hp
      exact ⟨a, hperm.mem_iff.mpr (List.mem_cons_of_mem _ ha), hrest⟩
  · exact (hperm.map Alarm.timer).trans (List.perm_append_singleton _ _).symm

/-- The soonest timer is taken out, and the others stay. -/
theorem expire {horizon : Millis} {a : Alarm} {s' : Schedule Q}
    (he : s.expire? horizon = some (a, s')) : s'.Sound ∧ s.timers = a.timer :: s'.timers := by
  obtain ⟨hqueue, -, -, hplaces, -⟩ := expire?_eq_some he
  have hmem : ∀ b ∈ s'.queue, b ∈ s.queue := fun b hb => by
    rw [hqueue]
    exact List.mem_cons_of_mem _ hb
  have ha : a ∈ s.queue := by
    rw [hqueue]
    exact List.mem_cons_self
  have hne : ∀ b ∈ s'.queue, b.token ≠ a.token := by
    intro b hb htoken
    have hnodup := s.nodup_places
    rw [hqueue, List.map_cons, List.nodup_cons] at hnodup
    obtain rfl := h.eq_of_token (hmem b hb) ha htoken
    exact hnodup.1 (List.mem_map_of_mem hb)
  refine ⟨⟨fun b hb => ?_, fun token place hp => ?_⟩, ?_⟩
  · rw [hplaces, Table.get?_erase_of_ne _ (hne b hb)]
    exact h.listed b (hmem b hb)
  · rw [hplaces, Table.get?_erase] at hp
    split at hp
    · cases hp
    · rename_i hat
      obtain ⟨b, hb, rfl, rfl⟩ := h.found token place hp
      rw [hqueue] at hb
      rcases List.mem_cons.mp hb with rfl | hb
      · exact absurd rfl hat
      · exact ⟨b, hb, rfl, rfl⟩
  · rw [timers, hqueue]
    rfl

theorem rest (horizon : Millis) : (s.rest horizon).Sound where
  listed a ha := h.listed a (queue_rest s horizon ▸ ha)
  found := by
    rw [queue_rest]
    exact h.found

end Sound

/-! ### Requests -/

theorem broken_cancel (token : TimerToken) : (s.cancel token).broken = s.broken := by
  unfold cancel
  split <;> rfl

theorem broken_apply (hb : s.broken = true) (r : TimerRequest) : (s.apply r).broken = true := by
  cases r with
  | arm peer kind token after => simp [apply, arm, hb]
  | cancel token => exact (broken_cancel token).trans hb

/-- A schedule that breaks stays broken. -/
theorem broken_foldl (hb : s.broken = true) (requests : List TimerRequest) :
    (requests.foldl apply s).broken = true := by
  induction requests generalizing s with
  | nil => exact hb
  | cons r requests ih => exact ih (broken_apply hb r)

/-- A request is carried out as it was meant, unless it breaks the schedule. -/
theorem apply_after (h : s.Sound) (r : TimerRequest)
    (hnew : ∀ x ∈ r.timer?, ∀ y ∈ s.timers, y.token ≠ x.token)
    (hb : (s.apply r).broken = false) :
    (s.apply r).Sound ∧ (s.apply r).timers.Perm (after s.timers r) := by
  cases r with
  | arm peer kind token time =>
    exact h.arm peer kind time (fun a ha => hnew _ rfl a.timer (List.mem_map_of_mem ha)) hb
  | cancel token =>
    obtain ⟨hsound, htimers⟩ := h.cancel token
    exact ⟨hsound, htimers ▸ List.Perm.refl _⟩

/-- The tokens that are held or will be armed stay distinct. -/
theorem nodup_after {r : TimerRequest} {timers : List Timer} {requests : List TimerRequest}
    (h : ((timers ++ armed (r :: requests)).map Timer.token).Nodup) :
    ((after timers r ++ armed requests).map Timer.token).Nodup := by
  cases r with
  | arm peer kind token time =>
    rw [after, List.append_assoc]
    exact h
  | cancel token =>
    exact h.sublist ((List.Sublist.append List.filter_sublist (List.Sublist.refl _)).map _)

/-- Several requests are carried out as they were meant, if no token is armed twice. -/
theorem apply_scheduled (h : s.Sound) {requests : List TimerRequest}
    (hnew : ((s.timers ++ armed requests).map Timer.token).Nodup)
    (hb : (requests.foldl apply s).broken = false) :
    (requests.foldl apply s).Sound ∧
      (requests.foldl apply s).timers.Perm (scheduled s.timers requests) := by
  induction requests generalizing s with
  | nil => exact ⟨h, List.Perm.refl _⟩
  | cons r requests ih =>
    have hr : (s.apply r).broken = false := by
      by_contra hr
      have := broken_foldl (by simpa using hr) requests
      rw [List.foldl_cons] at hb
      rw [hb] at this
      cases this
    -- a token that is armed is not held yet
    have hfresh : ∀ x ∈ r.timer?, ∀ y ∈ s.timers, y.token ≠ x.token := by
      intro x hx y hy htoken
      have hx' : x ∈ armed (r :: requests) :=
        List.mem_filterMap.mpr ⟨r, List.mem_cons_self .., hx⟩
      rw [List.map_append] at hnew
      exact (List.disjoint_of_nodup_append hnew) (List.mem_map_of_mem hy)
        (htoken ▸ List.mem_map_of_mem hx')
    obtain ⟨hsound, hperm⟩ := apply_after h r hfresh hr
    have hnodup := nodup_after hnew
    rw [← ((hperm.append_right _).map _).nodup_iff] at hnodup
    obtain ⟨hsound', hperm'⟩ := ih hsound hnodup hb
    exact ⟨hsound', hperm'.trans (perm_scheduled hperm)⟩

/-- The index has exactly the tokens that are held. -/
theorem contains_places_iff (h : s.Sound) (token : TimerToken) :
    s.places.contains token = true ↔ ∃ x ∈ s.timers, x.token = token := by
  rw [Table.contains, Option.isSome_iff_exists]
  constructor
  · rintro ⟨place, hp⟩
    obtain ⟨a, ha, rfl, -⟩ := h.found token place hp
    exact ⟨a.timer, List.mem_map_of_mem ha, rfl⟩
  · rintro ⟨x, hx, rfl⟩
    obtain ⟨a, ha, rfl⟩ := List.mem_map.mp hx
    exact ⟨a.place, h.listed a ha⟩

end Schedule

end PathSession
