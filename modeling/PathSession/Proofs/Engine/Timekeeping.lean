import Mathlib.Logic.Function.Basic
import PathSession.Engine.Calls
import PathSession.Proofs.Engine.Handling
import PathSession.Proofs.Timers.Schedule

/-!
# Every timer is accounted for

The sessions of a node, their timers, the requests between the two and the tasks of the workers
each have their own idea of what is armed, and all of them lag behind each other.  With the requests
that are under way carried out, the timers that are scheduled are those that sessions have armed,
save those whose expiry waits for its worker.

* `Clockwork`, `Clockwork.Reached`: the four of them at work, in any order;
* `Kept`: the invariant, one lemma for each thing that can happen to it;
* `Clockwork.timers_accounted`: no timer leaks and none is lost.
-/

namespace PathSession

/-- The timer whose expiry a task reports, if it does. -/
def Task.expiry? (t : Task) : Option Timer :=
  match t.event with
  | .timerExpired kind token => some { peer := t.peer, kind, token }
  | _ => none

/-- The sessions of a node and their timers, with all that is on its way between them. -/
structure Clockwork (Q : Type) where
  handler : Handler
  /-- asked of the timers and not carried out yet, oldest first -/
  requests : List TimerRequest
  schedule : Schedule Q
  /-- submitted to the workers and not handled yet, oldest first -/
  tasks : List Task

namespace Clockwork

variable {Q : Type} [AlarmQueue Q]

/-- Nothing has happened. -/
def init (role : Role) (settings : Settings) (firstId : UInt8) : Clockwork Q :=
  { handler := .init role settings firstId, requests := [], schedule := .empty, tasks := [] }

/-- The schedule once all requests are carried out. -/
def effective (w : Clockwork Q) : Schedule Q := w.requests.foldl Schedule.apply w.schedule

/-- The timers whose expiry waits for its worker. -/
def expiries (w : Clockwork Q) : List Timer := w.tasks.filterMap Task.expiry?

/-- What can come about.  Tasks of any kind but expiries are submitted from outside; a worker takes
the oldest task of its own, while those of other workers may wait; requests are carried out in
order; and an expiry is submitted when it is due.  The timer is scheduled no more from then on, even
if the queue of the worker has no room for its expiry yet.  Such an expiry counts as queued, and
other tasks of the worker may get ahead of it until there is room. -/
inductive Reached (channel : PeerAddress → Nat) (role : Role) (settings : Settings)
    (firstId : UInt8) : Clockwork Q → Prop
  | init : Reached channel role settings firstId (init role settings firstId)
  | submit {w : Clockwork Q} (h : Reached channel role settings firstId w) (t : Task)
      (ht : t.expiry? = none) :
      Reached channel role settings firstId { w with tasks := w.tasks ++ [t] }
  | work {w : Clockwork Q} (h : Reached channel role settings firstId w) {before after : List Task}
      {t : Task} (ht : w.tasks = before ++ t :: after)
      (hfirst : ∀ t' ∈ before, t'.expiry? = none → channel t'.peer ≠ channel t.peer) :
      Reached channel role settings firstId
        { w with
          handler := (w.handler.process t.peer t.event).next
          requests := w.requests ++ (w.handler.process t.peer t.event).requests
          tasks := before ++ after }
  | carryOut {w : Clockwork Q} (h : Reached channel role settings firstId w) {r : TimerRequest}
      {more : List TimerRequest} (hr : w.requests = r :: more) :
      Reached channel role settings firstId
        { w with requests := more, schedule := w.schedule.apply r }
  | expire {w : Clockwork Q} (h : Reached channel role settings firstId w) {horizon : Millis}
      {a : Alarm} {s : Schedule Q} (he : w.schedule.expire? horizon = some (a, s)) :
      Reached channel role settings firstId
        { w with
          schedule := s
          tasks := w.tasks ++ [{ peer := a.peer, event := .timerExpired a.kind a.token }] }
  | rest {w : Clockwork Q} (h : Reached channel role settings firstId w) (horizon : Millis) :
      Reached channel role settings firstId { w with schedule := w.schedule.rest horizon }

end Clockwork

/-! ### The invariant -/

open TimerRequest

/-- The timers in the slots of all peers, those that are scheduled, and those whose expiry waits.  A
timer is scheduled only while it is in its slot, and one in its slot is scheduled unless it has run
out.  No token names two timers, and the next one names none. -/
structure Kept (slots : PeerAddress → TimerSlots) (next : TimerToken) (timers : List Timer)
    (requests : List TimerRequest) (expiries : List Timer) : Prop where
  distinct : ((expiries ++ (timers ++ armed requests)).map Timer.token).Nodup
  below : ∀ x ∈ expiries ++ (timers ++ armed requests), x.token < next
  listed : ∀ x ∈ scheduled timers requests, (slots x.peer).get x.kind = some x.token
  kept : ∀ x : Timer, (slots x.peer).get x.kind = some x.token →
    x ∈ scheduled timers requests ∨ x ∈ expiries

namespace Kept

variable {slots : PeerAddress → TimerSlots} {next : TimerToken} {timers : List Timer}
variable {requests : List TimerRequest} {expiries : List Timer}

theorem init (next : TimerToken) : Kept (fun _ => {}) next [] [] [] :=
  ⟨List.nodup_nil, nofun, nofun, fun x hx => by simp at hx⟩

/-- Scheduled and waiting timers are among those whose tokens are distinct. -/
theorem sublist_all : (expiries ++ scheduled timers requests).Sublist
    (expiries ++ (timers ++ armed requests)) :=
  List.Sublist.append (List.Sublist.refl _) scheduled_sublist

section Facts

variable (h : Kept slots next timers requests expiries)
include h

/-- A timer is told by its token. -/
theorem eq_of_token {x y : Timer} (hx : x ∈ scheduled timers requests ∨ x ∈ expiries)
    (hy : y ∈ scheduled timers requests ∨ y ∈ expiries) (hxy : x.token = y.token) : x = y := by
  have hmem : ∀ z, z ∈ scheduled timers requests ∨ z ∈ expiries →
      z ∈ expiries ++ scheduled timers requests := fun z hz => List.mem_append.mpr hz.symm
  have hdistinct := h.distinct.sublist (sublist_all.map Timer.token)
  exact List.inj_on_of_nodup_map hdistinct (hmem x hx) (hmem y hy) hxy

theorem nodup : (expiries ++ scheduled timers requests).Nodup :=
  List.Nodup.of_map _ (h.distinct.sublist (sublist_all.map Timer.token))

/-- A timer in its slot is scheduled or has run out, one of the two and once. -/
theorem count_eq_one {x : Timer} (hx : (slots x.peer).get x.kind = some x.token) :
    (scheduled timers requests).count x + expiries.count x = 1 := by
  rw [Nat.add_comm, ← List.count_append]
  exact List.count_eq_one_of_mem h.nodup (List.mem_append.mpr (h.kept x hx).symm)

end Facts

/-! ### What a session asks for -/

/-- Writing one slot of one peer changes this slot only. -/
theorem get_written (slots : PeerAddress → TimerSlots) (peer : PeerAddress) (kind : TimerKind)
    (token : Option TimerToken) (x : Timer) :
    (Function.update slots peer ((slots peer).set kind token) x.peer).get x.kind =
      if x.peer = peer ∧ x.kind = kind then token else (slots x.peer).get x.kind := by
  by_cases hp : x.peer = peer
  · rw [hp, Function.update_self, TimerSlots.get_set]
    simp only [true_and]
  · rw [Function.update_of_ne hp, if_neg fun h => hp h.1]

/-- A session arms a timer under the next token. -/
theorem arm (h : Kept slots next timers requests expiries) {peer : PeerAddress} {kind : TimerKind}
    (hk : (slots peer).get kind = none) (time : Millis) :
    Kept (Function.update slots peer ((slots peer).set kind (some next))) (next + 1) timers
      (requests ++ [.arm peer kind next time]) expiries := by
  have hscheduled : scheduled timers (requests ++ [.arm peer kind next time])
      = scheduled timers requests ++ [{ peer, kind, token := next }] := scheduled_append _
  have hlist : expiries ++ (timers ++ armed (requests ++ [.arm peer kind next time]))
      = expiries ++ (timers ++ armed requests) ++ [{ peer, kind, token := next }] := by
    simp [armed, timer?]
  constructor
  · rw [hlist, List.map_append, List.nodup_append]
    refine ⟨h.distinct, List.nodup_singleton _, fun token ht token' ht' => ?_⟩
    obtain ⟨x, hx, rfl⟩ := List.mem_map.mp ht
    rw [List.mem_singleton.mp ht']
    exact Nat.ne_of_lt (h.below x hx)
  · rw [hlist]
    intro x hx
    rcases List.mem_append.mp hx with hx | hx
    · exact Nat.lt_succ_of_lt (h.below x hx)
    · rw [List.mem_singleton.mp hx]
      exact Nat.lt_succ_self _
  · rw [hscheduled]
    intro x hx
    rw [get_written]
    rcases List.mem_append.mp hx with hx | hx
    · have hslot := h.listed x hx
      -- the slot was empty, so it is another one
      rw [if_neg, hslot]
      rintro ⟨hp, hkind⟩
      rw [hp, hkind, hk] at hslot
      cases hslot
    · rw [List.mem_singleton.mp hx, if_pos ⟨rfl, rfl⟩]
  · rw [hscheduled]
    intro x hx
    rw [get_written] at hx
    split at hx
    · rename_i hslot
      obtain ⟨p, k, token⟩ := x
      obtain ⟨rfl, rfl⟩ : p = peer ∧ k = kind := hslot
      obtain rfl : next = token := Option.some.inj hx
      exact .inl (List.mem_append_right _ (List.mem_singleton.mpr rfl))
    · exact (h.kept x hx).imp_left fun hx => List.mem_append_left _ hx

/-- A session cancels a timer under the token in its slot. -/
theorem cancel (h : Kept slots next timers requests expiries) {peer : PeerAddress}
    {kind : TimerKind} {token : TimerToken} (hk : (slots peer).get kind = some token) :
    Kept (Function.update slots peer ((slots peer).set kind none)) next timers
      (requests ++ [.cancel token]) expiries := by
  have hscheduled : scheduled timers (requests ++ [.cancel token])
      = (scheduled timers requests).filter (·.token ≠ token) := scheduled_append _
  have harmed : armed (requests ++ [.cancel token]) = armed requests := by simp [armed, timer?]
  -- the token is that of the timer in the slot, and of no other
  have hself := h.kept { peer, kind, token } hk
  constructor
  · rw [harmed]
    exact h.distinct
  · rw [harmed]
    exact h.below
  · rw [hscheduled]
    intro x hx
    obtain ⟨hx, hne⟩ := List.mem_filter.mp hx
    have hslot := h.listed x hx
    rw [get_written, if_neg, hslot]
    rintro ⟨hp, hkind⟩
    rw [hp, hkind, hk] at hslot
    simp [Option.some.inj hslot] at hne
  · rw [hscheduled]
    intro x hx
    rw [get_written] at hx
    split at hx
    · cases hx
    · rename_i hother
      rcases h.kept x hx with hin | hin
      · refine .inl (List.mem_filter.mpr ⟨hin, decide_eq_true fun htoken => hother ?_⟩)
        rw [h.eq_of_token (.inl hin) hself htoken]
        exact ⟨rfl, rfl⟩
      · exact .inr hin

/-- Whatever a session asks for is entered in its slots. -/
theorem enter (h : Kept slots next timers requests expiries) {peer : PeerAddress} {a : Action}
    {l : Ledger} (he : Ledger.enter? { slots := slots peer, next } a = some l) :
    Kept (Function.update slots peer l.slots) l.next timers
      (requests ++ (a.request? peer).toList) expiries := by
  cases a with
  | armTimer kind token time =>
    simp only [Ledger.enter?] at he
    split at he
    · rename_i hk
      cases he
      rw [hk.2]
      exact h.arm hk.1 time
    · cases he
  | cancelTimer kind token =>
    simp only [Ledger.enter?] at he
    split at he
    · rename_i hk
      cases he
      exact h.cancel hk
    · cases he
  | connect | send | deliver | established | close =>
    cases he
    rw [Function.update_eq_self]
    simpa [Action.request?] using h

theorem enterAll (h : Kept slots next timers requests expiries) {peer : PeerAddress}
    {actions : List Action} {l : Ledger}
    (he : Ledger.enterAll? { slots := slots peer, next } actions = some l) :
    Kept (Function.update slots peer l.slots) l.next timers
      (requests ++ actions.filterMap (Action.request? peer)) expiries := by
  induction actions generalizing slots next requests with
  | nil =>
    cases he
    rw [Function.update_eq_self]
    simpa using h
  | cons a actions ih =>
    rw [Ledger.enterAll?_cons] at he
    obtain ⟨l', hl', he⟩ := Option.bind_eq_some_iff.mp he
    have := ih (h.enter hl') (by rwa [Function.update_self])
    rw [Function.update_idem, List.append_assoc] at this
    rw [List.filterMap_cons]
    cases hr : a.request? peer with
    | none =>
      rw [hr] at this
      exact this
    | some r =>
      rw [hr] at this
      exact this

/-! ### Everything else -/

/-- The slots after a timer has run out: it leaves its slot, if it is still there. -/
def cleared (slots : PeerAddress → TimerSlots) (x : Timer) : PeerAddress → TimerSlots :=
  Function.update slots x.peer
    (if (slots x.peer).get x.kind = some x.token then (slots x.peer).set x.kind none
      else slots x.peer)

theorem get_cleared (slots : PeerAddress → TimerSlots) (x y : Timer) :
    (cleared slots x y.peer).get y.kind =
      if y.peer = x.peer ∧ y.kind = x.kind ∧ (slots x.peer).get x.kind = some x.token then none
      else (slots y.peer).get y.kind := by
  unfold cleared
  by_cases hx : (slots x.peer).get x.kind = some x.token
  · rw [if_pos hx, get_written]
    simp only [hx, and_true]
  · rw [if_neg hx, Function.update_eq_self, if_neg fun h => hx h.2.2]

/-- A worker takes an expiry. -/
theorem take {before after : List Timer} {x : Timer}
    (h : Kept slots next timers requests (before ++ x :: after)) :
    Kept (cleared slots x) next timers requests (before ++ after) := by
  have hsub : (before ++ after).Sublist (before ++ x :: after) :=
    List.Sublist.append (List.Sublist.refl _) (List.sublist_cons_self ..)
  have hx : x ∈ before ++ x :: after := by simp
  constructor
  · exact h.distinct.sublist ((hsub.append (List.Sublist.refl _)).map _)
  · exact fun y hy => h.below y ((hsub.append (List.Sublist.refl _)).subset hy)
  · intro y hy
    have hslot := h.listed y hy
    rw [get_cleared, if_neg, hslot]
    rintro ⟨hp, hkind, hxslot⟩
    -- a timer is not scheduled any more when its expiry waits
    rw [hp, hkind, hxslot] at hslot
    have hyx := h.eq_of_token (.inl hy) (.inr hx) (Option.some.inj hslot).symm
    have hdisjoint := List.disjoint_of_nodup_append h.nodup
    exact hdisjoint hx (hyx ▸ hy)
  · intro y hy
    rw [get_cleared] at hy
    split at hy
    · cases hy
    · rename_i hne
      refine (h.kept y hy).imp_right fun hmem => ?_
      rcases List.mem_append.mp hmem with hmem | hmem
      · exact List.mem_append_left _ hmem
      · rcases List.mem_cons.mp hmem with rfl | hmem
        · exact absurd ⟨rfl, rfl, hy⟩ hne
        · exact List.mem_append_right _ hmem

/-- Only what is held matters, not its order. -/
theorem perm (h : Kept slots next timers requests expiries) {timers' : List Timer}
    (hp : timers'.Perm timers) : Kept slots next timers' requests expiries := by
  have hall := (hp.append_right (armed requests)).append_left expiries
  have hscheduled : (scheduled timers' requests).Perm (scheduled timers requests) :=
    perm_scheduled hp
  refine ⟨(hall.map _).nodup_iff.mpr h.distinct, fun x hx => h.below x (hall.mem_iff.mp hx),
    fun x hx => h.listed x (hscheduled.mem_iff.mp hx), fun x hx => ?_⟩
  exact (h.kept x hx).imp_left hscheduled.mem_iff.mpr

/-- The oldest request is carried out. -/
theorem carryOut {r : TimerRequest} (h : Kept slots next timers (r :: requests) expiries) :
    Kept slots next (after timers r) requests expiries := by
  have hsub : (after timers r ++ armed requests).Sublist (timers ++ armed (r :: requests)) := by
    cases r with
    | arm peer kind token time =>
      rw [after, List.append_assoc]
      exact List.Sublist.refl _
    | cancel token => exact List.Sublist.append List.filter_sublist (List.Sublist.refl _)
  have hall := (List.Sublist.refl expiries).append hsub
  exact ⟨h.distinct.sublist (hall.map _), fun x hx => h.below x (hall.subset hx), h.listed, h.kept⟩

/-- A timer is due: it is scheduled no more, and its expiry waits. -/
theorem expire {x : Timer} (h : Kept slots next (x :: timers) requests expiries) :
    Kept slots next timers requests (expiries ++ [x]) := by
  have hall : (expiries ++ [x] ++ (timers ++ armed requests)).Perm
      (expiries ++ (x :: timers ++ armed requests)) := by
    rw [List.append_assoc]
    exact List.Perm.refl _
  refine ⟨(hall.map _).nodup_iff.mpr h.distinct, fun y hy => h.below y (hall.mem_iff.mp hy),
    fun y hy => ?_, fun y hy => ?_⟩
  · exact h.listed y (scheduled_subset (List.subset_cons_self ..) hy)
  · rcases h.kept y hy with hin | hin
    · rcases List.mem_cons.mp (scheduled_cons_subset hin) with rfl | hin
      · exact .inr (by simp)
      · exact .inl hin
    · exact .inr (List.mem_append_left _ hin)

end Kept

/-! ### Every step keeps it -/

namespace Handler

variable (h : Handler)

theorem slotsAt_timerExpired (peer : PeerAddress) (kind : TimerKind) (token : TimerToken) :
    h.slotsAt peer (.timerExpired kind token) =
      if (h.slots peer).get kind = some token then (h.slots peer).set kind none
      else h.slots peer := by
  unfold slotsAt slots
  cases h.session? peer with
  | some s => rfl
  | none => simp

/-- Nothing but an expiry changes what is armed before the session is told. -/
theorem slotsAt_of_expiry?_eq_none {t : Task} (ht : t.expiry? = none) :
    h.slotsAt t.peer t.event = h.slots t.peer := by
  obtain ⟨peer, e⟩ := t
  unfold slotsAt slots
  cases h.session? peer with
  | none => rfl
  | some s =>
    cases e with
    | timerExpired kind token => cases ht
    | _ => rfl

variable {h}

theorem update_slots_process (hl : h.Lives) (t : Task) :
    Function.update h.slots t.peer ((h.process t.peer t.event).next.slots t.peer)
      = (h.process t.peer t.event).next.slots := by
  funext q
  by_cases hq : q = t.peer
  · rw [hq, Function.update_self]
  · rw [Function.update_of_ne hq, slots, slots, session?_process_of_ne hl hq]

end Handler

namespace Kept

variable {h : Handler} {timers : List Timer} {requests : List TimerRequest}

/-- A worker takes a task. -/
theorem work (hl : h.Lives) {before after : List Task} {t : Task}
    (hk : Kept h.slots h.nextToken timers requests
      ((before ++ t :: after).filterMap Task.expiry?)) :
    Kept (h.process t.peer t.event).next.slots (h.process t.peer t.event).next.nextToken timers
      (requests ++ (h.process t.peer t.event).requests)
      ((before ++ after).filterMap Task.expiry?) := by
  obtain ⟨actions, hrequests, hbooks⟩ := Handler.process_books hl t.peer t.event
  rw [hrequests, ← Handler.update_slots_process hl]
  rw [List.filterMap_append, List.filterMap_cons] at hk
  rw [List.filterMap_append]
  cases ht : t.expiry? with
  | none =>
    rw [ht] at hk
    rw [h.slotsAt_of_expiry?_eq_none ht] at hbooks
    exact hk.enterAll hbooks
  | some x =>
    rw [ht] at hk
    obtain ⟨peer, e⟩ := t
    cases e with
    | timerExpired kind token =>
      cases ht
      have hslots : cleared h.slots { peer, kind, token } peer =
          h.slotsAt peer (.timerExpired kind token) := by
        rw [cleared, Function.update_self, h.slotsAt_timerExpired]
      rw [← hslots] at hbooks
      have htaken := hk.take.enterAll hbooks
      rwa [cleared, Function.update_idem] at htaken
    | _ => cases ht

end Kept

namespace Clockwork

variable {channel : PeerAddress → Nat} {role : Role} {settings : Settings} {firstId : UInt8}
variable {Q : Type} [AlarmQueue Q] {w : Clockwork Q}

/-- The invariant holds as long as no timer was armed too far ahead. -/
structure Accounted (w : Clockwork Q) : Prop where
  lives : w.handler.Lives
  sound : w.schedule.broken = false → w.schedule.Sound
  kept : w.schedule.broken = false →
    Kept w.handler.slots w.handler.nextToken w.schedule.timers w.requests w.expiries

theorem Reached.accounted (h : Reached channel role settings firstId w) : w.Accounted := by
  induction h with
  | init =>
    have hnone : (Schedule.empty : Schedule Q).timers = [] := by
      rw [Schedule.timers, Schedule.queue_empty, List.map_nil]
    exact ⟨Handler.lives_init role settings firstId, fun _ => Schedule.sound_empty,
      fun _ => hnone ▸ Kept.init _⟩
  | submit h t ht ih =>
    refine ⟨ih.lives, ih.sound, fun hb => ?_⟩
    rw [expiries, List.filterMap_append, List.filterMap_cons, ht, List.filterMap_nil,
      List.append_nil]
    exact ih.kept hb
  | work h ht hfirst ih =>
    refine ⟨Handler.lives_process ih.lives _ _, ih.sound, fun hb => ?_⟩
    have hkept := ih.kept hb
    rw [expiries, ht] at hkept
    exact hkept.work ih.lives
  | @carryOut w h r more hr ih =>
    -- a schedule that is whole after a request was so before
    have hwhole : (w.schedule.apply r).broken = false → w.schedule.broken = false := by
      intro hb
      by_contra hb'
      rw [Schedule.broken_apply (by simpa using hb') r] at hb
      cases hb
    have happly : (w.schedule.apply r).broken = false →
        (w.schedule.apply r).Sound ∧
          (w.schedule.apply r).timers.Perm (after w.schedule.timers r) := by
      intro hb
      have hdistinct := (ih.kept (hwhole hb)).distinct
      rw [hr, List.map_append, List.map_append] at hdistinct
      refine Schedule.apply_after (ih.sound (hwhole hb)) r (fun x hx y hy htoken => ?_) hb
      have hx' : x ∈ armed (r :: more) :=
        List.mem_filterMap.mpr ⟨r, List.mem_cons_self .., hx⟩
      exact List.disjoint_of_nodup_append (List.nodup_append.mp hdistinct).2.1
        (List.mem_map_of_mem hy) (htoken ▸ List.mem_map_of_mem hx')
    refine ⟨ih.lives, fun hb => (happly hb).1, fun hb => ?_⟩
    have hkept := ih.kept (hwhole hb)
    rw [hr] at hkept
    exact hkept.carryOut.perm (happly hb).2
  | @expire w h horizon a s he ih =>
    obtain ⟨-, -, -, -, hbroken⟩ := Schedule.expire?_eq_some he
    have hexpire := fun hb => (ih.sound (hbroken ▸ hb)).expire he
    refine ⟨ih.lives, fun hb => (hexpire hb).1, fun hb => ?_⟩
    have hkept := ih.kept (hbroken ▸ hb)
    rw [(hexpire hb).2] at hkept
    have hexpired := hkept.expire
    rw [expiries, List.filterMap_append]
    exact hexpired
  | rest h horizon ih =>
    refine ⟨ih.lives, fun hb => (ih.sound hb).rest _, fun hb => ?_⟩
    rw [Schedule.timers, Schedule.queue_rest]
    exact ih.kept hb

/-- **No timer leaks and none is lost.**  Let the requests under way be carried out, and let the
schedule have room for all of them.  Then every timer it holds is in the slot of that kind of a
session registered for that peer, and every timer in a slot is held once or waits once for its
worker as an expiry, and not both.  A peer without a session has no timer, and the index of places
has exactly the tokens that are held. -/
theorem timers_accounted (h : Reached channel role settings firstId w)
    (hb : w.effective.broken = false) :
    (∀ x ∈ w.effective.timers, ∃ s, w.handler.session? x.peer = some s ∧
        s.timers.get x.kind = some x.token) ∧
      (∀ x s, w.handler.session? x.peer = some s → s.timers.get x.kind = some x.token →
        w.effective.timers.count x + w.expiries.count x = 1) ∧
      (∀ peer, w.handler.session? peer = none → ∀ x ∈ w.effective.timers, x.peer ≠ peer) ∧
      ∀ token, w.effective.places.contains token = true ↔
        ∃ x ∈ w.effective.timers, x.token = token := by
  obtain ⟨-, hsound, hkept⟩ := h.accounted
  have hwhole : w.schedule.broken = false := by
    by_contra hb'
    rw [effective, Schedule.broken_foldl (by simpa using hb')] at hb
    cases hb
  have hk := hkept hwhole
  have hdistinct := hk.distinct
  rw [List.map_append] at hdistinct
  obtain ⟨hsound', hperm⟩ := Schedule.apply_scheduled (hsound hwhole)
    (List.nodup_append.mp hdistinct).2.1 hb
  have hslot : ∀ x ∈ w.effective.timers, ∃ s, w.handler.session? x.peer = some s ∧
      s.timers.get x.kind = some x.token := by
    intro x hx
    have hget := hk.listed x (hperm.mem_iff.mp hx)
    rw [Handler.slots] at hget
    cases hs : w.handler.session? x.peer with
    | some s =>
      rw [hs] at hget
      exact ⟨s, rfl, hget⟩
    | none =>
      rw [hs, TimerSlots.get_empty] at hget
      cases hget
  refine ⟨hslot, fun x s hs hx => ?_, fun peer hnone x hx hp => ?_,
    Schedule.contains_places_iff hsound'⟩
  · rw [effective, hperm.count_eq]
    exact hk.count_eq_one (by rw [Handler.slots, hs]; exact hx)
  · obtain ⟨s, hs, -⟩ := hslot x hx
    rw [hp, hnone] at hs
    cases hs

/-- An accepted session whose OPEN_WAIT timer is due, and a worker that has yet to see it. -/
theorem timers_accounted_due : ∃ (w : Clockwork WheelQueue) (x : Timer),
    Reached (fun _ => 0) .server {} 1 w ∧ w.effective.broken = false ∧
      (∃ s, w.handler.session? x.peer = some s ∧ s.timers.get x.kind = some x.token) ∧
      w.effective.timers = [] ∧ w.expiries = [x] ∧
      w.effective.timers.count x + w.expiries.count x = 1 := by
  let x : Timer := { peer := .v4 ⟨10, 0, 0, 1⟩ 4189, kind := .openWait, token := 1 }
  let r : TimerRequest := .arm x.peer x.kind x.token 60000
  let h := ((Handler.init .server {} 1).process x.peer .accepted).next
  let created : Task := { peer := x.peer, event := .accepted }
  let w₀ : Clockwork WheelQueue := .init .server {} 1
  have hsubmitted : Reached (fun _ => 0) .server {} 1 { w₀ with tasks := [created] } :=
    Reached.init.submit created rfl
  have hworked := hsubmitted.work (show _ = [] ++ created :: [] from rfl) nofun
  have harmed : Reached (fun _ => 0) .server {} 1
      { handler := h, requests := [], schedule := Schedule.empty.apply r, tasks := [] } :=
    hworked.carryOut (show _ = r :: [] by decide +kernel)
  -- the timer is due when the clock gets to its deadline
  obtain ⟨⟨a, s⟩, he⟩ : ∃ due, (Schedule.empty.apply r : Schedule WheelQueue).expire? 60000 =
    some due := Option.isSome_iff_exists.mp (by decide +kernel)
  have hdue := harmed.expire he
  have hwhole : (Schedule.empty.apply r : Schedule WheelQueue).broken = false := by decide +kernel
  obtain ⟨-, htimers⟩ := (harmed.accounted.sound hwhole).expire he
  have hone : [x] = (Schedule.empty.apply r : Schedule WheelQueue).timers := by decide +kernel
  obtain ⟨hx, hnone⟩ : x = a.timer ∧ [] = s.timers := List.cons.inj (hone.trans htimers)
  obtain ⟨-, -, -, -, hsame⟩ := Schedule.expire?_eq_some he
  have hbroken : s.broken = false := hsame.trans hwhole
  obtain ⟨s', hs', hget⟩ :
      ∃ s', h.session? x.peer = some s' ∧ s'.timers.get x.kind = some x.token :=
    Option.map_eq_some_iff.mp (show (h.session? x.peer).map (fun s' => s'.timers.get x.kind)
      = some (some x.token) by decide +kernel)
  refine ⟨_, x, hdue, hbroken, ⟨s', hs', hget⟩, hnone.symm, ?_,
    (timers_accounted hdue hbroken).2.1 x s' hs' hget⟩
  rw [hx]
  rfl

end Clockwork

end PathSession
