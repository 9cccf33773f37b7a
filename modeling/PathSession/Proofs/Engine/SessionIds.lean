import Mathlib.Data.List.Nodup
import PathSession.Engine.Calls
import PathSession.Proofs.Engine.Handling
import PathSession.Proofs.Session.Bargain
import PathSession.Proofs.Session.Runs

/-!
# Session ids go round

A node numbers its sessions from 1 to 255 and then from 1 again, whoever they are for.  The ids are
a count modulo 255, raised by one, so that an id comes back after 255 sessions and not before.

* `SessionIds.toNat_successor`, `SessionIds.map_toNat_drawMany`: ids by counting;
* `SessionIds.nodup_window`: 255 ids in a row are distinct;
* `Handler.newcomers`, `Handler.sessionId_newcomers`: the sessions that tasks create, and their ids;
* `Handler.party_latest`: a session keeps what it was made from;
* `Handler.session_ids_rotate`: the ids of the sessions of a node.
-/

namespace PathSession

/-! ### Ids by counting -/

namespace SessionIds

theorem eq_last_iff (id : UInt8) : id = 255 ↔ id.toNat = 255 := UInt8.toNat_inj.symm

/-- The increment is only made where it does not wrap. -/
theorem toNat_successor (id : UInt8) :
    (successor id).toNat = if id = 255 then 1 else id.toNat + 1 := by
  have hlt := id.toNat_lt
  unfold successor
  split
  · rfl
  · rename_i h
    rw [eq_last_iff] at h
    rw [UInt8.toNat_add, UInt8.toNat_one]
    omega

theorem toNat_successor_eq_mod (id : UInt8) : (successor id).toNat = id.toNat % 255 + 1 := by
  have hlt := id.toNat_lt
  rw [toNat_successor, if_congr (eq_last_iff id) rfl rfl]
  split <;> omega

/-- Ids are drawn by counting on from the next one, round 1 to 255. -/
theorem map_toNat_drawMany {ids : SessionIds} (h : 0 < ids.next.toNat) (k : Nat) :
    (ids.drawMany k).map UInt8.toNat =
      (List.range k).map fun n => (ids.next.toNat - 1 + n) % 255 + 1 := by
  induction k generalizing ids with
  | zero => rfl
  | succ k ih =>
    have hlt := ids.next.toNat_lt
    have hnext : ids.draw.2.next.toNat = ids.next.toNat % 255 + 1 := toNat_successor_eq_mod _
    have hrest := ih (show 0 < ids.draw.2.next.toNat by omega)
    rw [List.range_succ_eq_map, List.map_cons, List.map_map, drawMany, List.map_cons, hrest, hnext]
    refine List.cons_eq_cons.mpr ⟨?_, List.map_congr_left fun n _ => ?_⟩
    · show ids.next.toNat = _
      omega
    · rw [Function.comp_apply]
      omega

section Start

variable (first : UInt8) (k : Nat)

theorem map_toNat_drawMany_startingAt :
    ((startingAt first).drawMany k).map UInt8.toNat =
      (List.range k).map fun n => (max first.toNat 1 - 1 + n) % 255 + 1 := by
  have hnext : (startingAt first).next.toNat = max first.toNat 1 := toNat_max ..
  rw [map_toNat_drawMany (by omega), hnext]

theorem zero_notMem_drawMany : 0 ∉ (startingAt first).drawMany k := by
  intro h
  have hzero : 0 ∈ ((startingAt first).drawMany k).map UInt8.toNat := List.mem_map.mpr ⟨0, h, rfl⟩
  rw [map_toNat_drawMany_startingAt] at hzero
  obtain ⟨n, -, hn⟩ := List.mem_map.mp hzero
  exact Nat.succ_ne_zero _ hn

theorem toNat_getElem_drawMany {n : Nat} (hn : n < ((startingAt first).drawMany k).length) :
    ((startingAt first).drawMany k)[n].toNat = (max first.toNat 1 - 1 + n) % 255 + 1 := by
  rw [← List.getElem_map UInt8.toNat (h := by rwa [List.length_map])]
  simp only [map_toNat_drawMany_startingAt, List.getElem_map, List.getElem_range]

/-- Ids that are less than 255 draws apart are different. -/
theorem nodup_window (n : Nat) : ((((startingAt first).drawMany k).drop n).take 255).Nodup := by
  refine List.pairwise_iff_getElem.mpr fun i j hi hj hij heq => ?_
  have hwidth : j < 255 := Nat.lt_of_lt_of_le hj (List.length_take_le ..)
  have hcount := congrArg UInt8.toNat heq
  rw [List.getElem_take, List.getElem_take, List.getElem_drop, List.getElem_drop,
    toNat_getElem_drawMany, toNat_getElem_drawMany] at hcount
  omega

end Start

end SessionIds

/-! ### The sessions that draw them -/

/-- What a session was made from stays the same. -/
theorem Session.party_handle {s : Session} (h : s.Phase) (hc : s.closed = false) (n : TimerToken)
    (e : SessionEvent) : (s.handle n e).session.party = s.party := by
  cases ha : s.advance? e with
  | some a =>
    have hterms := (advances_handle h hc ha n).terms
    refine (congrArg Terms.party hterms).trans ?_
    cases a <;> rfl
  | none =>
    have hterms : (s.handle n e).session.terms = s.terms := by
      cases stays_handle h ha n with
      | rests h => exact h.terms
      | ends h => exact h.terms
    exact congrArg Terms.party hterms

namespace Handler

/-- The handler after tasks. -/
def after (h : Handler) (tasks : List Task) : Handler :=
  tasks.foldl (fun h t => (h.process t.peer t.event).next) h

/-- The session that a task creates, if it does, as it is then. -/
def newcomer? (h : Handler) (t : Task) : Option Session :=
  match h.session? t.peer with
  | some _ => none
  | none => (h.process t.peer t.event).next.session? t.peer

/-- The sessions that tasks create, oldest first. -/
def newcomers (h : Handler) : List Task → List Session
  | [] => []
  | t :: tasks => (h.newcomer? t).toList ++ (h.process t.peer t.event).next.newcomers tasks

variable {h : Handler}

theorem lives_after (hl : h.Lives) (tasks : List Task) : (h.after tasks).Lives := by
  induction tasks generalizing h with
  | nil => exact hl
  | cons t tasks ih => exact ih (lives_process hl t.peer t.event)

theorem newcomers_concat (h : Handler) (tasks : List Task) (t : Task) :
    h.newcomers (tasks ++ [t]) = h.newcomers tasks ++ ((h.after tasks).newcomer? t).toList := by
  induction tasks generalizing h with
  | nil => exact List.append_nil _
  | cons u tasks ih =>
    rw [List.cons_append, newcomers, ih, newcomers, List.append_assoc]
    rfl

theorem party_opening (h : Handler) (peer : PeerAddress) (initiator : Bool) :
    (h.opening peer initiator).session.party =
      { peer, role := h.role, sessionId := h.ids.draw.1, settings := h.settings } :=
  Party.party_run ⟨peer, h.role, h.ids.draw.1, h.settings⟩ initiator h.nextToken []

/-- A task that creates a session draws an id for it, and no other task draws one. -/
theorem newcomer?_cases (h : Handler) (t : Task) :
    (∃ s, h.newcomer? t = some s ∧ s.peer = t.peer ∧ s.sessionId = h.ids.draw.1 ∧
        (h.process t.peer t.event).next.ids = h.ids.draw.2) ∨
      h.newcomer? t = none ∧ (h.process t.peer t.event).next.ids = h.ids := by
  rcases h.process_turn t.peer t.event with ⟨s, hs, hp⟩ | ⟨hnone, -, hp⟩ | ⟨hnone, -, hp, -⟩
  · refine .inr ⟨by rw [newcomer?, hs], ?_⟩
    rw [hp, next_settle]
  · have hparty := h.party_opening t.peer (t.event = .connectRequested)
    refine .inl ⟨_, ?_, congrArg Party.peer hparty, congrArg Party.sessionId hparty, ?_⟩
    · rw [newcomer?, hnone, hp, session?_create]
    · rw [hp, create_eq, next_settle, enrolling]
  · refine .inr ⟨?_, by rw [hp]⟩
    rw [newcomer?, hnone, hp]
    exact hnone

/-- Sessions draw their ids in the order in which they are created. -/
theorem sessionId_newcomers (h : Handler) (tasks : List Task) :
    (h.newcomers tasks).map (·.sessionId) = h.ids.drawMany (h.newcomers tasks).length := by
  induction tasks generalizing h with
  | nil => rfl
  | cons t tasks ih =>
    have hrest := ih (h.process t.peer t.event).next
    rw [newcomers]
    rcases h.newcomer?_cases t with ⟨s, hs, -, hid, hids⟩ | ⟨hs, hids⟩
    · rw [hids] at hrest
      rw [hs, Option.toList_some, List.singleton_append, List.map_cons, List.length_cons, hrest, hid]
      rfl
    · rw [hids] at hrest
      rw [hs, Option.toList_none, List.nil_append, hrest]

theorem peer_of_newcomer? {t : Task} {s : Session} (hs : h.newcomer? t = some s) :
    s.peer = t.peer := by
  rcases h.newcomer?_cases t with ⟨s', hs', hpeer, -⟩ | ⟨hnone, -⟩
  · rw [Option.some.inj (hs.symm.trans hs'), hpeer]
  · rw [hs] at hnone
    cases hnone

/-- A session that is there after a task was created by it, or was there before and is still made
from the same. -/
theorem newcomer?_or_party (hl : h.Lives) {t : Task} {p : PeerAddress} {s : Session}
    (hs : (h.process t.peer t.event).next.session? p = some s) :
    (p = t.peer ∧ h.newcomer? t = some s) ∨
      ∃ s', h.session? p = some s' ∧ s.party = s'.party ∧
        (h.newcomer? t).toList.filter (·.peer = p) = [] := by
  by_cases hp : p = t.peer
  · subst hp
    rcases process_self hl t.peer t.event with ⟨s', hs', -, hafter⟩ | ⟨hnone, -⟩ | ⟨hnone, -⟩
    · obtain ⟨hphase, hc⟩ := hl _ _ hs'
      rw [hafter] at hs
      split at hs
      · cases hs
      · refine .inr ⟨s', hs', ?_, by rw [newcomer?, hs']; rfl⟩
        rw [← Option.some.inj hs, Session.party_handle hphase hc]
    all_goals exact .inl ⟨rfl, by rw [newcomer?, hnone]; exact hs⟩
  · refine .inr ⟨s, session?_process_of_ne hl hp ▸ hs, rfl, ?_⟩
    refine List.filter_eq_nil_iff.mpr fun s' hs' => ?_
    rw [Option.mem_toList] at hs'
    rw [peer_of_newcomer? hs']
    simpa using Ne.symm hp

/-- A registered session is the latest one of its peer, and is still made from the same. -/
theorem party_latest (hl : h.Lives) (hempty : ∀ p, h.session? p = none) {tasks : List Task}
    {p : PeerAddress} {s : Session} (hs : (h.after tasks).session? p = some s) :
    ((h.newcomers tasks).filter (·.peer = p)).getLast?.map Session.party = some s.party := by
  induction tasks using List.reverseRecOn generalizing s with
  | nil =>
    rw [show h.after [] = h from rfl, hempty] at hs
    cases hs
  | append_singleton tasks t ih =>
    rw [after, List.foldl_concat] at hs
    rw [newcomers_concat, List.filter_append]
    rcases newcomer?_or_party (lives_after hl tasks) hs with ⟨rfl, hnew⟩ | ⟨s', hs', hparty, hnew⟩
    · rw [hnew, Option.toList_some, List.filter_cons_of_pos (by simpa using peer_of_newcomer? hnew),
        List.filter_nil, List.getLast?_concat]
      rfl
    · rw [hnew, List.append_nil, ih hs', hparty]

/-- **The ids of the sessions of a node.**  Ids are drawn by counting from the first one round 1 to
255: zero is never drawn, the increment never wraps, and 255 ids in a row are distinct.  Whoever
they are for, sessions draw theirs one after the other, and keep them. -/
theorem session_ids_rotate (role : Role) (settings : Settings) (first : UInt8)
    (tasks : List Task) :
    let ids := SessionIds.startingAt first
    let created := (init role settings first).newcomers tasks
    (∀ k, (ids.drawMany k).map UInt8.toNat =
        (List.range k).map fun n => (max first.toNat 1 - 1 + n) % 255 + 1) ∧
      (∀ k, 0 ∉ ids.drawMany k) ∧
      (∀ id, (SessionIds.successor id).toNat = if id = 255 then 1 else id.toNat + 1) ∧
      (∀ k n, (((ids.drawMany k).drop n).take 255).Nodup) ∧
      created.map (·.sessionId) = ids.drawMany created.length ∧
      ∀ p s, ((init role settings first).after tasks).session? p = some s →
        (created.filter (·.peer = p)).getLast?.map (·.sessionId) = some s.sessionId := by
  intro ids created
  refine ⟨SessionIds.map_toNat_drawMany_startingAt first, SessionIds.zero_notMem_drawMany first,
    SessionIds.toNat_successor, SessionIds.nodup_window first, sessionId_newcomers _ tasks,
    fun p s hs => ?_⟩
  have hparty := party_latest (lives_init role settings first) (fun p => Table.get?_empty p) hs
  have hids := congrArg (Option.map Party.sessionId) hparty
  rwa [Option.map_map] at hids

/-- The ids of three sessions go round.  The last one is for the peer of the first, and comes after
one for another. -/
theorem session_ids_rotate_round :
    let p := PeerAddress.v4 ⟨10, 0, 0, 1⟩ 4189
    let q := PeerAddress.v4 ⟨10, 0, 0, 2⟩ 4189
    let h := init .server {} 255
    let tasks : List Task := [⟨p, .accepted⟩, ⟨q, .accepted⟩, ⟨p, .closeRequested⟩, ⟨p, .accepted⟩]
    (h.newcomers tasks).map (·.sessionId) = [255, 1, 2] ∧
      ∃ s, (h.after tasks).session? p = some s ∧ s.sessionId = 2 := by
  intro p q h tasks
  obtain ⟨-, -, -, -, hids, hlatest⟩ := session_ids_rotate .server {} 255 tasks
  have hcount : (h.newcomers tasks).length = 3 := by decide +kernel
  obtain ⟨s, hs⟩ : ∃ s, (h.after tasks).session? p = some s :=
    Option.isSome_iff_exists.mp (by decide +kernel)
  refine ⟨?_, s, hs, Option.some.inj ((hlatest p s hs).symm.trans (by decide +kernel))⟩
  rw [hcount] at hids
  rw [hids]
  decide

end Handler

end PathSession
