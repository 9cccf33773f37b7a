import Mathlib.Data.List.Nodup
import PathSession.Proofs.Engine.Chronicle
import PathSession.Proofs.Engine.Timekeeping

/-!
# Cancelled timers never act

An expiry may wait for its worker while its session cancels the timer, arms it again, ends, or is
followed by another session of the peer.  The token tells: it is handed out once for all sessions of
a node, and when it has left its slot it is in no slot ever again.

* `Minted`: the tokens in the slots against all requests that were made of the timers;
* `Handler.Ignores`: a task that changes nothing and asks for nothing;
* `Chronicle.spent_tokens_ignored`: no token is in two slots, and an expiry under a token that was
  cancelled or replaced is ignored.
-/

namespace PathSession

open TimerRequest

/-- The timers that requests armed for one slot of a peer, oldest first. -/
def armedFor (requests : List TimerRequest) (peer : PeerAddress) (kind : TimerKind) : List Timer :=
  (armed requests).filter fun x => x.peer = peer && x.kind = kind

/-! ### The invariant -/

/-- The timers in the slots of all peers, and the requests so far.  No token was armed twice, and
the next one not at all.  A slot holds the timer that was armed for it last, and no slot holds one
that was cancelled. -/
structure Minted (slots : PeerAddress → TimerSlots) (next : TimerToken)
    (requests : List TimerRequest) : Prop where
  distinct : ((armed requests).map Timer.token).Nodup
  below : ∀ x ∈ armed requests, x.token < next
  latest : ∀ x : Timer, (slots x.peer).get x.kind = some x.token →
    (armedFor requests x.peer x.kind).getLast? = some x
  spent : ∀ token, .cancel token ∈ requests → token < next ∧
    ∀ x : Timer, (slots x.peer).get x.kind = some x.token → x.token ≠ token

namespace Minted

variable {slots slots' : PeerAddress → TimerSlots} {next : TimerToken}
variable {requests : List TimerRequest}

theorem init (next : TimerToken) : Minted (fun _ => {}) next [] :=
  ⟨List.nodup_nil, nofun, fun x hx => by simp at hx, nofun⟩

section Facts

variable (h : Minted slots next requests)
include h

/-- What is in a slot was armed. -/
theorem mem_armed {x : Timer} (hx : (slots x.peer).get x.kind = some x.token) :
    x ∈ armed requests :=
  List.mem_of_mem_filter (List.mem_of_getLast? (h.latest x hx))

/-- A timer that was armed is told by its token. -/
theorem eq_of_token {x y : Timer} (hx : x ∈ armed requests) (hy : y ∈ armed requests)
    (hxy : x.token = y.token) : x = y :=
  List.inj_on_of_nodup_map h.distinct hx hy hxy

/-- A timer that was armed again is in its slot no more. -/
theorem replaced {before after : List TimerRequest} {x y : Timer} {time : Millis}
    (hr : requests = before ++ .arm x.peer x.kind x.token time :: after)
    (hy : y ∈ armedFor after x.peer x.kind) : (slots x.peer).get x.kind ≠ some x.token := by
  intro hx
  have hlast := h.latest x hx
  have hsplit : armed requests = armed before ++ x :: armed after := by
    rw [hr, armed, List.filterMap_append]
    rfl
  -- the last of those armed for the slot is among the later ones
  obtain ⟨z, hz⟩ : ∃ z, (armedFor after x.peer x.kind).getLast? = some z :=
    ⟨_, List.getLast?_eq_some_getLast (List.ne_nil_of_mem hy)⟩
  have hmem : x ∈ armed after := by
    rw [armedFor, hsplit, List.filter_append, List.filter_cons_of_pos (by simp),
      ← List.singleton_append, ← List.append_assoc, List.getLast?_append] at hlast
    rw [armedFor] at hz
    rw [hz] at hlast
    obtain rfl : z = x := Option.some.inj hlast
    exact List.mem_of_mem_filter (List.mem_of_getLast? hz)
  have hdistinct := h.distinct
  rw [hsplit, List.map_append] at hdistinct
  have hcons := (List.nodup_append.mp hdistinct).2.1
  exact (List.nodup_cons.mp hcons).1 (List.mem_map_of_mem hmem)

end Facts

/-! ### What a session asks for -/

/-- Timers may leave their slots without a word. -/
theorem mono (h : Minted slots next requests)
    (hs : ∀ p k token, (slots' p).get k = some token → (slots p).get k = some token) :
    Minted slots' next requests :=
  ⟨h.distinct, h.below, fun x hx => h.latest x (hs _ _ _ hx), fun token ht =>
    ⟨(h.spent token ht).1, fun x hx => (h.spent token ht).2 x (hs _ _ _ hx)⟩⟩

/-- A session arms a timer under the next token. -/
theorem arm (h : Minted slots next requests) (peer : PeerAddress) (kind : TimerKind)
    (time : Millis) :
    Minted (Function.update slots peer ((slots peer).set kind (some next))) (next + 1)
      (requests ++ [.arm peer kind next time]) := by
  have harmed : armed (requests ++ [.arm peer kind next time])
      = armed requests ++ [{ peer, kind, token := next }] := List.filterMap_append
  constructor
  · rw [harmed, List.map_append, List.nodup_append]
    refine ⟨h.distinct, List.nodup_singleton _, fun token ht token' ht' => ?_⟩
    obtain ⟨x, hx, rfl⟩ := List.mem_map.mp ht
    rw [List.mem_singleton.mp ht']
    exact Nat.ne_of_lt (h.below x hx)
  · rw [harmed]
    intro x hx
    rcases List.mem_append.mp hx with hx | hx
    · exact Nat.lt_succ_of_lt (h.below x hx)
    · rw [List.mem_singleton.mp hx]
      exact Nat.lt_succ_self _
  · intro x hx
    rw [Kept.get_written] at hx
    rw [armedFor, harmed, List.filter_append]
    split at hx
    · rename_i hslot
      obtain ⟨p, k, token⟩ := x
      obtain ⟨rfl, rfl⟩ : p = peer ∧ k = kind := hslot
      obtain rfl : next = token := Option.some.inj hx
      rw [List.filter_cons_of_pos (by simp), List.filter_nil, List.getLast?_concat]
    · rename_i hother
      rw [List.filter_cons_of_neg, List.filter_nil, List.append_nil]
      · exact h.latest x hx
      · rw [Bool.and_eq_true, decide_eq_true_iff, decide_eq_true_iff]
        exact fun hself => hother ⟨hself.1.symm, hself.2.symm⟩
  · intro token ht
    replace ht : .cancel token ∈ requests := by simpa using ht
    obtain ⟨hlt, hslots⟩ := h.spent token ht
    refine ⟨Nat.lt_succ_of_lt hlt, fun x hx => ?_⟩
    rw [Kept.get_written] at hx
    split at hx
    · rw [← Option.some.inj hx]
      exact (Nat.ne_of_lt hlt).symm
    · exact hslots x hx

/-- A session cancels a timer under the token in its slot. -/
theorem cancel (h : Minted slots next requests) {peer : PeerAddress} {kind : TimerKind}
    {token : TimerToken} (hk : (slots peer).get kind = some token) :
    Minted (Function.update slots peer ((slots peer).set kind none)) next
      (requests ++ [.cancel token]) := by
  have harmed : armed (requests ++ [.cancel token]) = armed requests := by simp [armed, timer?]
  have hold : ∀ x : Timer,
      (Function.update slots peer ((slots peer).set kind none) x.peer).get x.kind = some x.token →
        (slots x.peer).get x.kind = some x.token ∧ ¬ (x.peer = peer ∧ x.kind = kind) := by
    intro x hx
    rw [Kept.get_written] at hx
    split at hx
    · cases hx
    · rename_i hother
      exact ⟨hx, hother⟩
  -- the token is that of the timer in the slot, and of no other
  have hself := h.mem_armed (x := { peer, kind, token }) hk
  refine ⟨harmed ▸ h.distinct, harmed ▸ h.below, fun x hx => ?_, fun token' ht => ?_⟩
  · rw [armedFor, harmed]
    exact h.latest x (hold x hx).1
  · rcases List.mem_append.mp ht with ht | ht
    · exact ⟨(h.spent token' ht).1, fun x hx => (h.spent token' ht).2 x (hold x hx).1⟩
    · obtain rfl : token' = token := by simpa using ht
      refine ⟨h.below _ hself, fun x hx htoken => (hold x hx).2 ?_⟩
      rw [h.eq_of_token (h.mem_armed (hold x hx).1) hself htoken]
      exact ⟨rfl, rfl⟩

/-- Whatever a session asks for is entered in its slots. -/
theorem enter (h : Minted slots next requests) {peer : PeerAddress} {a : Action} {l : Ledger}
    (he : Ledger.enter? { slots := slots peer, next } a = some l) :
    Minted (Function.update slots peer l.slots) l.next
      (requests ++ (a.request? peer).toList) := by
  cases a with
  | armTimer kind token time =>
    simp only [Ledger.enter?] at he
    split at he
    · rename_i hk
      cases he
      rw [hk.2]
      exact h.arm peer kind time
    · cases he
  | cancelTimer kind token =>
    simp only [Ledger.enter?] at he
    split at he
    · rename_i hk
      cases he
      exact h.cancel hk
    · cases he
  | connect | send | deliver | established | close =>
    cases he
    rw [Function.update_eq_self]
    simpa [Action.request?] using h

theorem enterAll (h : Minted slots next requests) {peer : PeerAddress} {actions : List Action}
    {l : Ledger} (he : Ledger.enterAll? { slots := slots peer, next } actions = some l) :
    Minted (Function.update slots peer l.slots) l.next
      (requests ++ actions.filterMap (Action.request? peer)) := by
  induction actions generalizing slots next requests with
  | nil =>
    cases he
    rw [Function.update_eq_self]
    simpa using h
  | cons a actions ih =>
    rw [Ledger.enterAll?_cons] at he
    obtain ⟨l', hl', he⟩ := Option.bind_eq_some_iff.mp he
    have := ih (h.enter hl') (by rwa [Function.update_self])
    rw [Function.update_idem, List.append_assoc] at this
    rw [List.filterMap_cons]
    cases hr : a.request? peer with
    | none =>
      rw [hr] at this
      exact this
    | some r =>
      rw [hr] at this
      exact this

end Minted

/-! ### Expiries that come too late -/

namespace Handler

variable {h : Handler}

/-- A task that changes no session, uses up no number and asks for nothing. -/
structure Ignores (h : Handler) (peer : PeerAddress) (e : SessionEvent) : Prop where
  effects : (h.process peer e).effects = []
  sessions : ∀ q, (h.process peer e).next.session? q = h.session? q
  numbers : (h.process peer e).next.nextToken = h.nextToken ∧ (h.process peer e).next.ids = h.ids
  reserved : (h.process peer e).next.registry.reserved = h.registry.reserved

theorem ignores_of_stale {peer : PeerAddress} {kind : TimerKind} {token : TimerToken}
    (hs : (h.slots peer).get kind ≠ some token) : h.Ignores peer (.timerExpired kind token) := by
  rcases h.process_turn peer (.timerExpired kind token) with ⟨s, hsession, hp⟩ | ⟨-, he, -⟩ |
    ⟨-, -, hp, heffects⟩
  · have hslots : h.slots peer = s.timers := by rw [slots, hsession]
    rw [hslots] at hs
    -- the session remarks on it and is otherwise as it was
    obtain ⟨n, hturn⟩ : ∃ n : Note,
        s.handle h.nextToken (.timerExpired kind token) = (Turn.start s h.nextToken).note n := by
      unfold Session.handle
      split
      · exact ⟨_, rfl⟩
      · exact ⟨.staleExpiry kind token, if_neg hs⟩
    rw [hturn] at hp
    refine ⟨by rw [hp]; rfl, fun q => ?_, by rw [hp]; exact ⟨rfl, rfl⟩, by rw [hp]; rfl⟩
    rw [hp, session?_settle]
    by_cases hq : q = peer
    · rw [if_pos hq, hq, hsession]
      rfl
    · rw [if_neg hq]
  · cases he
  · exact ⟨heffects, fun q => by rw [hp], by rw [hp]; exact ⟨rfl, rfl⟩, by rw [hp]⟩

/-- What a task finds in the slots was there before it. -/
theorem get_slots_of_slotsAt {peer : PeerAddress} {e : SessionEvent} {kind : TimerKind}
    {token : TimerToken} (hk : (h.slotsAt peer e).get kind = some token) :
    (h.slots peer).get kind = some token := by
  cases e with
  | timerExpired kind' token' =>
    rw [slotsAt_timerExpired] at hk
    split at hk
    · rw [TimerSlots.get_set] at hk
      split at hk
      · cases hk
      · exact hk
    · exact hk
  | _ => rwa [h.slotsAt_of_expiry?_eq_none (t := ⟨peer, _⟩) rfl] at hk

end Handler

namespace Chronicle

variable {c : Chronicle} {role : Role} {settings : Settings} {firstId : UInt8}

theorem minted_take (hl : c.handler.Lives)
    (h : Minted c.handler.slots c.handler.nextToken c.requests) (t : Task) :
    Minted (c.take t).handler.slots (c.take t).handler.nextToken (c.take t).requests := by
  obtain ⟨actions, hrequests, hbooks⟩ := Handler.process_books hl t.peer t.event
  have hfound : Minted (Function.update c.handler.slots t.peer
      (c.handler.slotsAt t.peer t.event)) c.handler.nextToken c.requests := by
    refine h.mono fun p k token hp => ?_
    by_cases hpeer : p = t.peer
    · rw [hpeer, Function.update_self] at hp
      rw [hpeer]
      exact Handler.get_slots_of_slotsAt hp
    · rwa [Function.update_of_ne hpeer] at hp
  have hentered := hfound.enterAll (by rwa [Function.update_self])
  rw [Function.update_idem, ← hrequests, Handler.update_slots_process hl t] at hentered
  rw [requests_take]
  exact hentered

theorem minted_run (role : Role) (settings : Settings) (firstId : UInt8) (ts : List Task) :
    let c := run role settings firstId ts
    c.handler.Lives ∧ Minted c.handler.slots c.handler.nextToken c.requests :=
  run_induction (P := fun c => c.handler.Lives ∧
      Minted c.handler.slots c.handler.nextToken c.requests)
    ⟨Handler.lives_init role settings firstId, Minted.init _⟩
    (fun _ t h => ⟨Handler.lives_process h.1 t.peer t.event, minted_take h.1 h.2 t⟩) ts

/-- **A cancelled timer never acts.**  After any tasks, no token is in two slots, of one session or
of two.  A token that was cancelled, or whose slot was armed again, is in no slot; and an expiry
under it, however late, changes no session and asks for nothing. -/
theorem spent_tokens_ignored (role : Role) (settings : Settings) (firstId : UInt8)
    (ts : List Task) :
    let c := run role settings firstId ts
    (∀ p q s s' k k' token, c.handler.session? p = some s → c.handler.session? q = some s' →
        s.timers.get k = some token → s'.timers.get k' = some token → p = q ∧ k = k') ∧
      ∀ token, (.cancel token ∈ c.requests ∨ ∃ before p k time after token' time',
          c.requests = before ++ .arm p k token time :: after ∧
            .arm p k token' time' ∈ after) →
        (∀ q s k, c.handler.session? q = some s → s.timers.get k ≠ some token) ∧
          ∀ q k, c.handler.Ignores q (.timerExpired k token) := by
  intro c
  obtain ⟨-, hminted⟩ := minted_run role settings firstId ts
  have hslot : ∀ {p s k token}, c.handler.session? p = some s → s.timers.get k = some token →
      (c.handler.slots p).get k = some token := by
    intro p s k token hs hk
    rw [Handler.slots, hs]
    exact hk
  refine ⟨fun p q s s' k k' token hs hs' hk hk' => ?_, fun token ht => ?_⟩
  · have hx := hminted.mem_armed (x := { peer := p, kind := k, token }) (hslot hs hk)
    have hy := hminted.mem_armed (x := { peer := q, kind := k', token }) (hslot hs' hk')
    have hxy := hminted.eq_of_token hx hy rfl
    exact ⟨congrArg Timer.peer hxy, congrArg Timer.kind hxy⟩
  · have hnone : ∀ q k, (c.handler.slots q).get k ≠ some token := by
      intro q k hq
      rcases ht with ht | ⟨before, p, k', time, after, token', time', hr, hafter⟩
      · exact (hminted.spent token ht).2 { peer := q, kind := k, token } hq rfl
      · have hx : ({ peer := p, kind := k', token } : Timer) ∈ armed c.requests := by
          rw [hr]
          exact List.mem_filterMap.mpr ⟨_, List.mem_append_right _ List.mem_cons_self, rfl⟩
        have hxy := hminted.eq_of_token hx
          (hminted.mem_armed (x := { peer := q, kind := k, token }) hq) rfl
        rw [← show p = q from congrArg Timer.peer hxy,
          ← show k' = k from congrArg Timer.kind hxy] at hq
        refine hminted.replaced (x := { peer := p, kind := k', token })
          (y := { peer := p, kind := k', token := token' }) hr ?_ hq
        exact List.mem_filter.mpr ⟨List.mem_filterMap.mpr ⟨_, hafter, rfl⟩, by simp⟩
    exact ⟨fun q s k hs hk => hnone q k (hslot hs hk),
      fun q k => Handler.ignores_of_stale (hnone q k)⟩

/-- The OPEN of the peer cancels the timer that waits for it, and the peer's next session arms one
of that kind again.  An expiry of the first is ignored by both. -/
theorem spent_tokens_ignored_next :
    let p := PeerAddress.v4 ⟨10, 0, 0, 1⟩ 4189
    let c := run .server {} 1 <| [.accepted, .network (OpenObject.propose 30 120 1).message,
      .closeRequested, .accepted].map (Task.mk p)
    c.requests = [.arm p .openWait 1 60000, .cancel 1, .arm p .keepWait 2 60000, .cancel 2,
        .arm p .openWait 3 60000] ∧
      (∃ s, c.handler.session? p = some s ∧ s.timers.get .openWait = some 3) ∧
      c.handler.Ignores p (.timerExpired .openWait 1) := by
  intro p c
  have hrequests : c.requests = [.arm p .openWait 1 60000, .cancel 1, .arm p .keepWait 2 60000,
      .cancel 2, .arm p .openWait 3 60000] := by decide +kernel
  obtain ⟨-, hspent⟩ := spent_tokens_ignored .server {} 1 ([.accepted,
    .network (OpenObject.propose 30 120 1).message, .closeRequested, .accepted].map (Task.mk p))
  refine ⟨hrequests, ?_, (hspent 1 (.inl ?_)).2 p .openWait⟩
  · exact Option.map_eq_some_iff.mp (show (c.handler.session? p).map
      (fun s => s.timers.get .openWait) = some (some 3) by decide +kernel)
  · show TimerRequest.cancel 1 ∈ c.requests
    rw [hrequests]
    simp

end Chronicle

end PathSession
