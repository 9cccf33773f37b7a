import Mathlib.Data.Set.Function
import PathSession.Proofs.Engine.Tokens
import PathSession.Proofs.Session.Likeness

/-!
# Peers do not influence each other

The sessions of a node share its registry and the numbers that it hands out.  In whatever order the
tasks of several peers come, as long as each peer's own tasks keep theirs, a peer is treated in the
same way: only the tokens of its timers and the ids of its sessions tell the orders apart.

* `Chronicle.effectsOf`, `Chronicle.tokensOf`, `Chronicle.script`: the part that a run has for a
  peer;
* `Effect.Alike`: effects that are the same but for tokens and session ids;
* `Chronicle.AlikeAt`: two runs that are alike for a peer, one lemma for each thing that happens;
* `Chronicle.peers_independent`: runs with the same scripts are.
-/

namespace PathSession

theorem exists_of_forall₂ {α β : Type} {R : α → β → Prop} {xs : List α} {ys : List β}
    (h : List.Forall₂ R xs ys) {x : α} (hx : x ∈ xs) : ∃ y, R x y := by
  obtain ⟨i, hi, rfl⟩ := List.getElem_of_mem hx
  exact ⟨_, h.get hi (h.length_eq ▸ hi)⟩

/-! ### The part of a peer -/

/-- An event as a peer's timers name it: an expiry by the place of its timer among those that were
armed for the peer. -/
def SessionEvent.named (tokens : List TimerToken) : SessionEvent → SessionEvent
  | timerExpired kind token => timerExpired kind (tokens.idxOf token)
  | e => e

theorem SessionEvent.creates_named (tokens : List TimerToken) (e : SessionEvent) :
    (e.named tokens).creates = e.creates := by
  cases e <;> rfl

theorem SessionEvent.named_eq_connectRequested (tokens : List TimerToken) (e : SessionEvent) :
    e.named tokens = .connectRequested ↔ e = .connectRequested := by
  cases e <;> simp [named]

namespace Effect

/-- The token that a timer is armed under, if one is. -/
def armed? : Effect → Option TimerToken
  | timer (.arm _ _ token _) => some token
  | _ => none

/-- The token of the timer that is armed or cancelled, if one is. -/
def token? : Effect → Option TimerToken
  | timer (.arm _ _ token _) | timer (.cancel token) => some token
  | _ => none

theorem eq_arm_of_armed? {x : Effect} {token : TimerToken} (h : x.armed? = some token) :
    ∃ peer kind after, x = .timer (.arm peer kind token after) := by
  cases x with
  | timer r =>
    cases r with
    | arm peer kind a after =>
      cases h
      exact ⟨peer, kind, after, rfl⟩
    | cancel => cases h
  | command | notice => cases h

/-- Effects that are the same but for the tokens and for the session id in a proposal. -/
inductive Alike (R : TimerToken → TimerToken → Prop) : Effect → Effect → Prop
  | command (c : Command) : Alike R (.command c) (.command c)
  | opening (peer : PeerAddress) (keepalive deadTimer id id' : UInt8) :
      Alike R
        (.command (.send peer (OpenObject.propose keepalive deadTimer id).message.encode))
        (.command (.send peer (OpenObject.propose keepalive deadTimer id').message.encode))
  | counter (peer : PeerAddress) (e : ErrorObject) (keepalive deadTimer id id' : UInt8) :
      Alike R
        (.command (.send peer (e.message (some (.propose keepalive deadTimer id))).encode))
        (.command (.send peer (e.message (some (.propose keepalive deadTimer id'))).encode))
  | arm (peer : PeerAddress) (kind : TimerKind) {a b : TimerToken} (h : R a b) (after : Millis) :
      Alike R (.timer (.arm peer kind a after)) (.timer (.arm peer kind b after))
  | cancel {a b : TimerToken} (h : R a b) : Alike R (.timer (.cancel a)) (.timer (.cancel b))
  | notice (n : Notice) : Alike R (.notice n) (.notice n)

variable {R S : TimerToken → TimerToken → Prop} {x y : Effect}

theorem Alike.imp (h : Alike R x y) (hR : ∀ a b, x.token? = some a → R a b → S a b) :
    Alike S x y := by
  cases h with
  | command c => exact .command c
  | opening => exact .opening ..
  | counter => exact .counter ..
  | arm peer kind h after => exact .arm peer kind (hR _ _ rfl h) after
  | cancel h => exact .cancel (hR _ _ rfl h)
  | notice n => exact .notice n

theorem forall₂_imp {xs ys : List Effect} (h : List.Forall₂ (Alike R) xs ys)
    (hR : ∀ x ∈ xs, ∀ a b, x.token? = some a → R a b → S a b) :
    List.Forall₂ (Alike S) xs ys := by
  induction h with
  | nil => exact .nil
  | cons hxy _ ih =>
    obtain ⟨hx, hxs⟩ := List.forall_mem_cons.mp hR
    exact .cons (hxy.imp hx) (ih hxs)

/-- Effects that are alike arm their timers under tokens that are. -/
theorem forall₂_armed {xs ys : List Effect} (h : List.Forall₂ (Alike R) xs ys) :
    List.Forall₂ R (xs.filterMap armed?) (ys.filterMap armed?) := by
  induction h with
  | nil => exact .nil
  | cons hxy _ ih =>
    cases hxy with
    | arm peer kind h after => exact .cons h ih
    | _ => exact ih

end Effect

namespace Ledger

/-- The books use up the tokens that timers are armed under, and no others. -/
theorem drawn {l l' : Ledger} {actions : List Action} (h : l.enterAll? actions = some l') :
    l.next ≤ l'.next ∧ ∀ a, l.next ≤ a → a < l'.next →
      ∃ kind after, .armTimer kind a after ∈ actions := by
  induction actions generalizing l with
  | nil =>
    cases h
    exact ⟨le_rfl, fun a ha ha' => absurd ha' (Nat.not_lt.mpr ha)⟩
  | cons x actions ih =>
    rw [enterAll?_cons] at h
    obtain ⟨l₁, hl₁, h⟩ := Option.bind_eq_some_iff.mp h
    obtain ⟨hle, hdrawn⟩ := ih h
    have hlater : l₁.next = l.next → l.next ≤ l'.next ∧ ∀ a, l.next ≤ a → a < l'.next →
        ∃ kind after, .armTimer kind a after ∈ x :: actions := fun hsame => by
      rw [hsame] at hle hdrawn
      refine ⟨hle, fun a ha ha' => ?_⟩
      obtain ⟨kind, after, hmem⟩ := hdrawn a ha ha'
      exact ⟨kind, after, List.mem_cons_of_mem _ hmem⟩
    rcases enter?_cases hl₁ with ⟨kind, after, rfl, -, rfl⟩ | ⟨k, token, -, -, rfl⟩ | ⟨-, rfl⟩
    · refine ⟨Nat.le_of_succ_le hle, fun a ha ha' => ?_⟩
      rcases Nat.eq_or_lt_of_le ha with rfl | ha
      · exact ⟨kind, after, List.mem_cons_self⟩
      · obtain ⟨kind, after, hmem⟩ := hdrawn a ha ha'
        exact ⟨kind, after, List.mem_cons_of_mem _ hmem⟩
    · exact hlater rfl
    · exact hlater rfl

end Ledger

namespace Handler

variable {h : Handler} {peer : PeerAddress}

theorem process_of_session {s : Session} (hs : h.session? peer = some s) (e : SessionEvent) :
    h.process peer e = h.settle peer (s.handle h.nextToken e) := by
  rw [process, show h.registry.sessions.get? peer = some s from hs]

theorem process_of_creates (hnone : h.session? peer = none) {e : SessionEvent}
    (he : e.creates = true) :
    h.process peer e = (h.enrolling peer).settle peer (h.opening peer (e = .connectRequested)) := by
  rcases h.process_turn peer e with ⟨s, hs, -⟩ | ⟨-, -, hp⟩ | ⟨-, hnot, -⟩
  · rw [hnone] at hs
    cases hs
  · rw [hp, create_eq]
  · rw [he] at hnot
    cases hnot

end Handler

namespace Chronicle

variable {c c' : Chronicle} {p : PeerAddress} {t : Task}

/-- What the sessions of a peer have asked for, in order. -/
def effectsOf (c : Chronicle) (peer : PeerAddress) : List Effect :=
  (c.asked.filter (·.peer = peer)).map Asked.effect

/-- The tokens of the timers that were armed for a peer, oldest first. -/
def tokensOf (c : Chronicle) (peer : PeerAddress) : List TimerToken :=
  (c.effectsOf peer).filterMap Effect.armed?

/-- The events of a peer among some tasks, as its timers name them. -/
def scriptFrom (peer : PeerAddress) : Chronicle → List Task → List SessionEvent
  | _, [] => []
  | c, t :: ts =>
    (if t.peer = peer then [t.event.named (c.tokensOf peer)] else []) ++
      scriptFrom peer (c.take t) ts

/-- The events of a peer in a run, as its timers name them. -/
def script (role : Role) (settings : Settings) (firstId : UInt8) (ts : List Task)
    (peer : PeerAddress) : List SessionEvent :=
  scriptFrom peer (init role settings firstId) ts

theorem effectsOf_take (peer : PeerAddress) : (c.take t).effectsOf peer = c.effectsOf peer ++
    if t.peer = peer then (c.handler.process t.peer t.event).effects else [] := by
  rw [effectsOf, take, List.filter_append, List.map_append]
  refine congrArg _ ?_
  by_cases hp : t.peer = peer
  · rw [if_pos hp, List.filter_eq_self.mpr (by simp [hp]), List.map_map]
    exact List.map_id _
  · rw [if_neg hp, List.filter_eq_nil_iff.mpr (by simp [hp])]
    rfl

theorem scriptFrom_append (ts us : List Task) :
    scriptFrom p c (ts ++ us) = scriptFrom p c ts ++ scriptFrom p (ts.foldl take c) us := by
  induction ts generalizing c with
  | nil => rfl
  | cons t ts ih => rw [List.cons_append, scriptFrom, ih, scriptFrom, List.append_assoc]; rfl

variable {role : Role} {settings : Settings} {firstId firstId' : UInt8}

theorem script_concat (ts : List Task) (t : Task) :
    script role settings firstId (ts ++ [t]) p = script role settings firstId ts p ++
      if t.peer = p then [t.event.named ((run role settings firstId ts).tokensOf p)] else [] := by
  rw [script, scriptFrom_append, scriptFrom, scriptFrom, List.append_nil]
  rfl

/-- A script ends with the last task of its peer. -/
theorem script_eq_concat {ts : List Task} {xs : List SessionEvent} {e : SessionEvent}
    (h : script role settings firstId ts p = xs ++ [e]) :
    ∃ before t after, ts = before ++ t :: after ∧ t.peer = p ∧
      script role settings firstId before p = xs ∧
      t.event.named ((run role settings firstId before).tokensOf p) = e ∧
      ∀ u ∈ after, u.peer ≠ p := by
  induction ts using List.reverseRecOn with
  | nil => exact absurd h (by simp [script, scriptFrom])
  | append_singleton ts u ih =>
    rw [script_concat] at h
    split at h
    · rename_i hu
      obtain ⟨hxs, he⟩ := List.append_inj' h rfl
      exact ⟨ts, u, [], rfl, hu, hxs, List.singleton_inj.mp he, nofun⟩
    · rename_i hu
      rw [List.append_nil] at h
      obtain ⟨before, t, after, rfl, ht, hxs, he, hafter⟩ := ih h
      refine ⟨before, t, after ++ [u], by simp, ht, hxs, he, fun v hv => ?_⟩
      rcases List.mem_append.mp hv with hv | hv
      · exact hafter v hv
      · rwa [List.mem_singleton.mp hv]

theorem script_eq_nil {ts : List Task} (h : script role settings firstId ts p = []) :
    ∀ u ∈ ts, u.peer ≠ p := by
  induction ts using List.reverseRecOn with
  | nil => exact nofun
  | append_singleton ts u ih =>
    rw [script_concat, List.append_eq_nil_iff] at h
    intro v hv
    rcases List.mem_append.mp hv with hv | hv
    · exact ih h.1 v hv
    · rw [List.mem_singleton.mp hv]
      intro hu
      rw [if_pos hu] at h
      exact absurd h.2 (by simp)

/-! ### One run -/

/-- What holds of every run: its sessions are at work, its tokens are accounted for, and a session
arms timers for its own peer. -/
structure Sound (c : Chronicle) : Prop where
  lives : c.handler.Lives
  minted : Minted c.handler.slots c.handler.nextToken c.requests
  own : ∀ x ∈ c.asked, ∀ q kind token after,
    x.effect = .timer (.arm q kind token after) → q = x.peer

theorem sound_run (role : Role) (settings : Settings) (firstId : UInt8) (ts : List Task) :
    (run role settings firstId ts).Sound := by
  refine run_induction (P := Sound) ?_ (fun c t h => ?_) ts
  · exact ⟨Handler.lives_init role settings firstId, Minted.init _, nofun⟩
  · refine ⟨Handler.lives_process h.lives t.peer t.event, minted_take h.lives h.minted t,
      fun x hx q kind token after hxq => ?_⟩
    rcases List.mem_append.mp hx with hx | hx
    · exact h.own x hx q kind token after hxq
    · obtain ⟨e, he, rfl⟩ := List.mem_map.mp hx
      obtain ⟨actions, hactions⟩ := c.handler.process_effects t.peer t.event
      obtain rfl : e = .timer (.arm q kind token after) := hxq
      rw [hactions] at he
      obtain ⟨a, -, ha⟩ := List.mem_flatMap.mp he
      cases a <;> simp_all [Action.effects]

theorem mem_requests {x : Asked} (hx : x ∈ c.asked) {r : TimerRequest}
    (hr : x.effect = .timer r) : r ∈ c.requests :=
  List.mem_filterMap.mpr ⟨x, hx, by rw [hr]; rfl⟩

section

variable (h : c.Sound)
include h

/-- Whatever was armed or cancelled has a token that was handed out. -/
theorem Sound.token_lt {x : Effect} (hx : x ∈ c.effectsOf p) {token : TimerToken}
    (ht : x.token? = some token) : token < c.handler.nextToken := by
  obtain ⟨y, hy, rfl⟩ := List.mem_map.mp hx
  cases heffect : y.effect with
  | timer r =>
    have hr := mem_requests (List.mem_of_mem_filter hy) heffect
    rw [heffect] at ht
    cases r with
    | arm q kind a after =>
      cases ht
      exact h.minted.below { peer := q, kind, token }
        (List.mem_filterMap.mpr ⟨_, hr, rfl⟩)
    | cancel a =>
      cases ht
      exact (h.minted.spent token hr).1
  | command | notice =>
    rw [heffect] at ht
    cases ht

/-- The tokens of a peer are those of timers that were armed for it. -/
theorem Sound.mem_armed {token : TimerToken} (ht : token ∈ c.tokensOf p) :
    ∃ kind, { peer := p, kind, token } ∈ TimerRequest.armed c.requests := by
  obtain ⟨y, hy, hyt⟩ := List.mem_filterMap.mp ht
  obtain ⟨x, hx, rfl⟩ := List.mem_map.mp hy
  obtain ⟨hasked, hpeer⟩ := List.mem_filter.mp hx
  obtain ⟨q, kind, after, heffect⟩ := Effect.eq_arm_of_armed? hyt
  have hq : q = p := (h.own x hasked q kind token after heffect).trans (of_decide_eq_true hpeer)
  rw [hq] at heffect
  exact ⟨kind, List.mem_filterMap.mpr ⟨_, mem_requests hasked heffect, rfl⟩⟩

theorem Sound.tokensOf_lt {token : TimerToken} (ht : token ∈ c.tokensOf p) :
    token < c.handler.nextToken := by
  obtain ⟨kind, harmed⟩ := h.mem_armed ht
  exact h.minted.below _ harmed

/-- No token is that of two peers. -/
theorem Sound.peer_eq {q : PeerAddress} {token : TimerToken} (hp : token ∈ c.tokensOf p)
    (hq : token ∈ c.tokensOf q) : p = q := by
  obtain ⟨kind, harmed⟩ := h.mem_armed hp
  obtain ⟨kind', harmed'⟩ := h.mem_armed hq
  exact congrArg Timer.peer (h.minted.eq_of_token harmed harmed' rfl)

/-- What is in a slot of a peer's session was armed for this peer. -/
theorem Sound.mem_tokensOf {s : Session} (hs : c.handler.session? p = some s) {kind : TimerKind}
    {token : TimerToken} (hk : s.timers.get kind = some token) : token ∈ c.tokensOf p := by
  have hslot : (c.handler.slots p).get kind = some token := by rwa [Handler.slots, hs]
  obtain ⟨r, hr, htimer⟩ := List.mem_filterMap.mp
    (h.minted.mem_armed (x := { peer := p, kind, token }) hslot)
  obtain ⟨x, hx, hxr⟩ := List.mem_filterMap.mp hr
  cases r with
  | arm q k a after =>
    cases htimer
    have heffect : x.effect = .timer (.arm p kind token after) := by
      cases he : x.effect <;> rw [he] at hxr <;> cases hxr
      rfl
    have hpeer := h.own x hx p kind token after heffect
    exact List.mem_filterMap.mpr ⟨x.effect, List.mem_map_of_mem (List.mem_filter.mpr
      ⟨hx, by simp [hpeer]⟩), by rw [heffect]; rfl⟩
  | cancel => cases htimer

end

/-! ### Two runs -/

/-- What may differ between the sessions of a peer in two runs: tokens and session ids. -/
def likeness (R : TimerToken → TimerToken → Prop) (id id' : UInt8) : Likeness :=
  { token := R, message := Eq, id, id', refl := fun _ => rfl
    kind := fun h => by rw [h]
    content := fun h => by rw [h] }

/-- Two runs that are alike for a peer, up to a one-to-one relation between the tokens of its
timers. -/
structure AlikeAt (p : PeerAddress) (c c' : Chronicle) (R : TimerToken → TimerToken → Prop) :
    Prop where
  drawn : ∀ a b, R a b → a ∈ c.tokensOf p ∧ b ∈ c'.tokensOf p
  same : ∀ {a a' b b'}, R a b → R a' b' → (a = a' ↔ b = b')
  session : Option.Rel
    (fun s s' => (likeness R s.sessionId s'.sessionId).Sessions s s')
    (c.handler.session? p) (c'.handler.session? p)
  effects : List.Forall₂ (Effect.Alike R) (c.effectsOf p) (c'.effectsOf p)

theorem alikeAt_init (p : PeerAddress) :
    AlikeAt p (init role settings firstId) (init role settings firstId') fun _ _ => False :=
  ⟨fun _ _ h => h.elim, fun h => h.elim, .none, .nil⟩

/-- The task of another peer changes nothing for a peer. -/
theorem take_of_ne (h : c.Sound) (ht : t.peer ≠ p) :
    (c.take t).handler.session? p = c.handler.session? p ∧
      (c.take t).effectsOf p = c.effectsOf p :=
  ⟨Handler.session?_process_of_ne h.lives (Ne.symm ht),
    by rw [effectsOf_take, if_neg ht, List.append_nil]⟩

/-- A task that is discarded changes nothing. -/
theorem Sound.take_of_discarded (h : c.Sound) (hnone : c.handler.session? t.peer = none)
    (he : t.event.creates = false) :
    (c.take t).handler.session? p = c.handler.session? p ∧
      (c.take t).effectsOf p = c.effectsOf p := by
  obtain ⟨hnext, heffects⟩ := Handler.process_of_not_creates h.lives hnone he
  refine ⟨congrArg (Handler.session? · p) hnext, ?_⟩
  rw [effectsOf_take, heffects, ite_self, List.append_nil]

theorem run_append_of_ne (before after : List Task) (hafter : ∀ u ∈ after, u.peer ≠ p) :
    (run role settings firstId (before ++ after)).handler.session? p =
        (run role settings firstId before).handler.session? p ∧
      (run role settings firstId (before ++ after)).effectsOf p =
        (run role settings firstId before).effectsOf p := by
  induction after using List.reverseRecOn with
  | nil => rw [List.append_nil]; exact ⟨rfl, rfl⟩
  | append_singleton after u ih =>
    obtain ⟨hsession, heffects⟩ := ih fun v hv => hafter v (List.mem_append_left _ hv)
    obtain ⟨hsession', heffects'⟩ := take_of_ne (sound_run role settings firstId (before ++ after))
      (hafter u (List.mem_append_right _ (List.mem_singleton_self u)))
    rw [← List.append_assoc, run_concat]
    exact ⟨hsession'.trans hsession, heffects'.trans heffects⟩

section Step

variable {R S : TimerToken → TimerToken → Prop} {id id' : UInt8}

theorem AlikeAt.congr {c₁ c₁' : Chronicle} (h : AlikeAt p c c' R)
    (hc : c₁.handler.session? p = c.handler.session? p ∧ c₁.effectsOf p = c.effectsOf p)
    (hc' : c₁'.handler.session? p = c'.handler.session? p ∧ c₁'.effectsOf p = c'.effectsOf p) :
    AlikeAt p c₁ c₁' R := by
  refine ⟨?_, h.same, ?_, ?_⟩
  · rw [tokensOf, tokensOf, hc.2, hc'.2]
    exact h.drawn
  · rw [hc.1, hc'.1]
    exact h.session
  · rw [hc.2, hc'.2]
    exact h.effects

theorem sessions_imp {s s' : Session} (h : (likeness R id id').Sessions s s')
    (hR : ∀ kind a b, s.timers.get kind = some a → R a b → S a b) :
    (likeness S id id').Sessions s s' := by
  cases h with
  | mk timers outbound hid htimers houtbound =>
    refine .mk (L := likeness S id id') timers outbound hid (fun k => ?_) houtbound
    have hk := htimers k
    generalize hs : s.timers.get k = x, timers.get k = y at hk ⊢
    cases hk with
    | none => exact .none
    | some hab => exact .some (hR k _ _ hs hab)

theorem effects_of_actions (peer : PeerAddress) {as as' : List Action}
    (h : List.Forall₂ (likeness R id id').Actions as as') :
    List.Forall₂ (Effect.Alike R) (as.flatMap (Action.effects peer))
      (as'.flatMap (Action.effects peer)) := by
  induction h with
  | nil => exact .nil
  | cons ha _ ih =>
    rw [List.flatMap_cons, List.flatMap_cons]
    refine List.rel_append ?_ ih
    cases ha with
    | connect => exact .cons (.command _) .nil
    | send hm =>
      cases hm with
      | message h =>
        cases h
        exact .cons (.command _) .nil
      | opening => exact .cons (.opening ..) .nil
      | counter => exact .cons (.counter ..) .nil
    | deliver h =>
      cases h
      exact .cons (.notice _) .nil
    | arm k h after => exact .cons (.arm peer k h after) .nil
    | cancel k h => exact .cons (.cancel h) .nil
    | established => exact .cons (.notice _) .nil
    | close reason => exact .cons (.command _) (.cons (.notice _) .nil)

theorem any_isClose_of_actions {as as' : List Action}
    (h : List.Forall₂ (likeness R id id').Actions as as') :
    as'.any Action.isClose = as.any Action.isClose := by
  induction h with
  | nil => rfl
  | cons ha _ ih =>
    rw [List.any_cons, List.any_cons, ih]
    cases ha <;> rfl

/-- The relation between the tokens while a task is handled: that of before, and the tokens that are
at hand. -/
def joined (R : TimerToken → TimerToken → Prop) (n n' : TimerToken) (a b : TimerToken) : Prop :=
  R a b ∨ ∃ i, a = n + i ∧ b = n' + i

/-- A task hands out the tokens that it arms timers of its peer under. -/
theorem Sound.drawn_take (h : c.Sound) (t : Task) :
    c.handler.nextToken ≤ (c.take t).handler.nextToken ∧
      ∀ a, c.handler.nextToken ≤ a → a < (c.take t).handler.nextToken →
        a ∈ (c.take t).tokensOf t.peer := by
  obtain ⟨actions, hrequests, hbooks⟩ := Handler.process_books h.lives t.peer t.event
  obtain ⟨hle, hdrawn⟩ := Ledger.drawn hbooks
  refine ⟨hle, fun a ha ha' => ?_⟩
  obtain ⟨kind, after, hmem⟩ := hdrawn a ha ha'
  have hrequest : TimerRequest.arm t.peer kind a after ∈
      (c.handler.process t.peer t.event).requests := by
    rw [hrequests]
    exact List.mem_filterMap.mpr ⟨_, hmem, rfl⟩
  obtain ⟨x, hx, hxr⟩ := List.mem_filterMap.mp hrequest
  rw [tokensOf, effectsOf_take, if_pos rfl, List.filterMap_append]
  refine List.mem_append_right _ (List.mem_filterMap.mpr ⟨x, hx, ?_⟩)
  cases x <;> cases hxr
  rfl

theorem tokensOf_subset_take (p : PeerAddress) : c.tokensOf p ⊆ (c.take t).tokensOf p := by
  rw [tokensOf, tokensOf, effectsOf_take, List.filterMap_append]
  exact List.subset_append_left ..

/-- Slots that are alike hold tokens that belong together or neither does. -/
theorem AlikeAt.eq_some_iff (h : AlikeAt p c c' R) {x y : Option TimerToken} {a b : TimerToken}
    (hxy : Option.Rel R x y) (hab : R a b) : x = some a ↔ y = some b := by
  cases hxy with
  | none => exact iff_of_false (by simp) (by simp)
  | some hR =>
    rw [Option.some_inj, Option.some_inj]
    exact h.same hR hab

/-- What a turn of the peer's session comes to: the tokens that it hands out, the session that is
left, if any, and the effects. -/
theorem take_of_settle (hp : t.peer = p) {h₀ : Handler} {turn : Turn}
    (hprocess : c.handler.process t.peer t.event = h₀.settle t.peer turn) :
    (c.take t).handler.nextToken = turn.nextToken ∧
      (c.take t).handler.session? p =
        (if turn.actions.any Action.isClose then none else some turn.session) ∧
      (c.take t).effectsOf p = c.effectsOf p ++ turn.actions.flatMap (Action.effects p) := by
  refine ⟨?_, ?_, ?_⟩
  · show (c.handler.process t.peer t.event).next.nextToken = _
    rw [hprocess, Handler.next_settle]
  · show (c.handler.process t.peer t.event).next.session? p = _
    rw [hprocess, Handler.session?_settle, if_pos hp.symm]
  · rw [effectsOf_take, if_pos hp, hprocess, Handler.effects_settle, hp]

section

variable (h : AlikeAt p c c' R) (hc : c.Sound) (hc' : c'.Sound)
include h hc hc'

theorem AlikeAt.joined_same {a a' b b' : TimerToken}
    (hab : joined R c.handler.nextToken c'.handler.nextToken a b)
    (hab' : joined R c.handler.nextToken c'.handler.nextToken a' b') : a = a' ↔ b = b' := by
  have hlt : ∀ {a b}, R a b → a < c.handler.nextToken ∧ b < c'.handler.nextToken := fun hR =>
    ⟨hc.tokensOf_lt (h.drawn _ _ hR).1, hc'.tokensOf_lt (h.drawn _ _ hR).2⟩
  have hne : ∀ {n a i : Nat}, a < n → a ≠ n + i := fun h => Nat.ne_of_lt (Nat.lt_add_right _ h)
  rcases hab with hR | ⟨i, rfl, rfl⟩
  · rcases hab' with hR' | ⟨j, rfl, rfl⟩
    · exact h.same hR hR'
    · exact iff_of_false (hne (hlt hR).1) (hne (hlt hR).2)
  · rcases hab' with hR' | ⟨j, rfl, rfl⟩
    · exact iff_of_false (hne (hlt hR').1).symm (hne (hlt hR').2).symm
    · rw [Nat.add_left_cancel_iff, Nat.add_left_cancel_iff]

/-- An expiry under the same name is that of the same slot. -/
theorem AlikeAt.armed_iff {s s' : Session} (hs : c.handler.session? p = some s)
    (hs' : c'.handler.session? p = some s') {kind : TimerKind} {a b : TimerToken}
    (hplace : (c.tokensOf p).idxOf a = (c'.tokensOf p).idxOf b) :
    s.timers.get kind = some a ↔ s'.timers.get kind = some b := by
  have htokens : List.Forall₂ R (c.tokensOf p) (c'.tokensOf p) := Effect.forall₂_armed h.effects
  have hsession := h.session
  rw [hs, hs'] at hsession
  obtain ⟨hsession⟩ := hsession
  have hslots := hsession.timers kind
  -- tokens at the same place belong together
  have hpair : (c.tokensOf p).idxOf a < (c.tokensOf p).length → R a b := by
    intro hlt
    have hlt' : (c.tokensOf p).idxOf a < (c'.tokensOf p).length := by
      rwa [← htokens.length_eq]
    have hget := htokens.get hlt hlt'
    have hb : (c'.tokensOf p).get ⟨(c.tokensOf p).idxOf a, hlt'⟩ = b := by
      simp only [hplace]
      exact List.getElem_idxOf _
    rwa [hb, show (c.tokensOf p).get ⟨_, hlt⟩ = a from List.getElem_idxOf hlt] at hget
  constructor
  · intro hk
    have hlt := List.idxOf_lt_length_of_mem (hc.mem_tokensOf hs hk)
    exact (h.eq_some_iff hslots (hpair hlt)).mp hk
  · intro hk
    have hlt := List.idxOf_lt_length_of_mem (hc'.mem_tokensOf hs' hk)
    rw [← hplace, ← htokens.length_eq] at hlt
    exact (h.eq_some_iff hslots (hpair hlt)).mpr hk

/-- Events under the same name are alike for the sessions of the peer. -/
theorem AlikeAt.events {s s' : Session} (hs : c.handler.session? p = some s)
    (hs' : c'.handler.session? p = some s') {e e' : SessionEvent}
    (hnamed : e.named (c.tokensOf p) = e'.named (c'.tokensOf p)) :
    (likeness S id id').Events s s' e e' := by
  cases e with
  | timerExpired kind a =>
    cases e' with
    | timerExpired kind' b =>
      simp only [SessionEvent.named, SessionEvent.timerExpired.injEq] at hnamed
      obtain ⟨rfl, hplace⟩ := hnamed
      exact .timerExpired kind (h.armed_iff hc hc' hs hs' hplace)
    | _ => cases hnamed
  | _ =>
    cases e' <;> cases hnamed
    exact .refl s s' nofun

/-- The peer takes a turn in both runs. -/
theorem AlikeAt.turn (hp : t.peer = p) {t' : Task} (hp' : t'.peer = p) (hnext : (c.take t).Sound)
    {h₀ h₀' : Handler} {turn turn' : Turn}
    (hprocess : c.handler.process t.peer t.event = h₀.settle t.peer turn)
    (hprocess' : c'.handler.process t'.peer t'.event = h₀'.settle t'.peer turn')
    (hturn : (likeness (joined R c.handler.nextToken c'.handler.nextToken) id id').Turns
      turn turn') : ∃ S, AlikeAt p (c.take t) (c'.take t') S := by
  obtain ⟨hafter, hsession, heffects⟩ := take_of_settle hp hprocess
  obtain ⟨hafter', hsession', heffects'⟩ := take_of_settle hp' hprocess'
  obtain ⟨hle, hdrawn⟩ := hc.drawn_take t
  obtain ⟨-, hdrawn'⟩ := hc'.drawn_take t'
  rw [hp] at hdrawn
  rw [hp'] at hdrawn'
  have hold : ∀ {a b}, R a b → a < c.handler.nextToken := fun hR =>
    hc.tokensOf_lt (h.drawn _ _ hR).1
  -- both runs hand out the same number of tokens
  obtain ⟨k, hk, hk'⟩ : ∃ k, (c.take t).handler.nextToken = c.handler.nextToken + k ∧
      (c'.take t').handler.nextToken = c'.handler.nextToken + k := by
    rw [hafter, hafter']
    exact (hturn.fresh 0).resolve_left fun hR =>
      absurd (hold hR) (Nat.not_lt.mpr (hafter ▸ hle))
  refine ⟨fun a b => joined R c.handler.nextToken c'.handler.nextToken a b ∧
    a < (c.take t).handler.nextToken, ?_, fun hab hab' => h.joined_same hc hc' hab.1 hab'.1, ?_, ?_⟩
  · rintro a b ⟨hR | ⟨i, rfl, rfl⟩, hlt⟩
    · obtain ⟨ha, hb⟩ := h.drawn a b hR
      exact ⟨tokensOf_subset_take p ha, tokensOf_subset_take p hb⟩
    · refine ⟨hdrawn _ (Nat.le_add_right ..) hlt, hdrawn' _ (Nat.le_add_right ..) ?_⟩
      rw [hk] at hlt
      rw [hk']
      exact Nat.add_lt_add_left (Nat.lt_of_add_lt_add_left hlt) _
  · rw [hsession, hsession', any_isClose_of_actions hturn.actions]
    cases hclose : turn.actions.any Action.isClose with
    | true => exact .none
    | false =>
      rw [hclose] at hsession
      refine .some ?_
      rw [hturn.session.ids.1, hturn.session.ids.2]
      exact sessions_imp hturn.session fun kind a b ha hab =>
        ⟨hab, hnext.tokensOf_lt (hnext.mem_tokensOf hsession ha)⟩
  · rw [heffects, heffects']
    refine List.rel_append (Effect.forall₂_imp h.effects fun x hx a b hxa hR =>
      ⟨.inl hR, Nat.lt_of_lt_of_le (hold hR) hle⟩) ?_
    refine Effect.forall₂_imp (effects_of_actions p hturn.actions) fun x hx a b hxa hab =>
      ⟨hab, hnext.token_lt (p := p) ?_ hxa⟩
    rw [heffects]
    exact List.mem_append_right _ hx

/-- A task of the peer under the same name. -/
theorem AlikeAt.take (hp : t.peer = p) {t' : Task} (hp' : t'.peer = p)
    (hnext : (c.take t).Sound) (hrole : c'.handler.role = c.handler.role)
    (hsettings : c'.handler.settings = c.handler.settings)
    (hnamed : t.event.named (c.tokensOf p) = t'.event.named (c'.tokensOf p)) :
    ∃ S, AlikeAt p (c.take t) (c'.take t') S := by
  have hcreates : t'.event.creates = t.event.creates := by
    rw [← SessionEvent.creates_named (c'.tokensOf p), ← hnamed, SessionEvent.creates_named]
  have hinitiator : decide (t'.event = .connectRequested) = decide (t.event = .connectRequested) :=
    decide_eq_decide.mpr <| by
      rw [← SessionEvent.named_eq_connectRequested (c'.tokensOf p), ← hnamed,
        SessionEvent.named_eq_connectRequested]
  have hfresh : ∀ i, joined R c.handler.nextToken c'.handler.nextToken
      (c.handler.nextToken + i) (c'.handler.nextToken + i) := fun i => .inr ⟨i, rfl, rfl⟩
  have hsession := h.session
  generalize hs : c.handler.session? p = x, hs' : c'.handler.session? p = x' at hsession
  cases hsession with
  | @some s s' hss =>
    have hturn := Likeness.handle
      (L := likeness (joined R c.handler.nextToken c'.handler.nextToken) s.sessionId s'.sessionId)
      (sessions_imp hss fun _ _ _ _ hab => .inl hab) hfresh (h.events hc hc' hs hs' hnamed)
    exact h.turn hc hc' hp hp' hnext (Handler.process_of_session (hp ▸ hs) _)
      (Handler.process_of_session (hp' ▸ hs') _) hturn
  | none =>
    cases he : t.event.creates with
    | false =>
      refine ⟨R, h.congr (hc.take_of_discarded (hp ▸ hs) he) (hc'.take_of_discarded (hp' ▸ hs') ?_)⟩
      rw [hcreates, he]
    | true =>
      have hinit : (likeness (joined R c.handler.nextToken c'.handler.nextToken)
          c.handler.ids.draw.1 c'.handler.ids.draw.1).Sessions
          (Session.init p c.handler.role (t.event = .connectRequested) c.handler.ids.draw.1
            c.handler.settings)
          (Session.init p c.handler.role (t.event = .connectRequested) c'.handler.ids.draw.1
            c.handler.settings) :=
        .mk {} [] rfl (fun k => by cases k <;> exact .none) .nil
      have hturn : (likeness (joined R c.handler.nextToken c'.handler.nextToken)
          c.handler.ids.draw.1 c'.handler.ids.draw.1).Turns
          (c.handler.opening t.peer (t.event = .connectRequested))
          (c'.handler.opening t'.peer (t'.event = .connectRequested)) := by
        rw [Handler.opening, Handler.opening, hinitiator, hp, hp', hrole, hsettings]
        exact Likeness.start hinit hfresh
      exact h.turn hc hc' hp hp' hnext (Handler.process_of_creates (hp ▸ hs) he)
        (Handler.process_of_creates (hp' ▸ hs') (hcreates.trans he)) hturn

end

end Step

variable {R : TimerToken → TimerToken → Prop}

theorem config_run (role : Role) (settings : Settings) (firstId : UInt8) (ts : List Task) :
    (run role settings firstId ts).handler.role = role ∧
      (run role settings firstId ts).handler.settings = settings := by
  refine run_induction (P := fun c => c.handler.role = role ∧ c.handler.settings = settings)
    ⟨rfl, rfl⟩ (fun c t h => ?_) ts
  exact ⟨(c.handler.role_process t.peer t.event).trans h.1,
    (c.handler.settings_process t.peer t.event).trans h.2⟩

/-- Runs in which a peer has the same script are alike for it. -/
theorem alikeAt_run (script' : List SessionEvent) {ts ts' : List Task}
    (hts : script role settings firstId ts p = script')
    (hts' : script role settings firstId' ts' p = script') :
    ∃ R, AlikeAt p (run role settings firstId ts) (run role settings firstId' ts') R := by
  induction script' using List.reverseRecOn generalizing ts ts' with
  | nil =>
    exact ⟨_, (alikeAt_init p).congr (run_append_of_ne [] ts (script_eq_nil hts))
      (run_append_of_ne [] ts' (script_eq_nil hts'))⟩
  | append_singleton xs e ih =>
    obtain ⟨before, t, after, rfl, ht, hxs, he, hafter⟩ := script_eq_concat hts
    obtain ⟨before', t', after', rfl, ht', hxs', he', hafter'⟩ := script_eq_concat hts'
    obtain ⟨R, hR⟩ := ih hxs hxs'
    obtain ⟨hrole, hsettings⟩ := config_run role settings firstId before
    obtain ⟨hrole', hsettings'⟩ := config_run role settings firstId' before'
    obtain ⟨S, hS⟩ := hR.take (sound_run ..) (sound_run ..) ht ht'
      (by rw [← run_concat]; exact sound_run ..) (hrole'.trans hrole.symm)
      (hsettings'.trans hsettings.symm) (he.trans he'.symm)
    rw [← run_concat, ← run_concat] at hS
    rw [List.append_cons before, List.append_cons before']
    exact ⟨S, hS.congr (run_append_of_ne _ after hafter) (run_append_of_ne _ after' hafter')⟩

/-- **Peers do not influence each other.**  Take two runs in which every peer has the same tasks in
the same order, whatever comes in between, and an expiry is that of the same timer of the peer in
both.  Then every peer is left with the same view of its session, and its sessions have asked for
the same, one by one: up to a one-to-one renaming of the tokens and up to the session id in the
proposals that are sent. -/
theorem peers_independent (role : Role) (settings : Settings) (firstId firstId' : UInt8)
    {ts ts' : List Task}
    (h : ∀ p, script role settings firstId ts p = script role settings firstId' ts' p) :
    let c := run role settings firstId ts
    let c' := run role settings firstId' ts'
    (∀ p, c'.handler.registry.snapshot? p = c.handler.registry.snapshot? p) ∧
      ∃ ρ : TimerToken → TimerToken, Set.InjOn ρ {a | ∃ p, a ∈ c.tokensOf p} ∧
        ∀ p, List.Forall₂ (Effect.Alike fun a b => b = ρ a) (c.effectsOf p) (c'.effectsOf p) := by
  intro c c'
  have hc : c.Sound := sound_run ..
  have hc' : c'.Sound := sound_run ..
  have halike : ∀ p, ∃ R, AlikeAt p c c' R := fun p => alikeAt_run _ (h p) rfl
  choose R hR using halike
  -- no token is that of two peers, so their relations are one
  have hone : ∀ {p q a a' b b'}, R p a b → R q a' b' → (a = a' ↔ b = b') := by
    intro p q a a' b b' hab hab'
    obtain ⟨ha, hb⟩ := (hR p).drawn a b hab
    obtain ⟨ha', hb'⟩ := (hR q).drawn a' b' hab'
    constructor
    · rintro rfl
      obtain rfl := hc.peer_eq ha ha'
      exact ((hR p).same hab hab').mp rfl
    · rintro rfl
      obtain rfl := hc'.peer_eq hb hb'
      exact ((hR p).same hab hab').mpr rfl
  have hrename : ∀ a, ∃ b, ∀ p b', R p a b' → b' = b := by
    intro a
    by_cases ha : ∃ p b, R p a b
    · obtain ⟨p, b, hab⟩ := ha
      exact ⟨b, fun q b' hab' => (hone hab' hab).mp rfl⟩
    · exact ⟨a, fun p b hab => absurd ⟨p, b, hab⟩ ha⟩
  choose ρ hρ using hrename
  refine ⟨fun p => ?_, ρ, ?_, fun p => ?_⟩
  · show (c'.handler.session? p).map Session.snapshot = (c.handler.session? p).map Session.snapshot
    have hsession := (hR p).session
    generalize c.handler.session? p = x, c'.handler.session? p = x' at hsession
    cases hsession with
    | none => rfl
    | some hs => exact congrArg some hs.snapshot
  · have hmem : ∀ {p a}, a ∈ c.tokensOf p → R p a (ρ a) := by
      intro p a ha
      obtain ⟨b, hab⟩ := exists_of_forall₂ (Effect.forall₂_armed (hR p).effects) ha
      rwa [← hρ a p b hab]
    rintro a ⟨p, ha⟩ a' ⟨q, ha'⟩ heq
    exact (hone (hmem ha) (hmem ha')).mpr heq
  · exact Effect.forall₂_imp (hR p).effects fun _ _ a b _ hab => hρ a p b hab

/-- Two peers connect, in either order, and the OPEN of one does not come in time: the expiry is
that of its only timer, under another token. -/
theorem peers_independent_swapped :
    let p := PeerAddress.v4 ⟨10, 0, 0, 1⟩ 4189
    let q := PeerAddress.v4 ⟨10, 0, 0, 2⟩ 4189
    let ts := [Task.mk p .accepted, ⟨q, .accepted⟩, ⟨p, .timerExpired .openWait 1⟩]
    let ts' := [Task.mk q .accepted, ⟨p, .accepted⟩, ⟨p, .timerExpired .openWait 2⟩]
    let c := run .server {} 1 ts
    let c' := run .server {} 1 ts'
    (∀ r, script .server {} 1 ts r = script .server {} 1 ts' r) ∧
      c.tokensOf p = [1] ∧ c'.tokensOf p = [2] ∧
      (∀ r, c'.handler.registry.snapshot? r = c.handler.registry.snapshot? r) ∧
      ∃ ρ : TimerToken → TimerToken, Set.InjOn ρ {a | ∃ r, a ∈ c.tokensOf r} ∧
        ∀ r, List.Forall₂ (Effect.Alike fun a b => b = ρ a) (c.effectsOf r) (c'.effectsOf r) := by
  intro p q ts ts' c c'
  have hscript : ∀ r, script .server {} 1 ts r = script .server {} 1 ts' r := by
    intro r
    by_cases hp : p = r
    · subst hp
      decide +kernel
    · by_cases hq : q = r
      · subst hq
        decide +kernel
      · simp [script, scriptFrom, ts, ts', hp, hq]
  exact ⟨hscript, by decide +kernel, by decide +kernel, peers_independent .server {} 1 1 hscript⟩

end Chronicle

end PathSession
