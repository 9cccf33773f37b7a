import Mathlib.Data.List.Basic
import Mathlib.Logic.Function.Basic
import PathSession.Engine.Calls
import PathSession.Proofs.Engine.Handling

/-!
# What a collaborator observes

The sessions of a peer come one after the other, and so do the callbacks about them.  Nothing is
told of a session until it is up; then that it is, the messages it delivers, and its end.  A session
that never came up has its end told alone.

* `Chronicle`, `Chronicle.run`: the handler over any tasks, with all that its sessions asked for;
* `Session.Told`, `Over`: what is told of a session that is there, and of one that has ended;
* `Blocks`: the callbacks about one peer, session by session;
* `Chronicle.callbacks_in_blocks`: they come in blocks, and every ended session is told of as such.
-/

namespace PathSession

/-! ### What a turn tells -/

namespace Action

variable {as : List Action} {peer : PeerAddress}

/-- Without a beginning and an end, a turn tells what it delivers. -/
theorem notices_of_going (he : .established ∉ as) (hc : ∀ reason, .close reason ∉ as) :
    as.filterMap (notice? peer) = (delivered as).map (.message peer) := by
  rw [delivered, List.map_filterMap]
  refine List.filterMap_congr fun a ha => ?_
  cases a with
  | established => exact absurd ha he
  | close reason => exact absurd ha (hc reason)
  | _ => rfl

theorem notices_of_quiet (h : ∀ a ∈ as, a.isQuiet = true) : as.filterMap (notice? peer) = [] := by
  rw [notices_of_going (established_notMem_of_quiet h) (close_notMem_of_quiet h),
    delivered_of_quiet h, List.map_nil]

theorem peer_of_notice? {a : Action} {n : Notice} (h : a.notice? peer = some n) :
    n.peer = peer := by
  cases a with
  | deliver | established | close =>
    cases h
    rfl
  | _ => cases h

end Action

/-- What is told of a session that is there: nothing unless it is up, and then that it is and its
messages. -/
def Session.Told (peer : PeerAddress) (s : Session) (told : List Notice) : Prop :=
  if s.state = .sessionUp then
    ∃ ms : List Message, told = .established peer :: ms.map (.message peer)
  else
    told = []

/-- What is told of a session that has ended: that it has, behind what was told before. -/
def Over (peer : PeerAddress) (told : List Notice) : Prop :=
  ∃ before reason, told = before ++ [.closed peer reason] ∧
    (before = [] ∨ ∃ ms : List Message, before = .established peer :: ms.map (.message peer))

namespace Session

variable {peer : PeerAddress} {s : Session} {before : List Notice}

theorem Told.over (h : s.Told peer before) (reason : CloseReason) :
    Over peer (before ++ [.closed peer reason]) := by
  refine ⟨before, reason, rfl, ?_⟩
  unfold Told at h
  split at h
  · exact .inr h
  · exact .inl h

/-- Whatever comes of an event is told behind what was told before. -/
theorem Outcome.told {l : Ledger} {e : SessionEvent} {t : Turn} (h : Outcome l s e t)
    (ht : s.Told peer before) :
    (t.session.closed = false ∧
        t.session.Told peer (before ++ t.actions.filterMap (Action.notice? peer))) ∨
      t.session.closed = true ∧
        ∃ reason, t.actions.filterMap (Action.notice? peer) = [.closed peer reason] := by
  cases h with
  | goesOn h =>
    refine .inl ⟨h.still, ?_⟩
    rw [Action.notices_of_going h.established h.going, h.delivered]
    unfold Told at ht ⊢
    by_cases hs : s.state = .sessionUp
    · rw [if_pos hs] at ht
      rw [if_pos (h.up.mpr hs)]
      obtain ⟨ms, rfl⟩ := ht
      exact ⟨ms ++ s.taken e, by simp⟩
    · rw [if_neg hs] at ht
      rw [if_neg (mt h.up.mp hs), ht]
      cases e <;> simp [taken, hs]
  | comesUp hs h =>
    obtain ⟨quiet, hactions, hquiet⟩ := h.actions
    have hsends : ∀ ms : List Message,
        (ms.map Action.send).filterMap (Action.notice? peer) = [] := fun ms => by
      simp [Action.notice?, List.filterMap_map]
    refine .inl ⟨h.still, ?_⟩
    unfold Told at ht ⊢
    rw [if_neg hs] at ht
    rw [if_pos h.up, ht, hactions, List.filterMap_append, Action.notices_of_quiet hquiet,
      List.filterMap_cons, hsends]
    exact ⟨[], rfl⟩
  | @ends _ _ reason _ hp h =>
    obtain ⟨quiet, hactions, -, hquiet⟩ := h.actions
    refine .inr ⟨h.closed, reason, ?_⟩
    rw [hactions, List.filterMap_append, Action.notices_of_quiet hquiet]
    rfl

end Session

namespace Handler

variable {h : Handler} {peer : PeerAddress} {e : SessionEvent}

/-- All callbacks of a task are about its peer. -/
theorem peer_of_notices (h : Handler) (peer : PeerAddress) (e : SessionEvent) :
    ∀ n ∈ (h.process peer e).notices, n.peer = peer := by
  intro n hn
  obtain ⟨actions, heffects⟩ := h.process_effects peer e
  rw [Handled.notices, heffects, Action.notices_effects] at hn
  obtain ⟨a, -, ha⟩ := List.mem_filterMap.mp hn
  exact Action.peer_of_notice? ha

/-- The end of a session is told behind its leaving the registry. -/
theorem remove_mem_of_strokes {as : List Action} {before after : List Stroke} {reason : CloseReason}
    (hs : as.flatMap (strokes peer) = before ++ .effect (.notice (.closed peer reason)) :: after) :
    .remove ∈ before := by
  induction as generalizing before with
  | nil => simp at hs
  | cons a as ih =>
    rw [List.flatMap_cons] at hs
    rcases List.append_eq_append_iff.mp hs with ⟨more, rfl, hmore⟩ | ⟨more, ha, hmore⟩
    · exact List.mem_append_right _ (ih hmore)
    · cases more with
      | nil =>
        have hnone : .remove ∈ ([] : List Stroke) := ih hmore.symm
        cases hnone
      | cons x more =>
        obtain ⟨rfl, -⟩ := List.cons.inj hmore
        -- only a close tells an end, and it starts with the removal
        cases before with
        | nil => cases a <;> simp [strokes] at ha
        | cons y before =>
          cases a with
          | close reason' =>
            rw [← (List.cons.inj ha).1]
            exact List.mem_cons_self
          | _ => simp [strokes] at ha

/-- A session that has left does not come back while its turn is carried out. -/
theorem session?_foldl_strike {h : Handled} (strokes : List Stroke)
    (hgone : h.next.session? peer = none ∨ .remove ∈ strokes) :
    (strokes.foldl (strike peer) h).next.session? peer = none := by
  induction strokes generalizing h with
  | nil => exact hgone.resolve_right List.not_mem_nil
  | cons x strokes ih =>
    refine ih ?_
    cases x with
    | remove => exact .inl (Table.get?_erase_self ..)
    | effect | remark => exact hgone.imp_right fun hmem => by simpa using hmem

/-- A task of a peer that has a session is carried out stroke by stroke. -/
theorem process_eq_strokes {s : Session} (hs : h.session? peer = some s) :
    h.process peer e = ((s.handle h.nextToken e).actions.flatMap (strokes peer)).foldl
      (strike peer) (h.keep peer (s.handle h.nextToken e)) := by
  rw [process, show h.registry.sessions.get? peer = some s from hs, List.foldl_flatMap]
  rfl

end Handler

/-! ### The callbacks about one peer -/

/-- The callbacks about one peer: the number of its sessions so far, what was told of each, and all
of it in order.  A session that has ended is told of as such, and the present one as it is. -/
structure Blocks (peer : PeerAddress) (present : Option Session) (created : Nat)
    (told : Nat → List Notice) (all : List Notice) : Prop where
  whole : all = (List.range' 1 created).flatMap told
  past : ∀ n, 1 ≤ n → n < created → Over peer (told n)
  last : match present with
    | some s => 1 ≤ created ∧ s.Told peer (told created)
    | none => 1 ≤ created → Over peer (told created)
  future : ∀ n, created < n → told n = []

namespace Blocks

variable {peer : PeerAddress} {s : Session} {created : Nat} {told : Nat → List Notice}
variable {all new : List Notice}

theorem init : Blocks peer none 0 (fun _ => []) [] :=
  ⟨rfl, fun n h₁ h₂ => by omega, fun h => by omega, fun _ _ => rfl⟩

/-- A peer gets its next session. -/
theorem create (h : Blocks peer none created told all) (hs : s.state ≠ .sessionUp) :
    Blocks peer (some s) (created + 1) told all where
  whole := by
    rw [List.range'_1_concat, List.flatMap_append, ← h.whole, List.flatMap_singleton,
      h.future _ (by omega), List.append_nil]
  past n h₁ h₂ := by
    by_cases hn : n < created
    · exact h.past n h₁ hn
    · obtain rfl : n = created := by omega
      exact h.last h₁
  last := by
    refine ⟨by omega, ?_⟩
    rw [Session.Told, if_neg hs]
    exact h.future _ (by omega)
  future n hn := h.future n (by omega)

/-- More is told of the present session, and it stays or ends. -/
theorem tell (h : Blocks peer (some s) created told all) {present : Option Session}
    (hlast : match present with
      | some s => s.Told peer (told created ++ new)
      | none => Over peer (told created ++ new)) :
    Blocks peer present created (Function.update told created (told created ++ new))
      (all ++ new) where
  whole := by
    obtain ⟨n, rfl⟩ : ∃ n, created = n + 1 := Nat.exists_eq_add_of_le' h.last.1
    have hearlier : (List.range' 1 n).flatMap (Function.update told (n + 1) (told (n + 1) ++ new))
        = (List.range' 1 n).flatMap told := by
      refine List.flatMap_congr fun i hi => ?_
      have := List.mem_range'_1.mp hi
      rw [Function.update_of_ne (by omega)]
    have hwhole := h.whole
    rw [List.range'_1_concat, List.flatMap_append, List.flatMap_singleton, Nat.add_comm 1 n]
      at hwhole ⊢
    rw [hearlier, Function.update_self, hwhole, List.append_assoc]
  past n h₁ h₂ := by
    rw [Function.update_of_ne (by omega)]
    exact h.past n h₁ h₂
  last := by
    rw [Function.update_self]
    cases present with
    | some s => exact ⟨h.last.1, hlast⟩
    | none => exact fun _ => hlast
  future n hn := by
    rw [Function.update_of_ne (by omega)]
    exact h.future n hn

end Blocks

/-! ### A handler over many tasks -/

/-- Something that a session asked for: its peer, its number among the sessions of this peer, and
the effect. -/
structure Asked where
  peer : PeerAddress
  session : Nat
  effect : Effect
  deriving DecidableEq

/-- The sessions of a node and all that was asked for.  The sessions of a peer are numbered from 1
in the order in which they are created. -/
structure Chronicle where
  handler : Handler
  /-- how many sessions each peer has had -/
  created : PeerAddress → Nat
  /-- oldest first -/
  asked : List Asked

namespace Chronicle

/-- Nothing has happened. -/
def init (role : Role) (settings : Settings) (firstId : UInt8) : Chronicle :=
  { handler := .init role settings firstId, created := fun _ => 0, asked := [] }

/-- Whether a task creates a session. -/
def enrolls (c : Chronicle) (t : Task) : Bool :=
  (c.handler.session? t.peer).isNone && t.event.creates

/-- A task is handled. -/
def take (c : Chronicle) (t : Task) : Chronicle :=
  let handled := c.handler.process t.peer t.event
  let created := if c.enrolls t then Function.update c.created t.peer (c.created t.peer + 1)
    else c.created
  { handler := handled.next
    created
    asked := c.asked ++ handled.effects.map (Asked.mk t.peer (created t.peer)) }

/-- What comes of tasks that are handled one after the other. -/
def run (role : Role) (settings : Settings) (firstId : UInt8) (tasks : List Task) : Chronicle :=
  tasks.foldl take (init role settings firstId)

/-- The callbacks about a peer, in order. -/
def callbacks (c : Chronicle) (peer : PeerAddress) : List Notice :=
  (c.asked.filterMap (·.effect.notice?)).filter (·.peer = peer)

/-- The callbacks that were made for one session of a peer. -/
def told (c : Chronicle) (peer : PeerAddress) (n : Nat) : List Notice :=
  (c.asked.filter fun x => x.peer = peer && x.session = n).filterMap (·.effect.notice?)

/-- What was asked of the timers, in order. -/
def requests (c : Chronicle) : List TimerRequest := c.asked.filterMap (·.effect.request?)

variable {role : Role} {settings : Settings} {firstId : UInt8} (c : Chronicle) (t : Task)

theorem run_concat (ts : List Task) :
    run role settings firstId (ts ++ [t]) = (run role settings firstId ts).take t :=
  List.foldl_concat ..

/-- What is preserved by every task holds of all runs. -/
theorem run_induction {P : Chronicle → Prop} (hinit : P (init role settings firstId))
    (htake : ∀ c t, P c → P (c.take t)) (ts : List Task) : P (run role settings firstId ts) := by
  induction ts using List.reverseRecOn with
  | nil => exact hinit
  | append_singleton ts t ih =>
    rw [run_concat]
    exact htake _ _ ih

theorem requests_take : (c.take t).requests =
    c.requests ++ (c.handler.process t.peer t.event).requests := by
  rw [requests, take, List.filterMap_append, List.filterMap_map]
  rfl

theorem callbacks_take (peer : PeerAddress) : (c.take t).callbacks peer =
    c.callbacks peer ++
      if peer = t.peer then (c.handler.process t.peer t.event).notices else [] := by
  have hpeer := c.handler.peer_of_notices t.peer t.event
  rw [callbacks, take, List.filterMap_append, List.filterMap_map, List.filter_append]
  refine congrArg _ ?_
  show List.filter _ (c.handler.process t.peer t.event).notices = _
  split
  · rename_i hp
    exact List.filter_eq_self.mpr fun n hn => decide_eq_true (hp ▸ hpeer n hn)
  · rename_i hp
    refine List.filter_eq_nil_iff.mpr fun n hn => ?_
    rw [hpeer n hn]
    simpa using Ne.symm hp

theorem told_take_self : (c.take t).told t.peer =
    Function.update (c.told t.peer) ((c.take t).created t.peer)
      (c.told t.peer ((c.take t).created t.peer) ++
        (c.handler.process t.peer t.event).notices) := by
  funext n
  have hnew : (c.take t).told t.peer n = c.told t.peer n ++
      (((c.handler.process t.peer t.event).effects.map
        (Asked.mk t.peer ((c.take t).created t.peer))).filter fun x =>
          x.peer = t.peer && x.session = n).filterMap (·.effect.notice?) := by
    rw [told, told, ← List.filterMap_append, ← List.filter_append]
    rfl
  rw [hnew]
  by_cases hn : n = (c.take t).created t.peer
  · subst hn
    rw [Function.update_self, List.filter_eq_self.mpr (by simp), List.filterMap_map]
    rfl
  · rw [Function.update_of_ne hn, List.filter_eq_nil_iff.mpr (by simpa using fun _ _ => Ne.symm hn)]
    simp

theorem told_take_of_ne {q : PeerAddress} (hq : q ≠ t.peer) : (c.take t).told q = c.told q := by
  funext n
  rw [told, told, take, List.filter_append, List.filterMap_append]
  refine List.append_right_eq_self.mpr ?_
  rw [List.filter_eq_nil_iff.mpr (by simp [Ne.symm hq])]
  rfl

theorem created_take_of_ne {q : PeerAddress} (hq : q ≠ t.peer) :
    (c.take t).created q = c.created q := by
  simp only [take]
  split
  · rw [Function.update_of_ne hq]
  · rfl

/-- Every registered session is at work, and the callbacks about each peer come in blocks. -/
structure Told (c : Chronicle) : Prop where
  lives : c.handler.Lives
  blocks : ∀ peer, Blocks peer (c.handler.session? peer) (c.created peer) (c.told peer)
    (c.callbacks peer)

variable {c}

theorem Told.take (h : c.Told) : (c.take t).Told := by
  refine ⟨Handler.lives_process h.lives t.peer t.event, fun q => ?_⟩
  by_cases hq : q = t.peer
  · subst hq
    have hblocks := h.blocks t.peer
    rw [told_take_self, callbacks_take, if_pos rfl]
    show Blocks _ ((c.handler.process t.peer t.event).next.session? t.peer) _ _ _
    rcases Handler.process_self h.lives t.peer t.event with ⟨s, hs, heffects, hafter⟩ |
      ⟨hnone, he, heffects, hafter⟩ | ⟨hnone, he, hp, heffects⟩
    · -- a turn of the present session
      have hcreated : (c.take t).created t.peer = c.created t.peer := by
        simp [Chronicle.take, enrolls, hs]
      rw [hs] at hblocks
      rw [hcreated, hafter, Handled.notices, heffects, Action.notices_effects]
      refine hblocks.tell ?_
      obtain ⟨hphase, hc⟩ := h.lives t.peer s hs
      have houtcome := Session.outcome_handle hphase hc c.handler.nextToken t.event
      rcases houtcome.told hblocks.last.2 with ⟨hstill, htold⟩ | ⟨hclosed, reason, hnotices⟩
      · rw [hstill]
        exact htold
      · rw [hclosed, hnotices]
        exact hblocks.last.2.over reason
    · -- a session is created, and nothing is told of it yet
      have hcreated : (c.take t).created t.peer = c.created t.peer + 1 := by
        simp [Chronicle.take, enrolls, hnone, he]
      have hcalm := c.handler.calm_opening t.peer (t.event = .connectRequested)
      have hup : (c.handler.opening t.peer (t.event = .connectRequested)).session.state
          ≠ .sessionUp := Session.state_start_ne _ _
      rw [hnone] at hblocks
      rw [hcreated, hafter, Handled.notices, heffects, Action.notices_effects,
        Action.notices_of_quiet hcalm.quiet, List.append_nil, List.append_nil,
        Function.update_eq_self]
      exact hblocks.create hup
    · have hcreated : (c.take t).created t.peer = c.created t.peer := by
        simp [Chronicle.take, enrolls, he]
      rw [hcreated, hp, Handled.notices, heffects, List.filterMap_nil, List.append_nil,
        List.append_nil, Function.update_eq_self]
      exact hblocks
  · rw [told_take_of_ne _ _ hq, created_take_of_ne _ _ hq, callbacks_take, if_neg hq,
      List.append_nil]
    show Blocks _ ((c.handler.process t.peer t.event).next.session? q) _ _ _
    rw [Handler.session?_process_of_ne h.lives hq]
    exact h.blocks q

theorem told_run (role : Role) (settings : Settings) (firstId : UInt8) (ts : List Task) :
    (run role settings firstId ts).Told :=
  run_induction ⟨Handler.lives_init role settings firstId, fun _ => Blocks.init⟩
    (fun _ t h => h.take t) ts

/-- **What a collaborator observes.**  After any tasks, every registered session is at work.  The
callbacks about a peer are those made for its sessions, one session after the other.  Of each
session that has ended the end is told, last and once; before that nothing, or that it came up and
then its messages.  Only the last session may lack its end, and does so exactly while it is
registered.  A turn is carried out stroke by stroke, and whenever it comes to the callback about an
end, the session has left the registry. -/
theorem callbacks_in_blocks (role : Role) (settings : Settings) (firstId : UInt8)
    (ts : List Task) (peer : PeerAddress) :
    let c := run role settings firstId ts
    (∀ s, c.handler.session? peer = some s → s.closed = false ∧ s.state ≠ .idle) ∧
      c.callbacks peer = (List.range' 1 (c.created peer)).flatMap (c.told peer) ∧
      (∀ n, 1 ≤ n → n < c.created peer → Over peer (c.told peer n)) ∧
      (∀ s, c.handler.session? peer = some s →
        1 ≤ c.created peer ∧ s.Told peer (c.told peer (c.created peer))) ∧
      (c.handler.session? peer = none → 1 ≤ c.created peer →
        Over peer (c.told peer (c.created peer))) ∧
      ∀ s e, c.handler.session? peer = some s →
        let strokes := (s.handle c.handler.nextToken e).actions.flatMap (Handler.strokes peer)
        let start := c.handler.keep peer (s.handle c.handler.nextToken e)
        c.handler.process peer e = strokes.foldl (Handler.strike peer) start ∧
          ∀ before after reason,
            strokes = before ++ .effect (.notice (.closed peer reason)) :: after →
              (before.foldl (Handler.strike peer) start).next.session? peer = none := by
  intro c
  obtain ⟨hlives, hblocks⟩ := told_run role settings firstId ts
  obtain ⟨hwhole, hpast, hlast, -⟩ := hblocks peer
  refine ⟨fun s hs => ?_, hwhole, hpast, fun s hs => ?_, fun hnone => ?_,
    fun s e hs => ⟨Handler.process_eq_strokes hs, fun before after reason hstrokes =>
      Handler.session?_foldl_strike before (.inr (Handler.remove_mem_of_strokes hstrokes))⟩⟩
  · obtain ⟨hphase, hc⟩ := hlives peer s hs
    exact ⟨hc, hphase.state_ne_idle hc⟩
  · rw [show (run role settings firstId ts).handler.session? peer = some s from hs] at hlast
    exact hlast
  · rw [show (run role settings firstId ts).handler.session? peer = none from hnone] at hlast
    exact hlast

/-- One session of a peer is closed by the collaborator before it is up, and the next comes up and
delivers a message. -/
theorem callbacks_in_blocks_twice :
    let p := PeerAddress.v4 ⟨10, 0, 0, 1⟩ 4189
    let m := Message.make .request [1, 2]
    let c := run .server {} 1 <| [.accepted, .closeRequested, .accepted,
      .network (OpenObject.propose 30 120 1).message, .network keepaliveMessage,
      .network m].map (Task.mk p)
    c.created p = 2 ∧ (∃ s, c.handler.session? p = some s ∧ s.state = .sessionUp) ∧
      c.callbacks p = [.closed p .localClose, .established p, .message p m] ∧
      Over p (c.told p 1) ∧
      c.callbacks p = (List.range' 1 (c.created p)).flatMap (c.told p) := by
  intro p m c
  have hcreated : c.created p = 2 := by decide +kernel
  obtain ⟨-, hwhole, hpast, -⟩ := callbacks_in_blocks .server {} 1 ([.accepted, .closeRequested,
    .accepted, .network (OpenObject.propose 30 120 1).message, .network keepaliveMessage,
    .network m].map (Task.mk p)) p
  obtain ⟨s, hs, hup⟩ := Option.map_eq_some_iff.mp (show (c.handler.session? p).map Session.state
    = some .sessionUp by decide +kernel)
  exact ⟨hcreated, ⟨s, hs, hup⟩, by decide +kernel, hpast 1 le_rfl (by rw [hcreated]; decide),
    hwhole⟩

end Chronicle

end PathSession
