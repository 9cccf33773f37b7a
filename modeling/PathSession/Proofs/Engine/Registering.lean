import PathSession.Proofs.Engine.Reception

/-!
# Registrations step by step

A registration first looks for a session of its peer and then inserts a reservation, and the worker
that creates the session puts it into the registry first and then drops the reservation.  Between
its two steps a call may be overtaken: another call registers the peer, and its session is created.
The reservation of the first is then inserted beside a session, and the request behind it finds
that session.  Nothing drops such a reservation any more.  All others are accounted for.

* `Undertaking`, `Handler.begin`: a task as the steps that a worker takes about it,
  `Handler.rest_begin`;
* `Admission`, `Admission.Reached`: calls and workers, one operation on the registry at a time;
* `Admission.Accounted`: whose the reservation of a peer is;
* `Admission.reservations_accounted`: when a peer can be registered again.
-/

namespace PathSession

/-! ### A task in steps -/

/-- A task that a worker is about: its session has taken the event, and what is left is to drop the
reservation if the session is new, and to carry out the actions. -/
structure Undertaking where
  worker : Nat
  peer : PeerAddress
  releases : Bool
  strokes : List Stroke

/-- What a stroke does to the handler. -/
def Stroke.apply (peer : PeerAddress) (h : Handler) : Stroke → Handler
  | remove => { h with registry := h.registry.remove peer }
  | _ => h

/-- The handler after all that is left of a task. -/
def Undertaking.rest (e : Undertaking) (h : Handler) : Handler :=
  e.strokes.foldl (Stroke.apply e.peer)
    (if e.releases then { h with registry := h.registry.release e.peer } else h)

namespace Handler

/-- The first thing that a worker does about a task: the session takes the event, or it is created
and kept.  A task that is discarded leaves nothing to do. -/
def begin (h : Handler) (worker : Nat) (t : Task) : Handler × Option Undertaking :=
  match h.session? t.peer with
  | some s =>
    let turn := s.handle h.nextToken t.event
    ((h.keep t.peer turn).next,
      some { worker, peer := t.peer, releases := false
             strokes := turn.actions.flatMap (strokes t.peer) })
  | none =>
    if t.event.creates then
      let turn := h.opening t.peer (t.event = .connectRequested)
      (({ h with ids := h.ids.draw.2 }.keep t.peer turn).next,
        some { worker, peer := t.peer, releases := true
               strokes := turn.actions.flatMap (strokes t.peer) })
    else
      (h, none)

theorem next_settle_eq_foldl (h : Handler) (peer : PeerAddress) (t : Turn) :
    (h.settle peer t).next =
      (t.actions.flatMap (strokes peer)).foldl (Stroke.apply peer) (h.keep peer t).next := by
  have happly : ∀ (x : Handled) (s : Stroke), s.apply peer x.next = (strike peer x s).next := by
    intro x s
    cases s <;> rfl
  rw [List.foldl_hom Handled.next happly, List.foldl_flatMap]
  rfl

/-- The steps of a task, if nothing comes in between, are the task. -/
theorem rest_begin (h : Handler) (worker : Nat) (t : Task) :
    (h.process t.peer t.event).next =
      match (h.begin worker t).2 with
      | some e => e.rest (h.begin worker t).1
      | none => (h.begin worker t).1 := by
  rcases h.process_turn t.peer t.event with ⟨s, hs, hp⟩ | ⟨hnone, he, hp⟩ | ⟨hnone, he, hp, -⟩
  · rw [hp, next_settle_eq_foldl, begin, hs]
    rfl
  · rw [hp, create_eq, next_settle_eq_foldl, begin, hnone, he]
    rfl
  · rw [hp, begin, hnone, he]
    rfl

/-- The reservations and the sessions that are there after the first step of a task: reservations
stay, and a session is there if it was or if it is created. -/
theorem begin_spec (h : Handler) (worker : Nat) (t : Task) :
    (h.begin worker t).1.registry.reserved = h.registry.reserved ∧
      (∀ p, (h.begin worker t).1.session? p = none ↔
        h.session? p = none ∧ (p = t.peer → t.event.creates = false)) ∧
      ∀ p, (h.begin worker t).2.toList.countP (fun e => e.peer = p ∧ e.releases = true) =
        if p = t.peer ∧ h.session? t.peer = none ∧ t.event.creates = true then 1 else 0 := by
  have hkept : ∀ (h : Handler) (turn : Turn) p, (h.keep t.peer turn).next.session? p =
      if p = t.peer then some turn.session else h.session? p := fun h turn p => h.get?_keep turn p
  unfold begin
  cases hs : h.session? t.peer with
  | some s =>
    refine ⟨rfl, fun p => ?_, fun p => ?_⟩
    · simp only [hkept]
      by_cases hp : p = t.peer
      · simp [hp, hs]
      · simp [hp]
    · by_cases hp : p = t.peer
      · simp [hp]
      · simp [hp]
  | none =>
    cases he : t.event.creates with
    | true =>
      refine ⟨rfl, fun p => ?_, fun p => ?_⟩
      · simp only [if_true, hkept]
        by_cases hp : p = t.peer
        · simp [hp]
        · simp [hp, session?]
      · by_cases hp : p = t.peer
        · simp [hp]
        · simp [hp, Ne.symm hp]
    | false => exact ⟨rfl, by simp, by simp⟩

end Handler

/-! ### Calls and workers -/

/-- A call that found no session of its peer, and the number of sessions of the peer that had been
created by then. -/
structure Lookup where
  peer : PeerAddress
  created : Nat
  deriving DecidableEq

/-- A client with the calls and the tasks in progress. -/
structure Admission where
  handler : Handler
  queues : List WorkerQueue
  /-- the number of a peer that its worker is found by -/
  key : PeerAddress → Nat
  underway : List Undertaking
  /-- registrations that are yet to insert their reservation -/
  looking : List Lookup
  /-- registrations that have inserted it and are yet to ask for the session -/
  registering : List PeerAddress
  /-- the peers of all sessions, in the order in which they were created -/
  created : List PeerAddress
  /-- the peers of registrations that inserted their reservation although a session was created
  since they looked for one -/
  overtaken : List PeerAddress
  /-- the peers of requests that found a session -/
  unmet : List PeerAddress

namespace Admission

/-- Nothing has happened. -/
def init (settings : Settings) (firstId : UInt8) (workers : Nat) (key : PeerAddress → Nat) :
    Admission :=
  { handler := .init .client settings firstId
    queues := (Desk.init .client workers key).queues
    key
    underway := [], looking := [], registering := [], created := [], overtaken := [], unmet := [] }

/-- What calls see. -/
abbrev desk (w : Admission) : Desk :=
  { role := w.handler.role, registry := w.handler.registry, queues := w.queues, key := w.key }

/-- A call looks for a session and finds none. -/
def look (w : Admission) (peer : PeerAddress) : Admission :=
  { w with looking := w.looking ++ [{ peer, created := w.created.count peer }] }

/-- A call inserts its reservation. -/
def insert (w : Admission) (c : Lookup) : Admission :=
  let registry := { w.handler.registry with reserved := w.handler.registry.reserved ++ [c.peer] }
  { w with
    handler := { w.handler with registry }
    looking := w.looking.erase c
    registering := w.registering ++ [c.peer]
    overtaken :=
      if w.created.count c.peer = c.created then w.overtaken else w.overtaken ++ [c.peer] }

/-- A call has asked for the session, which ends it. -/
def ask (w : Admission) (peer : PeerAddress) (d : Desk) : Admission :=
  { w with queues := d.queues, registering := w.registering.erase peer }

/-- A worker takes its first task. -/
def take (w : Admission) (i : Nat) (q : WorkerQueue) (t : Task) (rest : List Task) : Admission :=
  let begun := w.handler.begin i t
  let found := (w.handler.session? t.peer).isSome
  { w with
    handler := begun.1
    queues := w.queues.set i { q with tasks := rest }
    underway := w.underway ++ begun.2.toList
    created := if t.event.creates && !found then w.created ++ [t.peer] else w.created
    unmet := if t.event.creates && found then w.unmet ++ [t.peer] else w.unmet }

/-- What can come about while no submission fails: the steps of any number of calls and those of
the workers, in any order.  A worker is about one task at a time.  All other tasks of a client
create no session. -/
inductive Reached (start : Admission) : Admission → Prop
  | refl : Reached start start
  | look {w : Admission} (h : Reached start w) {peer : PeerAddress}
      (hnone : w.handler.session? peer = none) : Reached start (w.look peer)
  | insert {w : Admission} (h : Reached start w) {c : Lookup} (hc : c ∈ w.looking)
      (hnot : c.peer ∉ w.handler.registry.reserved) : Reached start (w.insert c)
  | refuse {w : Admission} (h : Reached start w) {c : Lookup} (hc : c ∈ w.looking)
      (hreserved : c.peer ∈ w.handler.registry.reserved) :
      Reached start { w with looking := w.looking.erase c }
  | ask {w : Admission} (h : Reached start w) {peer : PeerAddress} {d : Desk}
      (hp : peer ∈ w.registering) (hd : w.desk.submit ⟨peer, .connectRequested⟩ = .ok d) :
      Reached start (w.ask peer d)
  | submit {w : Admission} (h : Reached start w) {t : Task} {d : Desk}
      (ht : t.event.creates = false) (hd : w.desk.submit t = .ok d) :
      Reached start { w with queues := d.queues }
  | take {w : Admission} (h : Reached start w) {i : Nat} {q : WorkerQueue} {t : Task}
      {rest : List Task} (hfree : ∀ e ∈ w.underway, e.worker ≠ i) (hq : w.queues[i]? = some q)
      (ht : q.tasks = t :: rest) : Reached start (w.take i q t rest)
  | release {w : Admission} (h : Reached start w) {before after : List Undertaking}
      {e : Undertaking} (he : w.underway = before ++ e :: after) (hreleases : e.releases = true) :
      Reached start { w with
        handler := { w.handler with registry := w.handler.registry.release e.peer }
        underway := before ++ { e with releases := false } :: after }
  | strike {w : Admission} (h : Reached start w) {before after : List Undertaking}
      {e : Undertaking} {s : Stroke} {more : List Stroke} (he : w.underway = before ++ e :: after)
      (hreleased : e.releases = false) (hs : e.strokes = s :: more) :
      Reached start { w with
        handler := s.apply e.peer w.handler
        underway := before ++ { e with strokes := more } :: after }
  | finish {w : Admission} (h : Reached start w) {before after : List Undertaking}
      {e : Undertaking} (he : w.underway = before ++ e :: after) (hreleased : e.releases = false)
      (hs : e.strokes = []) : Reached start { w with underway := before ++ after }

/-! ### Whose reservations there are -/

/-- The requests for a session of a peer that wait. -/
def requests (w : Admission) (peer : PeerAddress) : Nat :=
  (WorkerQueue.tasksOf w.key w.queues peer).countP (·.event.creates)

/-- The tasks under way that are yet to drop the reservation of a peer. -/
def creating (underway : List Undertaking) (peer : PeerAddress) : Nat :=
  underway.countP fun e => e.peer = peer ∧ e.releases = true

/-- A reservation is that of one registration: of a call that is yet to ask, of a request that
waits, of a session that was just created, or of a request that found a session.  The last comes
about only where the call was overtaken. -/
structure Accounted (w : Admission) : Prop where
  placed : WorkerQueue.Placed w.key w.queues
  one : ∀ p, w.requests p + w.registering.count p + creating w.underway p + w.unmet.count p =
    if p ∈ w.handler.registry.reserved then 1 else 0
  looked : ∀ c ∈ w.looking, c.created ≤ w.created.count c.peer ∧
    (w.created.count c.peer = c.created → w.handler.session? c.peer = none)
  crossed : ∀ p, w.handler.session? p ≠ none → 0 < w.requests p + w.registering.count p →
    p ∈ w.overtaken
  turnedAway : ∀ p ∈ w.unmet, p ∈ w.overtaken

theorem count_ite_concat {α : Type} [DecidableEq α] (c : Bool) (l : List α) (x p : α) :
    (if c = true then l ++ [x] else l).count p =
      l.count p + if p = x ∧ c = true then 1 else 0 := by
  cases c with
  | false => simp
  | true =>
    rw [if_pos rfl, List.count_append, List.count_singleton]
    simp only [beq_iff_eq, and_true, @eq_comm _ x p]

section Take

variable (w : Admission) (i : Nat) (q : WorkerQueue) (t : Task) (rest : List Task) (p : PeerAddress)

theorem creating_take : creating (w.take i q t rest).underway p = creating w.underway p +
    if p = t.peer ∧ w.handler.session? t.peer = none ∧ t.event.creates = true then 1 else 0 := by
  rw [creating, Admission.take, List.countP_append, (w.handler.begin_spec i t).2.2]
  rfl

theorem count_unmet_take : (w.take i q t rest).unmet.count p = w.unmet.count p +
    if p = t.peer ∧ (t.event.creates && (w.handler.session? t.peer).isSome) = true then 1
    else 0 :=
  count_ite_concat ..

theorem count_created_take : (w.take i q t rest).created.count p = w.created.count p +
    if p = t.peer ∧ (t.event.creates && !(w.handler.session? t.peer).isSome) = true then 1
    else 0 :=
  count_ite_concat ..

variable {w i q t rest}

theorem requests_take (hq : w.queues[i]? = some q) (ht : q.tasks = t :: rest)
    (hplaced : WorkerQueue.Placed w.key w.queues) : w.requests p =
      (if t.peer = p ∧ t.event.creates = true then 1 else 0) + (w.take i q t rest).requests p := by
  rw [requests, (WorkerQueue.take hq ht hplaced).2, List.countP_append, countP_creates]
  rfl

end Take

namespace Accounted

theorem init (settings : Settings) (firstId : UInt8) (workers : Nat) (key : PeerAddress → Nat) :
    (init settings firstId workers key).Accounted := by
  obtain ⟨hplaced, htasks⟩ := WorkerQueue.start .client workers key
  refine ⟨hplaced, fun p => ?_, nofun, fun p hp => absurd rfl hp, nofun⟩
  rw [requests, Admission.init, htasks]
  rfl

variable {w : Admission}

section Steps

variable (h : w.Accounted)
include h

theorem look {peer : PeerAddress} (hnone : w.handler.session? peer = none) :
    (w.look peer).Accounted where
  placed := h.placed
  one := h.one
  looked c hc := by
    rcases List.mem_append.mp hc with hc | hc
    · exact h.looked c hc
    · rw [List.mem_singleton.mp hc]
      exact ⟨le_rfl, fun _ => hnone⟩
  crossed := h.crossed
  turnedAway := h.turnedAway

theorem insert {c : Lookup} (hc : c ∈ w.looking)
    (hnot : c.peer ∉ w.handler.registry.reserved) : (w.insert c).Accounted where
  placed := h.placed
  one p := by
    have hone := h.one p
    show w.requests p + (w.registering ++ [c.peer]).count p + creating w.underway p +
        w.unmet.count p =
      if p ∈ w.handler.registry.reserved ++ [c.peer] then 1 else 0
    rw [List.count_append, List.count_singleton]
    by_cases hp : c.peer = p
    · subst hp
      rw [if_neg hnot] at hone
      simp
      omega
    · simpa [hp, Ne.symm hp] using hone
  looked c' hc' := h.looked c' (List.mem_of_mem_erase hc')
  crossed p hp hpos := by
    show p ∈ if w.created.count c.peer = c.created then w.overtaken
      else w.overtaken ++ [c.peer]
    by_cases hpeer : c.peer = p
    · -- the session was created since the call looked for one
      subst hpeer
      rw [if_neg fun hsame => hp ((h.looked c hc).2 hsame)]
      exact List.mem_append_right _ (List.mem_singleton_self _)
    · have hpos : 0 < w.requests p + (w.registering ++ [c.peer]).count p := hpos
      rw [List.count_append, List.count_singleton, if_neg (by simpa using hpeer)] at hpos
      have hmem := h.crossed p hp hpos
      split
      · exact hmem
      · exact List.mem_append_left _ hmem
  turnedAway p hp := by
    show p ∈ if w.created.count c.peer = c.created then w.overtaken
      else w.overtaken ++ [c.peer]
    split
    · exact h.turnedAway p hp
    · exact List.mem_append_left _ (h.turnedAway p hp)

theorem refuse (c : Lookup) : Accounted { w with looking := w.looking.erase c } :=
  ⟨h.placed, h.one, fun c' hc' => h.looked c' (List.mem_of_mem_erase hc'), h.crossed,
    h.turnedAway⟩

theorem ask {peer : PeerAddress} {d : Desk} (hp : peer ∈ w.registering)
    (hd : w.desk.submit ⟨peer, .connectRequested⟩ = .ok d) : (w.ask peer d).Accounted := by
  obtain ⟨hplaced, htasks⟩ := WorkerQueue.submit hd h.placed
  have hsame : ∀ p, (w.ask peer d).requests p + (w.registering.erase peer).count p =
      w.requests p + w.registering.count p := by
    intro p
    rw [requests, Admission.ask, htasks, List.countP_append, countP_creates]
    show w.requests p + _ + _ = _
    by_cases hpeer : peer = p
    · subst hpeer
      have hpos := List.count_pos_iff.mpr hp
      rw [List.count_erase_self, if_pos ⟨rfl, rfl⟩]
      omega
    · rw [List.count_erase_of_ne (Ne.symm hpeer), if_neg (by simp [hpeer]), Nat.add_zero]
  refine ⟨hplaced, fun p => ?_, h.looked, fun p hsession hpos => ?_, h.turnedAway⟩
  · exact (congrArg (· + creating w.underway p + w.unmet.count p) (hsame p)).trans (h.one p)
  · exact h.crossed p hsession (hsame p ▸ hpos)

theorem submit {t : Task} {d : Desk} (ht : t.event.creates = false)
    (hd : w.desk.submit t = .ok d) : Accounted { w with queues := d.queues } := by
  obtain ⟨hplaced, htasks⟩ := WorkerQueue.submit hd h.placed
  have hsame : ∀ p, requests { w with queues := d.queues } p = w.requests p := by
    intro p
    rw [requests, htasks, List.countP_append, countP_creates, if_neg (by simp [ht])]
    rfl
  refine ⟨hplaced, fun p => ?_, h.looked, fun p hsession hpos => ?_, h.turnedAway⟩
  · rw [hsame]
    exact h.one p
  · rw [hsame] at hpos
    exact h.crossed p hsession hpos

theorem take {i : Nat} {q : WorkerQueue} {t : Task} {rest : List Task}
    (hq : w.queues[i]? = some q) (ht : q.tasks = t :: rest) :
    (w.take i q t rest).Accounted := by
  obtain ⟨hplaced, -⟩ := WorkerQueue.take hq ht h.placed
  obtain ⟨hreserved, hsession, -⟩ := w.handler.begin_spec i t
  have hrequests p := requests_take p hq ht h.placed
  refine ⟨hplaced, fun p => ?_, fun c hc => ?_, fun p hsome hpos => ?_, fun p hp => ?_⟩
  · have hone := h.one p
    rw [hrequests] at hone
    rw [creating_take, count_unmet_take]
    show _ + w.registering.count p + _ + _ = if p ∈ (w.handler.begin i t).1.registry.reserved then
      1 else 0
    rw [hreserved, ← hone]
    by_cases hp : p = t.peer
    · subst hp
      cases w.handler.session? t.peer <;> cases t.event.creates <;> simp <;> omega
    · simp [hp, Ne.symm hp]
  · obtain ⟨hle, hsame⟩ := h.looked c hc
    rw [count_created_take]
    refine ⟨by omega, fun hcount => (hsession c.peer).mpr ⟨hsame (by omega), fun hpeer => ?_⟩⟩
    by_contra hcreates
    rw [Bool.not_eq_false] at hcreates
    have hnone := hsame (by omega)
    rw [hpeer] at hnone
    rw [if_pos ⟨hpeer, by simp [hcreates, hnone]⟩] at hcount
    omega
  · have hold := hrequests p
    have hpos : 0 < (w.take i q t rest).requests p + w.registering.count p := hpos
    refine h.crossed p (fun hnone => hsome ((hsession p).mpr ⟨hnone, fun hpeer => ?_⟩)) (by omega)
    -- a request that creates the session is the only one
    by_contra hcreates
    rw [Bool.not_eq_false] at hcreates
    have hone := h.one p
    rw [if_pos ⟨hpeer.symm, hcreates⟩] at hold
    split at hone <;> omega
  · have hcount := w.count_unmet_take i q t rest p
    by_cases hold : p ∈ w.unmet
    · exact h.turnedAway p hold
    · have hpos := List.count_pos_iff.mpr hp
      rw [hcount, List.count_eq_zero_of_not_mem hold, Nat.zero_add] at hpos
      split at hpos
      · rename_i hmet
        obtain ⟨rfl, hmet⟩ := hmet
        rw [Bool.and_eq_true, Option.isSome_iff_ne_none] at hmet
        have hrequest := hrequests t.peer
        rw [if_pos ⟨rfl, hmet.1⟩] at hrequest
        exact h.crossed _ hmet.2 (by omega)
      · cases hpos

theorem release {before after : List Undertaking} {e : Undertaking}
    (he : w.underway = before ++ e :: after) (hreleases : e.releases = true) :
    Accounted { w with
      handler := { w.handler with registry := w.handler.registry.release e.peer }
      underway := before ++ { e with releases := false } :: after } := by
  refine ⟨h.placed, fun p => ?_, h.looked, h.crossed, h.turnedAway⟩
  have hone := h.one p
  have hcreating : creating w.underway p =
      creating (before ++ { e with releases := false } :: after) p +
        if p = e.peer then 1 else 0 := by
    by_cases hp : p = e.peer
    · simp [creating, he, List.countP_append, hreleases, hp, Nat.add_assoc]
    · simp [creating, he, List.countP_append, hp, Ne.symm hp]
  rw [hcreating] at hone
  show w.requests p + w.registering.count p +
      creating (before ++ { e with releases := false } :: after) p + w.unmet.count p =
    if p ∈ w.handler.registry.reserved.filter (· ≠ e.peer) then 1 else 0
  by_cases hp : p = e.peer
  · rw [if_pos hp] at hone
    rw [if_neg (by simp [hp])]
    split at hone <;> omega
  · simpa [hp] using hone

theorem strike {before after : List Undertaking} {e : Undertaking} (s : Stroke) (more : List Stroke)
    (he : w.underway = before ++ e :: after) :
    Accounted { w with
      handler := s.apply e.peer w.handler
      underway := before ++ { e with strokes := more } :: after } := by
  have hreserved : (s.apply e.peer w.handler).registry.reserved = w.handler.registry.reserved := by
    cases s <;> rfl
  have hgone : ∀ p, w.handler.session? p = none → (s.apply e.peer w.handler).session? p = none := by
    intro p hp
    cases s with
    | remove =>
      refine (Table.get?_erase ..).trans ?_
      rw [show w.handler.registry.sessions.get? p = none from hp, ite_self]
    | effect | remark => exact hp
  refine ⟨h.placed, fun p => ?_, fun c hc => ?_, fun p hp => ?_, h.turnedAway⟩
  · have hcreating : creating (before ++ { e with strokes := more } :: after) p =
        creating w.underway p := by
      simp [creating, he, List.countP_append, List.countP_cons]
    show w.requests p + w.registering.count p +
        creating (before ++ { e with strokes := more } :: after) p + w.unmet.count p =
      if p ∈ (s.apply e.peer w.handler).registry.reserved then 1 else 0
    rw [hreserved, hcreating]
    exact h.one p
  · exact ⟨(h.looked c hc).1, fun hsame => hgone _ ((h.looked c hc).2 hsame)⟩
  · exact h.crossed p fun hnone => hp (hgone p hnone)

theorem finish {before after : List Undertaking} {e : Undertaking}
    (he : w.underway = before ++ e :: after) (hreleased : e.releases = false) :
    Accounted { w with underway := before ++ after } := by
  refine ⟨h.placed, fun p => ?_, h.looked, h.crossed, h.turnedAway⟩
  have hcreating : creating (before ++ after) p = creating w.underway p := by
    simp [creating, he, List.countP_append, hreleased]
  rw [hcreating]
  exact h.one p

end Steps

end Accounted

variable {start w w' : Admission}

theorem Reached.trans (h : Reached start w) (h' : Reached w w') : Reached start w' := by
  induction h' with
  | refl => exact h
  | look _ hnone ih => exact ih.look hnone
  | insert _ hc hnot ih => exact ih.insert hc hnot
  | refuse _ hc hreserved ih => exact ih.refuse hc hreserved
  | ask _ hp hd ih => exact ih.ask hp hd
  | submit _ ht hd ih => exact ih.submit ht hd
  | take _ hfree hq ht ih => exact ih.take hfree hq ht
  | release _ he hreleases ih => exact ih.release he hreleases
  | strike _ he hreleased hs ih => exact ih.strike he hreleased hs
  | finish _ he hreleased hs ih => exact ih.finish he hreleased hs

/-- The actions of a task under way, if nothing comes in between. -/
theorem Reached.carryOut {before after : List Undertaking} (strokes : List Stroke) {e : Undertaking}
    (h : Reached start w) (he : w.underway = before ++ e :: after) (hreleased : e.releases = false)
    (hs : e.strokes = strokes) :
    Reached start { w with
      handler := strokes.foldl (Stroke.apply e.peer) w.handler, underway := before ++ after } := by
  induction strokes generalizing w e with
  | nil => exact h.finish he hreleased hs
  | cons s more ih =>
    exact ih (e := { e with strokes := more }) (h.strike he hreleased hs) rfl hreleased rfl

/-- All that is left of a task under way, if nothing comes in between. -/
theorem Reached.complete {before after : List Undertaking} {e : Undertaking} (h : Reached start w)
    (he : w.underway = before ++ e :: after) :
    Reached start { w with handler := e.rest w.handler, underway := before ++ after } := by
  unfold Undertaking.rest
  cases hreleases : e.releases with
  | false => exact h.carryOut e.strokes he hreleases rfl
  | true =>
    exact (h.release he hreleases).carryOut (e := { e with releases := false }) e.strokes rfl rfl
      rfl

/-- A task that nothing comes in between is handled as such. -/
theorem Reached.work {i : Nat} {q : WorkerQueue} {t : Task} {rest : List Task}
    (h : Reached start w) (hfree : ∀ e ∈ w.underway, e.worker ≠ i) (hq : w.queues[i]? = some q)
    (ht : q.tasks = t :: rest) :
    Reached start { w.take i q t rest with
      handler := (w.handler.process t.peer t.event).next, underway := w.underway } := by
  have htaken := h.take hfree hq ht
  rw [w.handler.rest_begin i t]
  cases hbegun : (w.handler.begin i t).2 with
  | none =>
    have hunderway : (w.take i q t rest).underway = w.underway := by simp [Admission.take, hbegun]
    rw [← hunderway]
    exact htaken
  | some e =>
    have hunderway : (w.take i q t rest).underway = w.underway ++ e :: [] := by
      simp [Admission.take, hbegun]
    have hdone := htaken.complete hunderway
    rwa [List.append_nil] at hdone

/-- A registration that nothing comes in between is its three steps. -/
theorem Reached.register {peer : PeerAddress} {d : Desk} (h : Reached start w)
    (hd : w.desk.register peer = (d, .ok ())) : ∃ w', Reached start w' ∧ w'.desk = d := by
  unfold Desk.register at hd
  split at hd
  · split at hd
    · cases hd
    · rename_i registry hr
      obtain ⟨⟨hnone, hnot⟩, rfl⟩ := Registry.reserve?_eq_some hr
      have hsubmit := Reception.submit_of_submitOr hd
      have hinserted := (h.look hnone).insert
        (List.mem_append_right _ (List.mem_singleton_self _)) hnot
      have hasked := hinserted.ask (List.mem_append_right _ (List.mem_singleton_self _)) hsubmit
      exact ⟨_, hasked, Reception.submit_eq hsubmit⟩
  · cases hd

/-- A request that found a session is never taken back. -/
theorem Reached.unmet_subset (h : Reached start w) : start.unmet ⊆ w.unmet := by
  induction h with
  | refl => exact List.Subset.refl _
  | take _ _ _ _ ih =>
    refine List.Subset.trans ih ?_
    rw [Admission.take]
    dsimp only
    split
    · exact List.subset_append_left ..
    · exact List.Subset.refl _
  | _ => assumption

variable {settings : Settings} {firstId : UInt8} {workers : Nat} {key : PeerAddress → Nat}

theorem Reached.accounted (h : Reached (init settings firstId workers key) w) : w.Accounted := by
  induction h with
  | refl => exact .init settings firstId workers key
  | look _ hnone ih => exact ih.look hnone
  | insert _ hc hnot ih => exact ih.insert hc hnot
  | refuse _ _ _ ih => exact ih.refuse _
  | ask _ hp hd ih => exact ih.ask hp hd
  | submit _ ht hd ih => exact ih.submit ht hd
  | take _ _ hq ht ih => exact ih.take hq ht
  | release _ he hreleases ih => exact ih.release he hreleases
  | strike _ he _ _ ih => exact ih.strike _ _ he
  | finish _ he hreleased _ ih => exact ih.finish he hreleased

/-- No call and no task is in progress, and no task waits. -/
structure Idle (w : Admission) : Prop where
  looking : w.looking = []
  registering : w.registering = []
  underway : w.underway = []
  queues : ∀ q ∈ w.queues, q.tasks = []

theorem Idle.requests (h : w.Idle) (peer : PeerAddress) : w.requests peer = 0 := by
  rw [Admission.requests, WorkerQueue.tasksOf]
  cases hq : w.queues[peer.channel w.queues.length w.key]? with
  | none => rfl
  | some q =>
    rw [Option.map_some, Option.getD_some, h.queues q (List.mem_of_getElem? hq)]
    rfl

/-- **Reservations are accounted for, but those of overtaken calls.**  However the operations of the
calls and of the workers on the registry mix, and whichever worker a peer has: no two registrations
of a peer are under way at once, and a call that is not overtaken inserts its reservation where the
peer has no session.  Once all calls and tasks are done, the peers that are still reserved are those
of requests that found a session, which only overtaken calls make; all others can be registered
again when they have no session.  A peer of an unmet request can never be. -/
theorem reservations_accounted (h : Reached (init settings firstId workers key) w) :
    (∀ p, w.registering.count p + w.requests p ≤ 1) ∧
      (∀ c ∈ w.looking, c.peer ∉ w.handler.registry.reserved →
        w.created.count c.peer = c.created → w.handler.session? c.peer = none) ∧
      (w.Idle → ∀ p, p ∈ w.handler.registry.reserved ↔ p ∈ w.unmet) ∧
      (w.Idle → ∀ p, p ∉ w.overtaken → w.handler.session? p = none →
        (w.handler.registry.reserve? p).isSome = true) ∧
      ∀ p ∈ w.unmet, p ∈ w.overtaken ∧
        ∀ w', Reached w w' → w'.handler.registry.reserve? p = none := by
  have haccounted := h.accounted
  have hidle : w.Idle → ∀ p, p ∈ w.handler.registry.reserved ↔ p ∈ w.unmet := by
    intro hidle p
    have hone := haccounted.one p
    rw [hidle.requests, hidle.registering, hidle.underway, List.count_nil, creating,
      List.countP_nil] at hone
    rw [← List.count_pos_iff (l := w.unmet)]
    split at hone <;> simp_all
  refine ⟨fun p => ?_, fun c hc _ hsame => (haccounted.looked c hc).2 hsame, hidle,
    fun hi p hp hnone => ?_, fun p hp => ⟨haccounted.turnedAway p hp, fun w' hw' => ?_⟩⟩
  · have hone := haccounted.one p
    split at hone <;> omega
  · have hfree : w.handler.registry.contains p = false := by
      rw [← Bool.not_eq_true, Registry.contains_iff, not_or, not_not, hidle hi p]
      exact ⟨hnone, fun hmem => hp (haccounted.turnedAway p hmem)⟩
    rw [Registry.reserve?, hfree]
    rfl
  · have hreserved : w'.handler.registry.contains p = true := by
      have hone := (h.trans hw').accounted.one p
      have hpos := List.count_pos_iff.mpr (hw'.unmet_subset hp)
      rw [Registry.contains_iff]
      split at hone
      · exact .inr ‹_›
      · omega
    rw [Registry.reserve?, hreserved]
    rfl

/-- Two calls look for a session of a peer.  The session of one is created before the other inserts
its reservation, and is closed after it has met the request of the other.  Nothing is left to do,
the peer has no session, and it can not be registered again. -/
theorem reservations_accounted_overtaken :
    let p := PeerAddress.v4 ⟨10, 0, 0, 1⟩ 4189
    ∃ w : Admission, Reached (init {} 1 1 PeerAddress.key) w ∧ w.Idle ∧
      w.handler.session? p = none ∧ w.unmet = [p] ∧ p ∈ w.handler.registry.reserved ∧ p ∈ w.overtaken ∧
      ∀ w', Reached w w' → w'.handler.registry.reserve? p = none := by
  intro p
  let w₀ := init {} 1 1 PeerAddress.key
  have hfirst : Reached w₀ (w₀.look p) := .look .refl rfl
  have hsecond := hfirst.look (show Handler.session? _ p = none from rfl)
  have hinserted := hsecond.insert (c := ⟨p, 0⟩) (by decide +kernel) (by decide +kernel)
  have hasked := hinserted.ask (show p ∈ _ from List.mem_singleton.mpr rfl)
    (Reception.submit_single _)
  have hcreated := hasked.work (i := 0) nofun rfl rfl
  have hovertaken := hcreated.insert (c := ⟨p, 0⟩) (by decide +kernel) (by decide +kernel)
  have hasked' := hovertaken.ask (show p ∈ _ from List.mem_singleton.mpr rfl)
    (Reception.submit_single _)
  have hmet := hasked'.work (i := 0) nofun rfl rfl
  have hclosing := hmet.submit (t := ⟨p, .closeRequested⟩) rfl (Reception.submit_single _)
  have hclosed := hclosing.work (i := 0) nofun rfl rfl
  obtain ⟨w, hw, hidle, hnone, hmet⟩ : ∃ w, Reached w₀ w ∧ w.Idle ∧
      w.handler.session? p = none ∧ w.unmet = [p] :=
    ⟨_, hclosed, ⟨rfl, by decide +kernel, rfl, by decide +kernel⟩, by decide +kernel,
      by decide +kernel⟩
  have hmem : p ∈ w.unmet := hmet ▸ List.mem_singleton_self p
  obtain ⟨-, -, hreserved, -, hunmet⟩ := reservations_accounted hw
  exact ⟨w, hw, hidle, hnone, hmet, (hreserved hidle p).mpr hmem, hunmet p hmem⟩

end Admission

end PathSession
