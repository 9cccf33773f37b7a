import PathSession.Engine.Calls
import PathSession.Proofs.Engine.Reservation
import PathSession.Proofs.Wire.Framing

/-!
# Calls that fail

A call of a collaborator either has one event queued for its peer, or changes nothing.  A
registration reserves its peer before it knows which of the two it will be, so it has to give the
reservation back.

* `Desk.Call`, `Desk.call`: the three calls as one;
* `Desk.Permits`, `Desk.Takes`: what a call needs to succeed;
* `Desk.accept`: an engine after a call that has succeeded;
* `Desk.call_accepted`, `Desk.call_refused`: the two ways a call goes;
* `Desk.serve`: an engine after several calls, and the events queued by them;
* `Desk.call_all_or_nothing`: both ways for every call, and where the events are.
-/

namespace PathSession

/-- A queue with more tasks at its end. -/
def WorkerQueue.extend (q : WorkerQueue) (tasks : List Task) : WorkerQueue :=
  { q with tasks := q.tasks ++ tasks }

theorem WorkerQueue.extend_nil (q : WorkerQueue) : q.extend [] = q := by simp [extend]

theorem WorkerQueue.extend_append (q : WorkerQueue) (ts us : List Task) :
    (q.extend ts).extend us = q.extend (ts ++ us) := by simp [extend]

/-- A reservation that has just been taken can be given back. -/
theorem Registry.release_of_reserve? {r r' : Registry} {peer : PeerAddress}
    (h : r.reserve? peer = some r') : r'.release peer = r := by
  obtain ⟨⟨-, hnot⟩, rfl⟩ := reserve?_eq_some h
  have hothers : r.reserved.filter (· ≠ peer) = r.reserved :=
    List.filter_eq_self.mpr fun p hp => by simpa using ne_of_mem_of_not_mem hp hnot
  simp only [release, List.filter_append, hothers]
  simp

/-- A peer with neither a session nor a reservation can be reserved. -/
theorem Registry.reserve?_of_unknown {r : Registry} {peer : PeerAddress}
    (hnone : r.sessions.get? peer = none) (hnot : peer ∉ r.reserved) :
    r.reserve? peer = some { r with reserved := r.reserved ++ [peer] } := by
  refine if_neg fun hknown => ?_
  rcases (r.contains_iff peer).mp hknown with h | h
  · exact h hnone
  · exact hnot h

namespace Desk

/-- What a collaborator may ask of a running engine about a peer. -/
inductive Call
  | register
  | deliver (kind : MessageKind) (body : Octets)
  | close

namespace Call

/-- The event that a call has queued. -/
def event : Call → SessionEvent
  | register => .connectRequested
  | deliver kind body => .fromLocal (.make kind body)
  | close => .closeRequested

/-- The reservation that a call leaves. -/
def pledge (peer : PeerAddress) : Call → List PeerAddress
  | register => [peer]
  | deliver .. | close => []

end Call

/-- The answer to a call. -/
def call (d : Desk) (peer : PeerAddress) : Call → Reply
  | .register => d.register peer
  | .deliver kind body => d.deliver peer kind body
  | .close => d.close peer

/-- Whether a task can be queued. -/
def Takes (d : Desk) (t : Task) : Prop := ∃ d', d.submit t = .ok d'

/-- What a call asks of the role, the registry and its body. -/
def Permits (d : Desk) (peer : PeerAddress) : Call → Prop
  | .register =>
    d.role = .client ∧ d.registry.sessions.get? peer = none ∧ peer ∉ d.registry.reserved
  | .deliver _ body =>
    body.length + Header.size ≤ Message.maxSize ∧
      (d.registry.sessions.get? peer ≠ none ∨ peer ∈ d.registry.reserved)
  | .close => d.registry.sessions.get? peer ≠ none ∨ peer ∈ d.registry.reserved

/-- The engine with a task at the end of the queue of its worker. -/
def enqueue (d : Desk) (t : Task) : Desk :=
  { d with queues := d.queues.modify (d.channelOf t.peer) (·.extend [t]) }

/-- The engine after a call that has succeeded. -/
def accept (d : Desk) (peer : PeerAddress) (c : Call) : Desk :=
  { d.enqueue ⟨peer, c.event⟩ with
    registry := { d.registry with reserved := d.registry.reserved ++ c.pledge peer } }

variable {d d' : Desk} {peer : PeerAddress} {t : Task} {c : Call}

/-! ### Submitting -/

theorem submit_eq_ok (h : d.submit t = .ok d') : d' = d.enqueue t := by
  unfold submit at h
  split at h
  · cases h
  · rename_i q hq
    split at h
    · rw [enqueue, List.modify_eq_set_getElem?, hq]
      exact (Except.ok.inj h).symm
    · cases h

theorem Takes.submit (h : d.Takes t) : d.submit t = .ok (d.enqueue t) := by
  obtain ⟨d', hd⟩ := h
  rw [hd, submit_eq_ok hd]

theorem exists_submit_eq_error (h : ¬ d.Takes t) : ∃ f, d.submit t = .error f := by
  cases hd : d.submit t with
  | ok d' => exact absurd ⟨d', hd⟩ h
  | error f => exact ⟨f, rfl⟩

/-- A task is taken where the worker of its peer takes tasks. -/
theorem takes_iff : d.Takes t ↔
    ∃ q, d.queues[d.channelOf t.peer]? = some q ∧ q.accepts = true := by
  unfold Takes submit
  cases d.queues[d.channelOf t.peer]? with
  | none => simp
  | some q => cases hq : q.accepts <;> simp [hq]

/-- The registry does not matter to whether a task is taken. -/
theorem takes_registry (registry : Registry) : Takes { d with registry } t ↔ d.Takes t := by
  rw [takes_iff, takes_iff]
  rfl

theorem submitOr_of_takes (h : d.Takes t) (before : Desk) :
    d.submitOr before t = (d.enqueue t, .ok ()) := by
  rw [submitOr, h.submit]

theorem submitOr_of_not_takes (h : ¬ d.Takes t) (before : Desk) :
    ∃ f, d.submitOr before t = (before, .error f) := by
  obtain ⟨f, hf⟩ := exists_submit_eq_error h
  exact ⟨f, by rw [submitOr, hf]⟩

/-! ### One call -/

/-- Only a reservation changes the registry. -/
theorem accept_of_pledge (h : c.pledge peer = []) : d.accept peer c = d.enqueue ⟨peer, c.event⟩ := by
  simp [accept, enqueue, h]

/-- A call that is permitted and whose event is taken succeeds. -/
theorem call_accepted (hp : d.Permits peer c) (ht : d.Takes ⟨peer, c.event⟩) :
    d.call peer c = (d.accept peer c, .ok ()) := by
  cases c with
  | register =>
    obtain ⟨hrole, hnone, hnot⟩ := hp
    rw [call, register, if_pos hrole, Registry.reserve?_of_unknown hnone hnot]
    exact submitOr_of_takes ((takes_registry _).mpr ht) _
  | deliver kind body =>
    obtain ⟨hfits, hknown⟩ := hp
    rw [call, deliver, Message.make?, if_neg (by omega)]
    simp only [(d.registry.contains_iff peer).mpr hknown, if_true]
    rw [accept_of_pledge rfl]
    exact submitOr_of_takes ht d
  | close =>
    rw [call, close, if_pos ((d.registry.contains_iff peer).mpr hp), accept_of_pledge rfl]
    exact submitOr_of_takes ht d

/-- A call that is not permitted, or whose event is not taken, changes nothing. -/
theorem call_refused (h : ¬ (d.Permits peer c ∧ d.Takes ⟨peer, c.event⟩)) :
    ∃ f, d.call peer c = (d, .error f) := by
  cases c with
  | register =>
    by_cases hrole : d.role = .client
    · rw [call, register, if_pos hrole]
      cases hr : d.registry.reserve? peer with
      | none => exact ⟨_, rfl⟩
      | some registry =>
        obtain ⟨⟨hnone, hnot⟩, -⟩ := Registry.reserve?_eq_some hr
        have hshut : ¬ Takes { d with registry } ⟨peer, .connectRequested⟩ :=
          fun ht => h ⟨⟨hrole, hnone, hnot⟩, (takes_registry _).mp ht⟩
        simp only [Registry.release_of_reserve? hr]
        exact submitOr_of_not_takes hshut d
    · exact ⟨_, if_neg hrole⟩
  | deliver kind body =>
    rw [call, deliver, Message.make?]
    by_cases hlarge : body.length + Header.size > Message.maxSize
    · exact ⟨_, by rw [if_pos hlarge]⟩
    · rw [if_neg hlarge]
      by_cases hknown : d.registry.contains peer = true
      · simp only [hknown, if_true]
        have hfits := Nat.le_of_not_gt hlarge
        exact submitOr_of_not_takes
          (fun ht => h ⟨⟨hfits, (d.registry.contains_iff peer).mp hknown⟩, ht⟩) d
      · exact ⟨_, if_neg hknown⟩
  | close =>
    by_cases hknown : d.registry.contains peer = true
    · rw [call, close, if_pos hknown]
      exact submitOr_of_not_takes
        (fun ht => h ⟨(d.registry.contains_iff peer).mp hknown, ht⟩) d
    · exact ⟨_, if_neg hknown⟩

/-! ### Several calls -/

/-- The engine after several calls, and the tasks that were queued for them. -/
def serve (d : Desk) : List (PeerAddress × Call) → Desk × List Task
  | [] => (d, [])
  | (peer, c) :: more =>
    match d.call peer c with
    | (d', .ok ()) => ((d'.serve more).1, ⟨peer, c.event⟩ :: (d'.serve more).2)
    | (d', .error _) => d'.serve more

/-- An accepted call adds its event to the queue of the peer's worker, and to no other. -/
theorem getElem?_accept (d : Desk) (peer : PeerAddress) (c : Call) (i : Nat) :
    (d.accept peer c).queues[i]? = d.queues[i]?.map
      (·.extend ([⟨peer, c.event⟩].filter (d.channelOf ·.peer = i))) := by
  rw [accept, enqueue, List.getElem?_modify]
  by_cases hi : d.channelOf peer = i
  · simp [hi]
  · simp [hi, WorkerQueue.extend_nil]

theorem channelOf_accept (d : Desk) (peer p : PeerAddress) (c : Call) :
    (d.accept peer c).channelOf p = d.channelOf p := by
  rw [channelOf, accept, enqueue, List.length_modify]
  rfl

/-- Each queue holds, after what it held before, the tasks queued for the peers of its worker. -/
theorem getElem?_serve (d : Desk) (calls : List (PeerAddress × Call)) (i : Nat) :
    (d.serve calls).1.queues[i]? = d.queues[i]?.map
      (·.extend ((d.serve calls).2.filter (d.channelOf ·.peer = i))) := by
  induction calls generalizing d with
  | nil => simp [serve, WorkerQueue.extend_nil]
  | cons call more ih =>
    obtain ⟨peer, c⟩ := call
    by_cases h : d.Permits peer c ∧ d.Takes ⟨peer, c.event⟩
    · simp only [serve, call_accepted h.1 h.2]
      rw [ih, getElem?_accept, Option.map_map]
      simp only [channelOf_accept, Function.comp_def, WorkerQueue.extend_append,
        ← List.filter_append, List.singleton_append]
    · obtain ⟨f, hf⟩ := call_refused h
      simp only [serve, hf]
      exact ih d

theorem channelOf_serve (d : Desk) (calls : List (PeerAddress × Call)) (p : PeerAddress) :
    (d.serve calls).1.channelOf p = d.channelOf p := by
  induction calls generalizing d with
  | nil => rfl
  | cons call more ih =>
    obtain ⟨peer, c⟩ := call
    by_cases h : d.Permits peer c ∧ d.Takes ⟨peer, c.event⟩
    · simp only [serve, call_accepted h.1 h.2, ih, channelOf_accept]
    · obtain ⟨f, hf⟩ := call_refused h
      simp only [serve, hf, ih]

/-- **Failed calls leave no trace.**  A call succeeds exactly if it is permitted and its event can
be queued.  Then that event is the last one in the queue of the peer's worker, and beside that a
registration leaves its reservation.  A call that fails leaves all as it was.  The worker of a peer,
whichever it is, stays the same, so that each queue goes on with the events of its peers, in
order. -/
theorem call_all_or_nothing (d : Desk) (peer : PeerAddress) (c : Call) :
    ((d.call peer c).2 = .ok () ↔ d.Permits peer c ∧ d.Takes ⟨peer, c.event⟩) ∧
    ((d.call peer c).2 = .ok () → (d.call peer c).1 = d.accept peer c) ∧
    ((d.call peer c).2 ≠ .ok () → (d.call peer c).1 = d) ∧
    ∀ calls : List (PeerAddress × Call),
      (∀ p, (d.serve calls).1.channelOf p = d.channelOf p) ∧
      ∀ i : Nat, (d.serve calls).1.queues[i]? = d.queues[i]?.map
        (·.extend ((d.serve calls).2.filter (d.channelOf ·.peer = i))) := by
  have hserve := fun calls => And.intro (d.channelOf_serve calls) (d.getElem?_serve calls)
  by_cases h : d.Permits peer c ∧ d.Takes ⟨peer, c.event⟩
  · rw [call_accepted h.1 h.2]
    exact ⟨⟨fun _ => h, fun _ => rfl⟩, fun _ => rfl, fun hfail => absurd rfl hfail, hserve⟩
  · obtain ⟨f, hf⟩ := call_refused h
    rw [hf]
    exact ⟨⟨nofun, fun hok => absurd hok h⟩, nofun, fun _ => rfl, hserve⟩

/-- One of two workers takes no tasks.  A registration with the other is in its queue, and one with
it has left nothing, though its peer had been reserved for a while. -/
theorem call_all_or_nothing_shut :
    let near := PeerAddress.v4 ⟨10, 0, 0, 1⟩ 4189
    let far := PeerAddress.v4 ⟨10, 0, 0, 1⟩ 4190
    let d : Desk :=
      { role := .client
        registry := .empty
        queues := [{ tasks := [], accepts := true }, { tasks := [], accepts := false }]
        key := fun p => if p = near then 0 else 1 }
    (d.call near .register).2 = .ok () ∧ (d.call near .register).1 = d.accept near .register ∧
      d.Permits far .register ∧ (d.call far .register).2 ≠ .ok () ∧
      (d.call far .register).1 = d := by
  intro near far d
  have hnear : d.channelOf near = 0 := by decide +kernel
  have hfar : d.channelOf far = 1 := by decide +kernel
  have htakes : d.Takes ⟨near, .connectRequested⟩ := takes_iff.mpr ⟨_, by rw [hnear]; rfl, rfl⟩
  have hshut : ¬ d.Takes ⟨far, .connectRequested⟩ := by
    rw [takes_iff, hfar]
    rintro ⟨_, ⟨⟩, ⟨⟩⟩
  have hok : (d.call near .register).2 = .ok () :=
    (call_all_or_nothing d near .register).1.mpr ⟨⟨rfl, rfl, nofun⟩, htakes⟩
  have hfail : (d.call far .register).2 ≠ .ok () := fun h =>
    hshut ((call_all_or_nothing d far .register).1.mp h).2
  exact ⟨hok, (call_all_or_nothing d near .register).2.1 hok, ⟨rfl, rfl, nofun⟩, hfail,
    (call_all_or_nothing d far .register).2.2.1 hfail⟩

end Desk

end PathSession
