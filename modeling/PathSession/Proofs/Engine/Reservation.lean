import PathSession.Proofs.Engine.Handling

/-!
# Reservations

A registration reserves its peer, then asks the peer's worker for a session, and that worker uses
the reservation up as it creates the session.  A reservation is therefore always that of one
registration, which has yet to ask or whose request still waits.

* `Handler.reserved_process`: a task uses up the reservation of its peer as it creates a session;
* `Pledge`: the registration behind a reservation, and what keeps it there.
-/

namespace PathSession

namespace Handler

variable {h : Handler} {peer : PeerAddress}

/-- A task uses up the reservation of its peer as it creates a session, and no other. -/
theorem reserved_process (h : Handler) (peer : PeerAddress) (e : SessionEvent) :
    (h.process peer e).next.registry.reserved =
      if h.session? peer = none ∧ e.creates = true then h.registry.reserved.filter (· ≠ peer)
      else h.registry.reserved := by
  rcases h.process_turn peer e with ⟨s, hs, hp⟩ | ⟨hnone, he, hp⟩ | ⟨-, he, hp, -⟩
  · rw [hp, next_settle, if_neg (by simp [hs])]
  · rw [hp, create_eq, next_settle, if_pos ⟨hnone, he⟩]
    rfl
  · rw [hp, if_neg (by simp [he])]

end Handler

/-- Whether a peer is known: it has a session or is reserved. -/
theorem Registry.contains_iff (r : Registry) (peer : PeerAddress) :
    r.contains peer = true ↔ r.sessions.get? peer ≠ none ∨ peer ∈ r.reserved := by
  simp [contains, Table.contains, Option.isSome_iff_ne_none]

theorem Registry.reserve?_eq_some {r r' : Registry} {peer : PeerAddress}
    (h : r.reserve? peer = some r') :
    (r.sessions.get? peer = none ∧ peer ∉ r.reserved) ∧
      r' = { r with reserved := r.reserved ++ [peer] } := by
  unfold reserve? at h
  split at h
  · cases h
  · rename_i hnot
    rw [contains_iff, not_or, not_not] at hnot
    exact ⟨hnot, (Option.some.inj h).symm⟩

/-- A peer stays known unless its session ends. -/
theorem Handler.contains_process {h : Handler} (hl : h.Lives) {p peer : PeerAddress}
    {e : SessionEvent}
    (hstays : h.session? p ≠ none → (h.process peer e).next.session? p ≠ none)
    (hp : h.registry.contains p = true) :
    (h.process peer e).next.registry.contains p = true := by
  rw [Registry.contains_iff] at hp ⊢
  rcases hp with hsession | hreserved
  · exact .inl (hstays hsession)
  · rw [h.reserved_process]
    split
    · rename_i hcreates
      by_cases hpeer : p = peer
      · -- the reservation makes way for the session
        rcases process_self hl peer e with ⟨s, hs, -⟩ | ⟨-, -, -, hafter⟩ | ⟨-, he, -⟩
        · rw [hcreates.1] at hs
          cases hs
        · rw [hpeer]
          exact .inl (ne_of_eq_of_ne hafter (Option.some_ne_none _))
        · rw [hcreates.2] at he
          cases he
      · exact .inr (List.mem_filter.mpr ⟨hreserved, by simpa using hpeer⟩)
    · exact .inr hreserved

/-- What stands behind the reservation of a peer.  There is one while a registration has yet to ask
for the session or its request waits, and never beside a session. -/
structure Pledge (h : Handler) (peer : PeerAddress) (requests callers : Nat) : Prop where
  one : requests + callers = if peer ∈ h.registry.reserved then 1 else 0
  absent : peer ∈ h.registry.reserved → h.session? peer = none

namespace Pledge

variable {h : Handler} {p peer : PeerAddress} {requests callers : Nat}

theorem init (role : Role) (settings : Settings) (firstId : UInt8) (peer : PeerAddress) :
    Pledge (.init role settings firstId) peer 0 0 := ⟨rfl, nofun⟩

/-- Where a session is asked for there is none yet. -/
theorem absent_of_pos (hp : Pledge h peer requests callers) (hpos : 0 < requests + callers) :
    peer ∈ h.registry.reserved ∧ h.session? peer = none := by
  have hone := hp.one
  split at hone
  · rename_i hr
    exact ⟨hr, hp.absent hr⟩
  · omega

/-- A registration reserves a peer. -/
theorem reserve {callers : List PeerAddress} (hp : Pledge h peer requests (callers.count peer))
    {registry : Registry} (hr : h.registry.reserve? p = some registry) :
    Pledge { h with registry } peer requests ((callers ++ [p]).count peer) := by
  obtain ⟨⟨hnone, hnot⟩, rfl⟩ := Registry.reserve?_eq_some hr
  rw [List.count_append, List.count_singleton]
  by_cases hpeer : p = peer
  · subst hpeer
    have hone := hp.one
    rw [if_neg hnot] at hone
    exact ⟨by simp; omega, fun _ => hnone⟩
  · have hmem : peer ∈ h.registry.reserved ++ [p] ↔ peer ∈ h.registry.reserved := by
      simp [Ne.symm hpeer]
    refine ⟨?_, fun hpr => hp.absent (hmem.mp hpr)⟩
    simp only [hmem, beq_iff_eq, hpeer, if_false, Nat.add_zero]
    exact hp.one

/-- A registration asks for the session. -/
theorem ask {callers : List PeerAddress} (hp : Pledge h peer requests (callers.count peer))
    (hcaller : p ∈ callers) {e : SessionEvent} (he : e.creates = true) :
    Pledge h peer (requests + if p = peer ∧ e.creates = true then 1 else 0)
      ((callers.erase p).count peer) := by
  refine ⟨?_, hp.absent⟩
  rw [← hp.one]
  by_cases hpeer : p = peer
  · subst hpeer
    have hpos := List.count_pos_iff.mpr hcaller
    rw [List.count_erase_self, if_pos ⟨rfl, he⟩]
    omega
  · rw [List.count_erase_of_ne (Ne.symm hpeer), if_neg (by simp [hpeer]), Nat.add_zero]

/-- A worker handles a task; a session that is created takes the place of the reservation. -/
theorem work (hl : h.Lives) {e : SessionEvent}
    (hp : Pledge h peer ((if p = peer ∧ e.creates = true then 1 else 0) + requests) callers) :
    Pledge (h.process p e).next peer requests callers := by
  by_cases hpeer : p = peer
  · subst hpeer
    cases he : e.creates with
    | true =>
      rw [if_pos ⟨rfl, he⟩] at hp
      obtain ⟨hr, hnone⟩ := hp.absent_of_pos (by omega)
      have hone := hp.one
      rw [if_pos hr] at hone
      have hgone : p ∉ (h.process p e).next.registry.reserved := by
        rw [h.reserved_process, if_pos ⟨hnone, he⟩]
        simp
      exact ⟨by rw [if_neg hgone]; omega, fun hr => absurd hr hgone⟩
    | false =>
      rw [if_neg (by simp [he]), Nat.zero_add] at hp
      have hsame : (h.process p e).next.registry.reserved = h.registry.reserved := by
        rw [h.reserved_process, if_neg (by simp [he])]
      refine ⟨hsame ▸ hp.one, fun hr => ?_⟩
      have hnone := hp.absent (hsame ▸ hr)
      rw [(Handler.process_of_not_creates hl hnone he).1]
      exact hnone
  · rw [if_neg (by simp [hpeer]), Nat.zero_add] at hp
    have hmem : peer ∈ (h.process p e).next.registry.reserved ↔ peer ∈ h.registry.reserved := by
      rw [h.reserved_process]
      split
      · simp [Ne.symm hpeer]
      · rfl
    refine ⟨?_, fun hr => ?_⟩
    · simp only [hmem]
      exact hp.one
    · rw [Handler.session?_process_of_ne hl (Ne.symm hpeer)]
      exact hp.absent (hmem.mp hr)

end Pledge

end PathSession
