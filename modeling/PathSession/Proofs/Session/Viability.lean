import PathSession.Proofs.Session.History

/-!
# Whether an agreed dead timer can work

A dead timer that is shorter than the keepalive interval the peer announced runs out on a live peer.
A policy looks at the two together only if one of them is out of its range, so a session comes up
with whatever the ranges hold.  Whether they hold such a pair is told by their bounds.

* `Policy.consistent_of_acceptable_iff`: those policies;
* `Session.up_by_granted`: a session comes up with the one offer that it has accepted.
-/

namespace PathSession

namespace Policy

variable {p : Policy} {o : OpenObject}

theorem consistent_iff :
    consistent o = true ↔ o.deadTimer = 0 ∨ o.keepalive ≤ o.deadTimer := by
  simp [consistent]

/-- Every acceptable offer is consistent exactly if the policy allows no dead timers, or no
keepalive interval that is longer than its shortest one. -/
theorem consistent_of_acceptable_iff (h : p.Ordered) :
    (∀ o, p.check o = .acceptable → consistent o = true) ↔
      p.deadTimer.high = 0 ∨ p.keepalive.high ≤ max 1 p.deadTimer.low := by
  obtain ⟨hkeepalive, hdead⟩ := h
  rw [Bounds.Ordered, UInt8.le_iff_toNat_le] at hkeepalive hdead
  simp only [check_eq_acceptable, Bounds.contains_iff, consistent_iff, UInt8.le_iff_toNat_le,
    ← UInt8.toNat_inj, toNat_max, UInt8.toNat_zero, UInt8.toNat_one]
  constructor
  · intro hall
    by_contra hcase
    -- the worst offer has the longest interval, and the shortest dead timer that is not disabled
    have hworst := hall (.propose p.keepalive.high (max 1 p.deadTimer.low) 0)
    simp only [OpenObject.propose, toNat_max, UInt8.toNat_one] at hworst
    omega
  · intro hcase o ho
    omega

end Policy

namespace Session

variable {p : Party} {initiator : Bool} {s : Session} {actions : List Action}
variable {moves : List Advance}

/-- A session that is up has accepted one offer, and runs with its values. -/
theorem up_by_granted (h : History p initiator s actions moves) (hs : s.state = .sessionUp) :
    ∃ o, Advance.granted moves = [o] ∧ p.settings.policy.check o = .acceptable ∧
      s.peerKeepalive = o.keepalive ∧ s.peerDeadTimer = o.deadTimer := by
  obtain ⟨said, f, hrecorded⟩ := h.recorded
  have hholds := h.phase.holds
  rw [hs] at hholds
  obtain ⟨hstill, -, -, hr, -⟩ := hholds
  have hgranted : f.remoteOk = true := by
    rw [← hrecorded.standing hstill]
    exact hr
  obtain ⟨o, ho, hv, hvalues⟩ := hrecorded.negotiates.tally.granted hgranted
  exact ⟨o, ho, (h.check_eq o).symm.trans hv, hvalues⟩

/-- Any offer that a session accepts may be the one it comes up with. -/
theorem exists_up (p : Party) (initiator : Bool) {o : OpenObject}
    (hm : o.message.content = .ok (.opening o)) (hv : p.settings.policy.check o = .acceptable) :
    ∃ s actions moves, History p initiator s actions moves ∧ s.state = .sessionUp ∧
      s.peerKeepalive = o.keepalive ∧ s.peerDeadTimer = o.deadTimer := by
  obtain ⟨s, actions, h, hterms, hstanding⟩ := exists_granted p initiator hm hv
  have hs : s.state = .keepWait := congrArg Standing.state hstanding
  obtain ⟨h', hterms', hstanding'⟩ :=
    h.advance (advance?_keepalive hs content_keepaliveMessage) 0
  have hvalues := hterms'.trans hterms
  refine ⟨_, _, _, h', ?_, congrArg Terms.peerKeepalive hvalues,
    congrArg Terms.peerDeadTimer hvalues⟩
  refine (congrArg Standing.state hstanding').trans ?_
  rw [hstanding]
  rfl

/-- **A session comes up with what the ranges hold.**  Its peer's dead timer is that of the one OPEN
it has accepted, and can work exactly if that OPEN is consistent.  Under an ordered policy this is
so in every session that comes up if and only if the policy accepts no inconsistent OPEN, which its
bounds tell. -/
theorem dead_timer_workable_iff (hp : p.settings.policy.Ordered) (initiator : Bool) :
    (∀ s actions moves, History p initiator s actions moves → s.state = .sessionUp →
      ∃ o, Advance.granted moves = [o] ∧ p.settings.policy.check o = .acceptable ∧
        s.peerKeepalive = o.keepalive ∧ s.peerDeadTimer = o.deadTimer ∧
        ((s.peerDeadTimer = 0 ∨ s.peerKeepalive ≤ s.peerDeadTimer) ↔
          Policy.consistent o = true)) ∧
      ((∀ s actions moves, History p initiator s actions moves → s.state = .sessionUp →
          s.peerDeadTimer = 0 ∨ s.peerKeepalive ≤ s.peerDeadTimer) ↔
        p.settings.policy.deadTimer.high = 0 ∨
          p.settings.policy.keepalive.high ≤ max 1 p.settings.policy.deadTimer.low) := by
  rw [← Policy.consistent_of_acceptable_iff hp]
  constructor
  · intro s actions moves h hs
    obtain ⟨o, ho, hv, hkeepalive, hdead⟩ := up_by_granted h hs
    exact ⟨o, ho, hv, hkeepalive, hdead, by rw [hkeepalive, hdead, Policy.consistent_iff]⟩
  · constructor
    · intro hall o hv
      -- the verdict looks at the intervals only, so a well-formed OPEN with these will do
      let o' := OpenObject.propose o.keepalive o.deadTimer 0
      have hv' : p.settings.policy.check o' = .acceptable :=
        (Policy.check_congr rfl rfl).trans hv
      obtain ⟨s, actions, moves, h, hs, hkeepalive, hdead⟩ :=
        exists_up p initiator (o := o') (OpenObject.content_propose ..) hv'
      have hworks := hall s actions moves h hs
      rw [hkeepalive, hdead] at hworks
      exact Policy.consistent_iff.mpr hworks
    · intro hall s actions moves h hs
      obtain ⟨o, -, hv, hkeepalive, hdead⟩ := up_by_granted h hs
      rw [hkeepalive, hdead]
      exact Policy.consistent_iff.mp (hall o hv)

/-- Under the default settings a session comes up with a dead timer of five seconds and a peer that
has announced a KEEPALIVE every thirty. -/
theorem dead_timer_workable_iff_default :
    let p : Party :=
      { peer := .v4 ⟨10, 0, 0, 1⟩ 4189, role := .server, sessionId := 7, settings := {} }
    let opened := (p.session false).start 1
    let granted := opened.session.handle 2 (.network (OpenObject.propose 30 5 1).message)
    let up := (granted.session.handle 3 (.network keepaliveMessage)).session
    p.settings.policy.Ordered ∧ up.state = .sessionUp ∧
      up.peerKeepalive = 30 ∧ up.peerDeadTimer = 5 ∧
      ¬ (up.peerDeadTimer = 0 ∨ up.peerKeepalive ≤ up.peerDeadTimer) := by
  intro p opened granted up
  have hordered : p.settings.policy.Ordered := by decide
  have hs : up.state = .sessionUp := by decide +kernel
  obtain ⟨hup, -⟩ := dead_timer_workable_iff hordered false
  obtain ⟨o, ho, -, hkeepalive, hdead, hworks⟩ := hup _ _ _
    (((@History.start p false 1).handle 2
      (.network (OpenObject.propose 30 5 1).message)).handle 3 (.network keepaliveMessage)) hs
  obtain rfl : o = OpenObject.propose 30 5 1 := by
    have hmoves : [OpenObject.propose 30 5 1] = [o] := by
      rw [← ho]
      decide +kernel
    exact (List.head_eq_of_cons_eq hmoves).symm
  refine ⟨hordered, hs, hkeepalive, hdead, fun hworks' => ?_⟩
  have hconsistent := hworks.mp hworks'
  revert hconsistent
  decide

end Session

end PathSession
