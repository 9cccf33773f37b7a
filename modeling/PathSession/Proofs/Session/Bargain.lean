import PathSession.Proofs.Session.Talk

/-!
# When an offer can be agreed on

Whether two parties agree on the offer of one of them depends on their policies alone.

* `Policy.check_counterProposal`: nobody counters with what it would not accept itself;
* `Party.Settles`: the condition;
* `Party.settled`: the values agreed on.
-/

namespace PathSession

theorem toNat_min (a b : UInt8) : (min a b).toNat = min a.toNat b.toNat := by
  show (if a ≤ b then a else b).toNat = _
  split <;> rename_i h <;> rw [UInt8.le_iff_toNat_le] at h <;> omega

theorem toNat_max (a b : UInt8) : (max a b).toNat = max a.toNat b.toNat := by
  show (if a ≤ b then b else a).toNat = _
  split <;> rename_i h <;> rw [UInt8.le_iff_toNat_le] at h <;> omega

namespace Bounds

variable {b : Bounds} {v : UInt8}

theorem contains_iff :
    b.contains v = true ↔ b.low.toNat ≤ v.toNat ∧ v.toNat ≤ b.high.toNat := by
  simp [contains, UInt8.le_iff_toNat_le]

theorem contains_clamp (h : b.Ordered) (v : UInt8) : b.contains (b.clamp v) = true := by
  rw [Ordered, UInt8.le_iff_toNat_le] at h
  rw [contains_iff, clamp, toNat_min, toNat_max]
  omega

/-- A value of the range stays in it when it is raised to anything the range allows. -/
theorem contains_raise (h : b.contains v = true) (u : UInt8) :
    b.contains (max v (min u b.high)) = true := by
  rw [contains_iff] at h ⊢
  rw [toNat_max, toNat_min]
  omega

end Bounds

namespace Policy

variable {p : Policy} {o o' : OpenObject}

theorem check_eq_acceptable : p.check o = .acceptable ↔
    p.keepalive.contains o.keepalive = true ∧ p.deadTimer.contains o.deadTimer = true := by
  unfold check
  rw [← Bool.and_eq_true_iff]
  split
  · rename_i h
    simp [h]
  · rename_i h
    split <;> simp [h]

/-- The verdict depends on the two intervals alone. -/
theorem check_congr (hk : o.keepalive = o'.keepalive) (hd : o.deadTimer = o'.deadTimer) :
    p.check o = p.check o' := by
  obtain ⟨version, flags, keepalive, deadTimer, sessionId⟩ := o
  obtain ⟨version', flags', keepalive', deadTimer', sessionId'⟩ := o'
  obtain rfl : keepalive = keepalive' := hk
  obtain rfl : deadTimer = deadTimer' := hd
  rfl

/-- Nobody counters with what it would not accept itself. -/
theorem check_counterProposal (h : p.Ordered) (o : OpenObject) (sessionId : UInt8) :
    p.check (p.counterProposal o sessionId) = .acceptable := by
  rw [check_eq_acceptable]
  exact ⟨Bounds.contains_clamp h.1 _, Bounds.contains_raise (Bounds.contains_clamp h.2 _) _⟩

end Policy

namespace Party

/-- Whether the other party accepts our proposal, or counters it with one that we accept. -/
def Settles (p other : Party) : Prop :=
  other.settings.policy.check p.proposal = .acceptable ∨
    other.settings.policy.check p.proposal = .negotiable ∧
      p.settings.policy.check (other.counterTo p.proposal) = .acceptable

/-- What becomes of our proposal: it stays, or the counter proposal takes its place. -/
def settled (p other : Party) : OpenObject :=
  if other.settings.policy.check p.proposal = .acceptable then
    p.proposal
  else
    other.counterTo p.proposal

instance (p other : Party) : Decidable (p.Settles other) :=
  inferInstanceAs (Decidable (_ ∨ _))

end Party

end PathSession
