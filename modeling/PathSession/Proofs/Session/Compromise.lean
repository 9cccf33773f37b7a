import Mathlib.Data.Nat.Dist
import PathSession.Proofs.Session.Bargain

/-!
# What is proposed instead

A counter proposal keeps as close to the offer as the policy lets it: its keepalive is the nearest
one of its range, and its dead timer the nearest one of its range that is not shorter than that.  A
dead timer of zero is disabled and works with every keepalive, but no offer is moved down to it, and
one that disables the dead timer loses that if its keepalive is raised.

* `Nearest`: the value nearest to another among those with a property;
* `Policy.Works`: the dead timers that work with a keepalive;
* `Policy.counterProposal_nearest`: what is nearest, and when it is the nearest one that works.
-/

namespace PathSession

/-- A value with a property, and none with it is nearer to the given one. -/
def Nearest (P : UInt8 → Prop) (v w : UInt8) : Prop :=
  P w ∧ ∀ u, P u → Nat.dist w.toNat v.toNat ≤ Nat.dist u.toNat v.toNat

namespace Bounds

variable {b : Bounds}

theorem toNat_clamp (b : Bounds) (v : UInt8) :
    (b.clamp v).toNat = min (max v.toNat b.low.toNat) b.high.toNat := by
  rw [clamp, toNat_min, toNat_max]

theorem nearest_clamp (h : b.Ordered) (v : UInt8) :
    Nearest (b.contains · = true) v (b.clamp v) := by
  refine ⟨contains_clamp h v, fun u hu => ?_⟩
  obtain ⟨hlow, hhigh⟩ := contains_iff.mp hu
  rw [toNat_clamp]
  simp only [Nat.dist]
  omega

end Bounds

namespace Policy

variable {p : Policy} {o : OpenObject} {sessionId : UInt8}

/-- The dead timers of the range that work with a keepalive: the disabled one, and those that are
not shorter. -/
def Works (p : Policy) (keepalive d : UInt8) : Prop :=
  p.deadTimer.contains d = true ∧ (d = 0 ∨ keepalive ≤ d)

theorem works_iff {keepalive d : UInt8} : p.Works keepalive d ↔
    (p.deadTimer.low.toNat ≤ d.toNat ∧ d.toNat ≤ p.deadTimer.high.toNat) ∧
      (d.toNat = 0 ∨ keepalive.toNat ≤ d.toNat) := by
  rw [Works, Bounds.contains_iff, ← UInt8.toNat_inj, UInt8.le_iff_toNat_le]
  rfl

/-- The dead timer is moved into its range, raised to the keepalive first if it is shorter. -/
theorem toNat_deadTimer_counterProposal :
    (p.counterProposal o sessionId).deadTimer.toNat =
      min (max (max o.deadTimer.toNat p.deadTimer.low.toNat)
        (p.counterProposal o sessionId).keepalive.toNat) p.deadTimer.high.toNat := by
  show (max (p.deadTimer.clamp o.deadTimer)
    (min (p.counterProposal o sessionId).keepalive p.deadTimer.high)).toNat = _
  rw [toNat_max, toNat_min, Bounds.toNat_clamp]
  omega

section Raised

variable {keepalive v d : UInt8}
variable (hd : d.toNat = min (max (max v.toNat p.deadTimer.low.toNat) keepalive.toNat)
  p.deadTimer.high.toNat)
include hd

/-- A dead timer raised to a keepalive is the nearest one that is not shorter, if there is any. -/
theorem nearest_raised (h : p.deadTimer.Ordered) (hlong : keepalive ≤ p.deadTimer.high) :
    Nearest (fun u => p.deadTimer.contains u = true ∧ keepalive ≤ u) v d := by
  rw [Bounds.Ordered, UInt8.le_iff_toNat_le] at h
  rw [UInt8.le_iff_toNat_le] at hlong
  simp only [Nearest, Bounds.contains_iff, UInt8.le_iff_toNat_le, Nat.dist]
  refine ⟨by omega, fun u hu => ?_⟩
  omega

/-- It is the nearest one that works where none may be disabled, where all are, and where it was
raised to at most its double. -/
theorem nearest_works_of_raised
    (hcase : 0 < p.deadTimer.low ∨ p.deadTimer.high = 0 ∨
      keepalive ≤ p.deadTimer.high ∧ keepalive.toNat ≤ 2 * v.toNat)
    (hsome : ∃ u, p.Works keepalive u) : Nearest (p.Works keepalive) v d := by
  obtain ⟨u, hu⟩ := hsome
  simp only [UInt8.lt_iff_toNat_lt, UInt8.le_iff_toNat_le, ← UInt8.toNat_inj,
    UInt8.toNat_zero] at hcase
  simp only [Nearest, works_iff, Nat.dist] at hu ⊢
  refine ⟨?_, fun w hw => ?_⟩
  · omega
  · omega

/-- Elsewhere the disabled dead timer is nearer, or the only one that works. -/
theorem case_of_nearest_works (h : p.deadTimer.Ordered)
    (hnearest : (∃ u, p.Works keepalive u) → Nearest (p.Works keepalive) v d) :
    0 < p.deadTimer.low ∨ p.deadTimer.high = 0 ∨
      keepalive ≤ p.deadTimer.high ∧ keepalive.toNat ≤ 2 * v.toNat := by
  rw [Bounds.Ordered, UInt8.le_iff_toNat_le] at h
  simp only [UInt8.lt_iff_toNat_lt, UInt8.le_iff_toNat_le, ← UInt8.toNat_inj, UInt8.toNat_zero]
  by_contra hcase
  have hzero : p.Works keepalive 0 := by
    rw [works_iff, UInt8.toNat_zero]
    omega
  obtain ⟨hworks, hleast⟩ := hnearest ⟨0, hzero⟩
  have hdist := hleast 0 hzero
  rw [works_iff] at hworks
  simp only [Nat.dist, UInt8.toNat_zero] at hdist
  omega

end Raised

/-- **What a counter proposal is nearest to.**  Its keepalive is the nearest one of the range, and
its dead timer the nearest one of the range that is not shorter, or the longest one if all are.
That is the nearest dead timer that works with the keepalive exactly if the range does not reach
down to zero, or not up from it, or if it reaches up to the keepalive and this is at most twice the
offered dead timer. -/
theorem counterProposal_nearest (h : p.Ordered) (o : OpenObject) (sessionId : UInt8) :
    let c := p.counterProposal o sessionId
    Nearest (p.keepalive.contains · = true) o.keepalive c.keepalive ∧
      (c.keepalive ≤ p.deadTimer.high →
        Nearest (fun d => p.deadTimer.contains d = true ∧ c.keepalive ≤ d) o.deadTimer
          c.deadTimer) ∧
      (p.deadTimer.high < c.keepalive → c.deadTimer = p.deadTimer.high) ∧
      (c.deadTimer = 0 ↔ p.deadTimer.high = 0 ∨
        p.deadTimer.low = 0 ∧ o.deadTimer = 0 ∧ c.keepalive = 0) ∧
      (((∃ d, p.Works c.keepalive d) → Nearest (p.Works c.keepalive) o.deadTimer c.deadTimer) ↔
        0 < p.deadTimer.low ∨ p.deadTimer.high = 0 ∨
          c.keepalive ≤ p.deadTimer.high ∧ c.keepalive.toNat ≤ 2 * o.deadTimer.toNat) := by
  intro c
  have hdead : c.deadTimer.toNat = min (max (max o.deadTimer.toNat p.deadTimer.low.toNat)
      c.keepalive.toNat) p.deadTimer.high.toNat := toNat_deadTimer_counterProposal
  refine ⟨Bounds.nearest_clamp h.1 _, nearest_raised hdead h.2, fun hshort => ?_, ?_,
    case_of_nearest_works hdead h.2, nearest_works_of_raised hdead⟩
  · rw [UInt8.lt_iff_toNat_lt] at hshort
    rw [← UInt8.toNat_inj, hdead]
    omega
  · simp only [← UInt8.toNat_inj, UInt8.toNat_zero, hdead]
    omega

/-- An offer that disables the dead timer is countered with one of ten seconds, although the range
allows the disabled one. -/
theorem counterProposal_nearest_revived :
    let p : Policy := { keepalive := ⟨10, 60⟩, deadTimer := ⟨0, 240⟩ }
    let o := OpenObject.propose 5 0 1
    let c := p.counterProposal o 9
    p.Ordered ∧ p.check o = .negotiable ∧ p.Works c.keepalive 0 ∧ c.deadTimer = 10 ∧
      ¬ Nearest (p.Works c.keepalive) o.deadTimer c.deadTimer := by
  intro p o c
  have hordered : p.Ordered := by decide
  obtain ⟨-, -, -, -, hnearest⟩ := counterProposal_nearest hordered o 9
  have hworks : p.Works c.keepalive 0 := ⟨by decide, .inl rfl⟩
  refine ⟨hordered, by decide, hworks, by decide, fun hmin => ?_⟩
  have hcase := hnearest.mp fun _ => hmin
  revert hcase
  decide

end Policy

end PathSession
