import PathSession.Config.Basic
import PathSession.Proofs.Engine.Durations
import PathSession.Proofs.Wire.Content

/-!
# Which configurations can be run

What a node takes from its configuration is handed on to parts that each ask something of it.  Some
of that is checked when the configuration is read.  This file has what the rest comes to.

* `Message.Own`: the OPENs and ERRORs that a node builds;
* `NodeConfig.Safe`: what the parts of a node ask of its configuration;
* `NodeConfig.checked_safe_iff`: the checked configurations that can be run.
-/

namespace PathSession

/-! ### Messages -/

/-- The OPENs and ERRORs that a node builds itself. -/
inductive Message.Own : Message → Prop
  | opening (o : OpenObject) : Own o.message
  | error (e : ErrorObject) (proposal : Option OpenObject) : Own (e.message proposal)

namespace Message.Own

variable {m : Message}

theorem fits (h : m.Own) : m.Fits maxSize := by
  cases h with
  | opening o => exact fits_propose (by decide) o
  | error e proposal => exact fits_error (by decide) e proposal

theorem size_le (h : m.Own) : m.size ≤ 20 := by
  cases h with
  | opening o => exact (fits_propose le_rfl o).size_le
  | error e proposal => exact (fits_error le_rfl e proposal).size_le

end Message.Own

/-- All own messages pass the check of frames exactly if it lets twenty octets through: an ERROR
with a proposal is as long as that. -/
theorem Frame.check_own_iff (limit : Nat) :
    (∀ m : Message, m.Own → check limit m.encode = .complete m.header) ↔ 20 ≤ limit := by
  have hcheck : ∀ m : Message, m.Own →
      (check limit m.encode = .complete m.header ↔ m.size ≤ limit) := by
    intro m hm
    have h := check_encode hm.fits limit []
    rw [List.append_nil] at h
    rw [h]
    by_cases hl : limit < m.size
    · simp [hl]
    · simp [hl, Nat.le_of_not_lt hl]
  constructor
  · intro h
    have hown := Message.Own.error ⟨0, 0, 0⟩ (some (.propose 0 0 0))
    exact (hcheck _ hown).mp (h _ hown)
  · intro hl m hm
    exact (hcheck m hm).mpr (hm.size_le.trans hl)

/-! ### What the parts ask for -/

namespace NodeConfig

/-- What the parts of a node ask of its configuration. -/
structure Safe (c : NodeConfig) : Prop where
  /-- bounds out of order leave nothing to counter with -/
  policy : c.session.settings.policy.Ordered
  /-- a channel has room for something -/
  capacity : 0 < c.pool.settings.channelCapacity
  /-- the monitor looks after the workers every now and then -/
  interval : 0 < c.pool.settings.monitorInterval
  /-- no timer is armed for longer than the wheel reaches -/
  timers : ∀ firstId tasks, c.general.role.MayGet tasks → ∀ peer kind token after,
    .arm peer kind token after ∈
        (Chronicle.run c.general.role c.session.settings firstId tasks).requests →
      after ≤ Wheel.reach
  /-- a node with this configuration can read what another one builds -/
  messages : ∀ m : Message, m.Own →
    Frame.check c.network.maxPackageSize.toNat m.encode = .complete m.header

variable {c : NodeConfig}

/-- Five conditions on what is taken from a configuration. -/
theorem safe_iff : c.Safe ↔
    c.session.settings.policy.Ordered ∧
    0 < c.pool.settings.channelCapacity ∧ 0 < c.pool.settings.monitorInterval ∧
    ((c.general.role = .client → c.session.settings.connectTimeout ≤ Wheel.reach) ∧
      c.session.settings.openWait ≤ Wheel.reach ∧ c.session.settings.keepWait ≤ Wheel.reach) ∧
    20 ≤ c.network.maxPackageSize.toNat := by
  have htimers := fun hpolicy : c.session.settings.policy.Ordered =>
    Chronicle.arms_within_iff c.general.role hpolicy
      (show Millis.ofSeconds 255 ≤ Wheel.reach by decide)
  have hmessages := Frame.check_own_iff c.network.maxPackageSize.toNat
  constructor
  · rintro ⟨hpolicy, hcapacity, hinterval, hs, hm⟩
    exact ⟨hpolicy, hcapacity, hinterval, (htimers hpolicy).mp hs, hmessages.mp hm⟩
  · rintro ⟨hpolicy, hcapacity, hinterval, hs, hm⟩
    exact ⟨hpolicy, hcapacity, hinterval, (htimers hpolicy).mpr hs, hmessages.mpr hm⟩

theorem flaw?_of_check {c' : NodeConfig} (h : c.check = .ok c') : c.flaw? = none := by
  unfold check at h
  split at h
  · cases h
  · assumption

/-- The wheel reaches 68719476 whole seconds ahead. -/
theorem ofSeconds_le_reach_iff (v : UInt64) :
    Millis.ofSeconds v.toNat ≤ Wheel.reach ↔ v ≤ 68719476 := by
  rw [UInt64.le_iff_toNat_le]
  show (v.toNat * 1000 : Nat) ≤ 68719476735 ↔ v.toNat ≤ 68719476
  omega

/-- **When a checked configuration is safe to run.**  Beside what is checked, its channels must have
room, its monitor a period, the durations of its sessions no more than 68719476 seconds, and
messages of twenty octets must be let through.  Nothing of that is looked at. -/
theorem checked_safe_iff (h : c.check = .ok c) :
    c.Safe ↔
      0 < c.pool.channelCapacity ∧ 0 < c.pool.monitorInterval ∧
      ((c.general.role = .client → c.session.connectTimeout ≤ 68719476) ∧
        c.session.openWait ≤ 68719476 ∧ c.session.keepWait ≤ 68719476) ∧
      20 ≤ c.network.maxPackageSize := by
  have hordered : c.session.settings.policy.Ordered :=
    (flaw?_eq_none_iff.mp (flaw?_of_check h)).1
  rw [safe_iff, and_iff_right hordered]
  simp only [SessionSection.settings, PoolSection.settings, ofSeconds_le_reach_iff,
    UInt64.lt_iff_toNat_lt, UInt64.le_iff_toNat_le]
  rfl

/-- The defaults are safe.  Without room in the channels, without a period of the monitor, with too
long a wait for an OPEN, or with room for nineteen octets in a message they are not, and yet pass
the check; so they do for a client with too long a wait for its connections, unlike a server. -/
theorem checked_safe_iff_default :
    let slow : SessionSection := { connectTimeout := 68719477 }
    (∀ c ∈ [({} : NodeConfig), { session := slow }], c.check = .ok c ∧ c.Safe) ∧
      ∀ c ∈ [({ pool := { channelCapacity := 0 } } : NodeConfig),
          { pool := { monitorInterval := 0 } }, { session := { openWait := 68719477 } },
          { network := { maxPackageSize := 19 } },
          { general := { role := .client }, session := slow }],
        c.check = .ok c ∧ ¬ c.Safe := by
  intro slow
  constructor
  · intro c hc
    simp only [List.mem_cons, List.not_mem_nil, or_false] at hc
    rcases hc with rfl | rfl <;> exact ⟨rfl, (checked_safe_iff rfl).mpr (by decide)⟩
  · intro c hc
    simp only [List.mem_cons, List.not_mem_nil, or_false] at hc
    rcases hc with rfl | rfl | rfl | rfl | rfl <;>
      exact ⟨rfl, mt (checked_safe_iff rfl).mp (by decide)⟩

end NodeConfig

end PathSession
