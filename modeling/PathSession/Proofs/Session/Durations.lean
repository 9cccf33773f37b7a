import PathSession.Proofs.Session.Pacing
import PathSession.Proofs.Session.Parting

/-!
# How long timers last

A session arms each timer for as long as its settings say, or for a number of seconds that an octet
can hold, and so for no longer than the longest of these.

* `Settings.Grants`: how long a timer of each kind may be armed for;
* `Settings.longest`, `Settings.Grants.le_longest`: the longest of that;
* `Turn.Timed`, `Session.timed_handle`, `Session.timed_start`: no turn arms a timer for longer;
* `Session.arms_keepWait`: when a session arms one for the answer to its OPEN.
-/

namespace PathSession

/-- An octet can hold no more than 255 seconds. -/
theorem Millis.ofSeconds_octet_le (v : UInt8) :
    Millis.ofSeconds v.toNat ≤ Millis.ofSeconds 255 :=
  Nat.mul_le_mul_right _ (Nat.le_of_lt_succ v.toNat_lt)

/-- What timers of a kind may be armed for under some settings. -/
def Settings.Grants (s : Settings) (after : Millis) : TimerKind → Prop
  | .connect => after = s.connectTimeout
  | .openWait => after = s.openWait
  | .keepWait => after = s.keepWait
  | .keepAlive | .deadTimer => ∃ v : UInt8, after = .ofSeconds v.toNat

theorem Session.lasts_granted (s : Session) (kind : TimerKind) :
    s.settings.Grants (s.lasts kind) kind := by
  cases kind with
  | connect | openWait | keepWait => rfl
  | keepAlive => exact ⟨s.keepalive, rfl⟩
  | deadTimer => exact ⟨s.peerDeadTimer, rfl⟩

/-- The longest that any timer may be armed for. -/
def Settings.longest (s : Settings) : Millis :=
  max (max s.connectTimeout s.openWait) (max s.keepWait (.ofSeconds 255))

theorem Settings.Grants.le_longest {s : Settings} {after : Millis} {kind : TimerKind}
    (h : s.Grants after kind) : after ≤ s.longest := by
  unfold longest
  cases kind with
  | connect => exact h.le.trans ((Nat.le_max_left ..).trans (Nat.le_max_left ..))
  | openWait => exact h.le.trans ((Nat.le_max_right ..).trans (Nat.le_max_left ..))
  | keepWait => exact h.le.trans ((Nat.le_max_left ..).trans (Nat.le_max_right ..))
  | keepAlive | deadTimer =>
    obtain ⟨v, rfl⟩ := h
    exact (Millis.ofSeconds_octet_le v).trans ((Nat.le_max_right ..).trans (Nat.le_max_right ..))

/-! ### Turns -/

/-- A turn arms timers for what the settings grant, and the one for a connection only as it asks for
one. -/
def Turn.Timed (settings : Settings) (t : Turn) : Prop :=
  ∀ kind token after, .armTimer kind token after ∈ t.actions →
    settings.Grants after kind ∧ (kind = .connect → .connect ∈ t.actions)

theorem Pace.connects_of_mem {b : Beat} {kinds : List TimerKind} (h : Pace b kinds)
    (hmem : .connect ∈ kinds) : .connect ∈ b.turn.actions := by
  cases h with
  | connects _ _ _ hconnects => exact hconnects
  | comesUp | hears => split at hmem <;> simp at hmem
  | _ => simp at hmem

theorem Paced.timed {b : Beat} (h : Paced b) : b.turn.Timed b.session.settings := by
  intro kind token after harm
  obtain ⟨kinds, hpace, harmings⟩ := h.pace
  have hmem := Action.mem_armings.mpr ⟨token, harm⟩
  rw [harmings, List.mem_map] at hmem
  obtain ⟨k, hk, heq⟩ := hmem
  obtain ⟨rfl, rfl⟩ := Prod.mk.inj heq
  rw [← h.settings]
  exact ⟨b.turn.session.lasts_granted k, fun hconnect => hpace.connects_of_mem (hconnect ▸ hk)⟩

namespace Session

variable {s : Session} {n : TimerToken} {e : SessionEvent}

/-- Who departs has at most restarted the dead timer. -/
theorem Departs.timed {reason : CloseReason} {goodbye : Option Message} {t : Turn}
    (h : s.Departs n e reason goodbye t) : t.Timed s.settings := by
  intro kind token after harm
  rcases h.of_mem harm with ⟨m, hm, -⟩ | ⟨_, _, hcancel⟩ | ⟨-, hdead⟩ | hclose
  · cases hm
  · cases hcancel
  · obtain ⟨rfl, -, rfl⟩ := Action.armTimer.inj hdead
    exact ⟨⟨s.peerDeadTimer, rfl⟩, nofun⟩
  · cases hclose

theorem timed_handle (h : s.Phase) (hc : s.closed = false) (n : TimerToken) (e : SessionEvent) :
    (s.handle n e).Timed s.settings := by
  rcases paced_handle h hc n e with hpaced | hclosed
  · exact hpaced.timed
  · obtain ⟨reason, goodbye, hdeparts⟩ := departs_handle h hc hclosed
    exact hdeparts.timed

theorem timed_start (hs : s.state = .idle) (n : TimerToken) : (s.start n).Timed s.settings :=
  (paced_start hs n .accepted).timed

/-- A session that accepts the peer's offer first waits for the answer to its own. -/
theorem arms_keepWait (h : s.Phase) (hs : s.state = .openWait) (hlocal : s.localOk = false)
    {m : Message} {o : OpenObject} (hm : m.content = .ok (.opening o))
    (hv : s.terms.check o = .acceptable) (n : TimerToken) :
    .armTimer .keepWait n s.settings.keepWait ∈ (s.handle n (.network m)).actions := by
  rw [handle_openWait h hs, Turn.inOpenWait_of_opening hm,
    Turn.consider_of_acceptable (t := .start s n) hv, Turn.accept]
  simp [Turn.awaitAnswer, hlocal]

end Session

end PathSession
