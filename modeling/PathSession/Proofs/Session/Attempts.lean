import PathSession.Proofs.Session.Dialing
import PathSession.Proofs.Session.Runs

/-!
# How often a session tries to connect

A session that opens its connection itself asks for one when it starts, and for another whenever a
connect has failed, until it has failed as often as it may.  Then it closes.  Nothing else makes it
ask, and once there was a transport nothing does.

* `Settings.attempts`: how many connects may fail;
* `Session.Run.failures`: how many have failed in a run;
* `Turn.Redials`, `Turn.GivesUp`: the two answers to a failure;
* `Session.Run.Dialled`: the failures and connections asked for are those on the session's count;
* `Party.connecting_bounded`: what a run asks for, and at which failures.
-/

namespace PathSession

/-- How many connects may fail: as many as the settings say, and one at least. -/
def Settings.attempts (s : Settings) : Nat := max 1 s.maxConnectRetries.toNat

/-- The failed connects of a run. -/
def Session.Run.failures (r : Session.Run) : Nat :=
  r.beats.countP fun b => b.session.failsAt b.event

/-! ### Turns -/

namespace Turn

/-- A turn that asks for another connection and waits for it. -/
structure Redials (t : Turn) : Prop where
  asked : t.actions.count .connect = 1
  pending : t.session.state = .tcpPending
  still : t.session.closed = false
  lasting : .close .connectRetriesExhausted ∉ t.actions

/-- A turn that closes the session for its failed connects. -/
structure GivesUp (t : Turn) : Prop where
  unasked : .connect ∉ t.actions
  last : t.actions.getLast? = some (.close .connectRetriesExhausted)
  closed : t.session.closed = true

variable {t : Turn}

theorem GivesUp.exhausted (h : t.GivesUp) : .close .connectRetriesExhausted ∈ t.actions :=
  List.mem_of_getLast? h.last

theorem GivesUp.count_connect (h : t.GivesUp) : t.actions.count .connect = 0 :=
  List.count_eq_zero.mpr h.unasked

theorem Undialled.count_connect {s : Session} (h : Undialled s t) :
    t.actions.count .connect = 0 :=
  List.count_eq_zero.mpr h.not_connect

theorem count_connect_cancels (k : TimerKind) (token : Option TimerToken) :
    (Action.cancels k token).count .connect = 0 :=
  List.count_eq_zero.mpr fun h => nomatch Action.dials_of_mem_cancels h

theorem redials_connectFailed (ha : t.actions = []) (hc : t.session.closed = false)
    (hmore : t.session.connectRetries + 1 < t.session.settings.maxConnectRetries.toNat) :
    t.connectFailed.Redials ∧ t.connectFailed.session.connectRetries =
      t.session.connectRetries + 1 := by
  unfold connectFailed
  simp only
  rw [if_neg (by simpa using hmore)]
  refine ⟨⟨?_, rfl, ?_, ?_⟩, ?_⟩
  · simp [ha, count_connect_cancels]
  · simpa using hc
  · simp only [actions_enter, actions_arm, actions_act, actions_note, actions_change, ha]
    intro hmem
    rcases List.mem_append.mp hmem with hmem | hmem
    · rcases List.mem_append.mp hmem with hmem | hmem
      · cases List.mem_singleton.mp hmem
      · exact nomatch Action.dials_of_mem_cancels hmem
    · cases List.mem_singleton.mp hmem
  · simp

theorem givesUp_connectFailed (ha : t.actions = [])
    (hmore : t.session.settings.maxConnectRetries.toNat ≤ t.session.connectRetries + 1) :
    t.connectFailed.GivesUp ∧ t.connectFailed.session.state = .idle ∧
      t.connectFailed.session.connectRetries = t.session.connectRetries + 1 := by
  unfold connectFailed
  simp only
  rw [if_pos (by simpa using hmore)]
  refine ⟨⟨?_, ?_, ?_⟩, ?_, ?_⟩
  · simp only [actions_close, actions_note, actions_change, ha]
    intro hmem
    rcases List.mem_append.mp hmem with hmem | hmem
    · exact nomatch dials_of_mem_cancellations hmem
    · cases List.mem_singleton.mp hmem
  · simp
  · simp [Session.ended]
  · simp [Session.ended]
  · simp [Session.ended]

end Turn

namespace Session

variable {s : Session} {n : TimerToken} {e : SessionEvent}

/-- A failed connect is counted.  It is followed by another one unless it was the last. -/
theorem handle_failed (hc : s.closed = false) (n : TimerToken) (he : s.failsAt e = true) :
    (s.handle n e).session.connectRetries = s.connectRetries + 1 ∧
      (s.connectRetries + 1 < s.settings.attempts → (s.handle n e).Redials) ∧
      (s.settings.attempts ≤ s.connectRetries + 1 →
        (s.handle n e).GivesUp ∧ (s.handle n e).session.state = .idle) := by
  obtain ⟨t, timers, hturn, hs, ha⟩ := handle_of_fails hc n he
  have hsettings : t.session.settings = s.settings := by rw [hs]
  have hretries : t.session.connectRetries = s.connectRetries := by rw [hs]
  have hstill : t.session.closed = false := by rw [hs, hc]
  rw [hturn]
  by_cases hmore : s.connectRetries + 1 < s.settings.maxConnectRetries.toNat
  · obtain ⟨hredials, hcount⟩ := t.redials_connectFailed ha hstill (by rwa [hsettings, hretries])
    refine ⟨hcount.trans (by rw [hretries]), fun _ => hredials, fun hle => ?_⟩
    have := le_trans (le_max_right _ _) hle
    omega
  · replace hmore := Nat.le_of_not_lt hmore
    obtain ⟨hgives, hidle, hcount⟩ := t.givesUp_connectFailed ha (by rwa [hsettings, hretries])
    refine ⟨hcount.trans (by rw [hretries]), fun hlt => ?_, fun _ => ⟨hgives, hidle⟩⟩
    have : s.settings.attempts ≤ s.connectRetries + 1 := max_le (Nat.le_add_left ..) hmore
    omega

/-- What waits for a connection is not closed. -/
theorem Phase.still_of_fails (h : s.Phase) (he : s.failsAt e = true) : s.closed = false :=
  (h.of_tcpPending (of_decide_eq_true (Bool.and_eq_true_iff.mp he).1)).1.still

/-- Once it was told that there is a transport, a session does not wait for one. -/
theorem state_transportUp_ne (h : s.Phase) (n : TimerToken) :
    (s.handle n .transportUp).session.state ≠ .tcpPending := by
  by_cases hs : s.state = .tcpPending
  · have hc := (h.of_tcpPending hs).1.still
    have hturn : s.handle n .transportUp =
        ((Turn.start s n).greet.cancel .connect).awaitOpen := by
      rw [handle_eq_take hc, Turn.take, Turn.transportUp, Turn.session_start, if_pos hs]
    rw [hturn]
    intro hpending
    cases hpending
  · exact mt (undialled_handle n (failsAt_of_ne hs .transportUp)).pending hs

/-- The expiry of a timer that is not armed any more changes nothing. -/
theorem handle_stale {kind : TimerKind} {token : TimerToken}
    (hk : s.timers.get kind ≠ some token) (n : TimerToken) :
    (s.handle n (.timerExpired kind token)).session = s ∧
      (s.handle n (.timerExpired kind token)).actions = [] := by
  simp only [handle]
  split
  · exact ⟨rfl, rfl⟩
  · rw [Turn.take, Turn.session_start, if_neg hk]
    exact ⟨rfl, rfl⟩

end Session

/-! ### Runs -/

namespace Session.Run

variable {r : Run} {n : TimerToken} {e : SessionEvent} {m : Nat}

theorem failures_tell (r : Run) (n : TimerToken) (e : SessionEvent) :
    (r.tell n e).failures = r.failures + if r.session.failsAt e then 1 else 0 := by
  simp [failures, List.countP_cons]

/-- A session that may fail to connect `m` times has failed as often as it has counted, and has
asked for a connection each time but the last. -/
structure Dialled (m : Nat) (r : Run) : Prop where
  counted : r.session.connectRetries = r.failures
  asked : r.actions.count .connect = 1 + min r.failures (m - 1)
  bounded : r.failures ≤ m
  pending : r.session.state = .tcpPending → r.failures < m
  exhausted : .close .connectRetriesExhausted ∈ r.actions ↔ r.failures = m

theorem Dialled.tell (h : r.Dialled m) (hphase : r.session.Phase)
    (hm : r.session.settings.attempts = m) : (r.tell n e).Dialled m := by
  have hactions : (r.tell n e).actions.count .connect =
      r.actions.count .connect + (r.session.handle n e).actions.count .connect := by simp
  cases he : r.session.failsAt e with
  | true =>
    have hpending := h.pending (of_decide_eq_true (Bool.and_eq_true_iff.mp he).1)
    have hfailures : (r.tell n e).failures = r.failures + 1 := by simp [failures_tell, he]
    obtain ⟨hcount, hredials, hgives⟩ := handle_failed (hphase.still_of_fails he) n he
    rw [h.counted, hm] at hredials hgives
    -- either another connect is left, or this was the last
    rcases Nat.lt_or_ge (r.failures + 1) m with hlt | hge
    · have ht := hredials hlt
      refine ⟨?_, ?_, ?_, fun _ => ?_, ?_⟩
      · rw [session_tell, hcount, hfailures, h.counted]
      · rw [hactions, h.asked, ht.asked, hfailures]
        omega
      · omega
      · omega
      · simp [h.exhausted, ht.lasting, hfailures]
        omega
    · obtain ⟨ht, hidle⟩ := hgives hge
      refine ⟨?_, ?_, ?_, fun hs => ?_, ?_⟩
      · rw [session_tell, hcount, hfailures, h.counted]
      · rw [hactions, h.asked, ht.count_connect, hfailures]
        omega
      · omega
      · rw [session_tell, hidle] at hs
        cases hs
      · simp [ht.exhausted, hfailures]
        omega
  | false =>
    have ht := undialled_handle n he
    have hfailures : (r.tell n e).failures = r.failures := by simp [failures_tell, he]
    refine ⟨?_, ?_, ?_, fun hs => ?_, ?_⟩
    · rw [session_tell, hfailures, ← h.counted]
      exact congrArg Dial.failures ht.dial
    · rw [hactions, h.asked, ht.count_connect, hfailures, Nat.add_zero]
    · rw [hfailures]
      exact h.bounded
    · rw [session_tell] at hs
      rw [hfailures]
      exact h.pending (ht.pending hs)
    · simp [h.exhausted, ht.not_exhausted, hfailures]

end Session.Run

namespace Party

open Session

section

variable (p : Party) (n : TimerToken) (cues : List (TimerToken × SessionEvent))

theorem attempts_pos : 0 < p.settings.attempts := Nat.lt_of_lt_of_le Nat.one_pos (le_max_left ..)

theorem actions_start : ((p.session true).start n).actions =
    [.armTimer .connect n p.settings.connectTimeout, .connect] := rfl

theorem dialled_run : (p.run true n cues).Dialled p.settings.attempts := by
  induction cues using List.reverseRecOn with
  | nil =>
    have hpos := p.attempts_pos
    refine ⟨rfl, ?_, Nat.zero_le _, fun _ => hpos, ?_⟩
    · simp [actions_start, Run.failures]
    · simp [actions_start, Run.failures, hpos.ne]
  | append_singleton cues cue ih =>
    rw [run_concat]
    refine ih.tell (p.phase_run true n cues) ?_
    rw [show (p.run true n cues).session.settings = p.settings from
      congrArg Party.settings (p.party_run true n cues)]

/-- Once a session was told that there is a transport, it asks for no connection any more. -/
theorem count_connect_after (m : TimerToken) (later : List (TimerToken × SessionEvent)) :
    let r := p.run true n (cues ++ (m, .transportUp) :: later)
    r.session.state ≠ .tcpPending ∧
      r.actions.count .connect = (p.run true n cues).actions.count .connect := by
  induction later using List.reverseRecOn with
  | nil =>
    have hphase := p.phase_run true n cues
    have hstill := undialled_handle m (s := (p.run true n cues).session) (e := .transportUp)
      (by simp [failsAt])
    rw [run_concat]
    exact ⟨by simpa using state_transportUp_ne hphase m, by simp [hstill.count_connect]⟩
  | append_singleton later cue ih =>
    obtain ⟨hs, hcount⟩ := ih
    have hstill := undialled_handle cue.1 (failsAt_of_ne hs cue.2)
    rw [← List.cons_append, ← List.append_assoc, run_concat]
    exact ⟨by simpa using mt hstill.pending hs, by simp [hstill.count_connect, hcount]⟩

end

/-- **Connecting is bounded.**  A session that opens its connection itself asks for one when it
starts, and for one more at each failure but the last that it may have, at which it closes.  It asks
at no other time, and not at all once it was told that there is a transport.  The expiry of a timer
that is not armed any more is no failure and changes nothing. -/
theorem connecting_bounded (p : Party) (n : TimerToken)
    (cues : List (TimerToken × SessionEvent)) :
    let r : Session.Run := p.run true n cues
    let m := p.settings.attempts
    r.opening.actions.count .connect = 1 ∧
      r.actions.count .connect = 1 + min r.failures (m - 1) ∧ r.actions.count .connect ≤ m ∧
      (.close .connectRetriesExhausted ∈ r.actions ↔ r.failures = m) ∧
      (∀ n' e, r.session.failsAt e = true → r.failures < m ∧
        (r.failures + 1 < m → (r.session.handle n' e).Redials) ∧
        (r.failures + 1 = m → (r.session.handle n' e).GivesUp)) ∧
      (∀ n' e, r.session.failsAt e = false → .connect ∉ (r.session.handle n' e).actions ∧
        .close .connectRetriesExhausted ∉ (r.session.handle n' e).actions) ∧
      (∀ n' kind token, r.session.timers.get kind ≠ some token →
        (r.session.handle n' (.timerExpired kind token)).session = r.session ∧
          (r.session.handle n' (.timerExpired kind token)).actions = []) ∧
      ∀ n' later, (p.run true n (cues ++ (n', .transportUp) :: later)).actions.count .connect =
        r.actions.count .connect := by
  intro r m
  have hdialled := p.dialled_run n cues
  have hphase := p.phase_run true n cues
  have hsettings : r.session.settings = p.settings :=
    congrArg Party.settings (p.party_run true n cues)
  have hpos := p.attempts_pos
  have hasked := hdialled.asked
  refine ⟨?_, hasked, ?_, hdialled.exhausted, fun n' e he => ?_, fun n' e he => ?_,
    fun n' kind token hk => handle_stale hk n', fun n' later => ?_⟩
  · rw [p.opening_run true n cues, actions_start]
    rfl
  · rw [hasked]
    omega
  · have hpending := hdialled.pending (of_decide_eq_true (Bool.and_eq_true_iff.mp he).1)
    obtain ⟨-, hredials, hgives⟩ := handle_failed (hphase.still_of_fails he) n' he
    rw [hdialled.counted, hsettings] at hredials hgives
    exact ⟨hpending, hredials, fun hlast => (hgives hlast.ge).1⟩
  · have ht := undialled_handle n' he
    exact ⟨ht.not_connect, ht.not_exhausted⟩
  · exact (p.count_connect_after n cues n' later).2

end Party

end PathSession
