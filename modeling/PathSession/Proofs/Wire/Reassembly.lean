import PathSession.Proofs.Wire.Framing
import PathSession.Wire.Reassembly

/-!
# Reassembly conserves every octet

A run feeds octets of any peers and forgets peers, in any order.  What one peer was given back is
watched along the run, and compared with what was fed for it.

* `Reassembly.Call`, `Reassembly.step`: one call;
* `Reassembly.Watch`: what happened to one peer since it was last forgotten;
* `Reassembly.watch_conserves`: given back and still pending is what was fed.
-/

namespace PathSession
namespace Reassembly

/-- A call of a reassembly. -/
inductive Call
  | feed (peer : PeerAddress) (data : Octets)
  | remove (peer : PeerAddress)
  deriving DecidableEq, Repr

/-- The peer a call is about. -/
def Call.peer : Call → PeerAddress
  | feed peer _ => peer
  | remove peer => peer

/-- The reassembly after a call. -/
def step (r : Reassembly) : Call → Reassembly
  | .feed peer data => (r.feed peer data).next
  | .remove peer => r.remove peer

/-! ### What is pending -/

section Pending

variable (r : Reassembly) (p q : PeerAddress) (data : Octets)

@[simp] theorem pendingOf_init (limit : Nat) : (init limit).pendingOf p = [] := rfl

theorem pendingOf_remove :
    (r.remove q).pendingOf p = if p = q then [] else r.pendingOf p := by
  unfold pendingOf remove
  rw [Table.get?_erase]
  split <;> rfl

theorem pendingOf_keep :
    (r.keep q data).pendingOf p = if p = q then data else r.pendingOf p := by
  unfold keep
  split
  · rename_i h
    rw [List.isEmpty_iff.mp h]
    exact pendingOf_remove r p q
  · unfold pendingOf
    rw [Table.get?_insert]
    split <;> rfl

@[simp] theorem limit_keep : (r.keep q data).limit = r.limit := by
  unfold keep
  split <;> rfl

/-- What feeding does: nothing, or all complete messages are taken, or the stream is dropped. -/
theorem feed_cases : (data = [] ∧ r.feed p data = ⟨r, .ok []⟩) ∨
    (∃ e, (Frame.parseAll r.limit (r.pendingOf p ++ data)).error = some e ∧
      r.feed p data = ⟨r.remove p, .error e⟩) ∨
    ((Frame.parseAll r.limit (r.pendingOf p ++ data)).error = none ∧
      r.feed p data = ⟨r.keep p (Frame.parseAll r.limit (r.pendingOf p ++ data)).rest,
        .ok (Frame.parseAll r.limit (r.pendingOf p ++ data)).messages⟩) := by
  unfold feed
  by_cases hd : data = []
  · exact .inl ⟨hd, if_pos (List.isEmpty_iff.mpr hd)⟩
  · rw [if_neg (by simpa using hd)]
    cases he : (Frame.parseAll r.limit (r.pendingOf p ++ data)).error with
    | some e => exact .inr (.inl ⟨e, rfl, by simp only [he]⟩)
    | none => exact .inr (.inr ⟨rfl, by simp only [he]⟩)

/-- Fed with a piece of an encoded stream, a reassembly gives the messages it completes. -/
theorem feed_of_encoded {messages : List Message} (hfit : ∀ m ∈ messages, m.Fits r.limit)
    {tail : Octets} (hs : r.pendingOf p ++ (data ++ tail) = messages.flatMap Message.encode) :
    ∃ now later, (r.feed p data).result = .ok now ∧ messages = now ++ later ∧
      (r.feed p data).next.pendingOf p ++ tail = later.flatMap Message.encode := by
  rw [← List.append_assoc] at hs
  obtain ⟨herr, later, hmessages, hrest⟩ := Frame.parseAll_of_encoded r.limit hfit hs
  rcases feed_cases r p data with ⟨rfl, h⟩ | ⟨e, he, -⟩ | ⟨-, h⟩
  · rw [h]
    exact ⟨[], messages, rfl, rfl, by simpa using hs⟩
  · rw [herr] at he
    cases he
  · rw [h]
    refine ⟨_, later, rfl, hmessages, ?_⟩
    rw [pendingOf_keep, if_pos rfl, hrest]

@[simp] theorem limit_feed : (r.feed p data).next.limit = r.limit := by
  rcases feed_cases r p data with ⟨-, h⟩ | ⟨e, -, h⟩ | ⟨-, h⟩
  · rw [h]
  · rw [h, remove]
  · rw [h, limit_keep]

@[simp] theorem limit_step (c : Call) : (r.step c).limit = r.limit := by
  cases c with
  | feed q data => exact limit_feed r q data
  | remove q => rfl

variable {r p q data}

theorem pendingOf_feed_of_ne (h : p ≠ q) : (r.feed q data).next.pendingOf p = r.pendingOf p := by
  rcases feed_cases r q data with ⟨-, hf⟩ | ⟨e, -, hf⟩ | ⟨-, hf⟩
  · rw [hf]
  · rw [hf, pendingOf_remove, if_neg h]
  · rw [hf, pendingOf_keep, if_neg h]

/-- A call for another peer leaves what is pending as it is. -/
theorem pendingOf_step_of_ne {c : Call} (h : p ≠ c.peer) :
    (r.step c).pendingOf p = r.pendingOf p := by
  cases c with
  | feed q data => exact pendingOf_feed_of_ne h
  | remove q => rw [step, pendingOf_remove, if_neg (show p ≠ q from h)]

/-- Feeding without an error takes exactly the messages of the stream so far. -/
theorem feed_of_ok {messages : List Message} (h : (r.feed p data).result = .ok messages) :
    messages.flatMap Message.encode ++ (r.feed p data).next.pendingOf p
      = r.pendingOf p ++ data := by
  rcases feed_cases r p data with ⟨rfl, hf⟩ | ⟨e, -, hf⟩ | ⟨-, hf⟩
  · rw [hf] at h ⊢
    cases h
    simp
  · rw [hf] at h
    cases h
  · rw [hf] at h ⊢
    cases h
    rw [pendingOf_keep, if_pos rfl]
    exact Frame.parseAll_conserves _ _

/-- Every message that is given back is within the limit. -/
theorem fits_of_feed {messages : List Message} (h : (r.feed p data).result = .ok messages) :
    ∀ m ∈ messages, m.Fits r.limit := by
  rcases feed_cases r p data with ⟨-, hf⟩ | ⟨e, -, hf⟩ | ⟨-, hf⟩
  · rw [hf] at h
    cases h
    exact nofun
  · rw [hf] at h
    cases h
  · rw [hf] at h
    cases h
    exact Frame.fits_of_mem_parseAll

/-- Feeding looks only at the limit and at what is pending for the peer. -/
theorem feed_congr {r' : Reassembly} (hl : r.limit = r'.limit)
    (hp : r.pendingOf p = r'.pendingOf p) (data : Octets) :
    (r.feed p data).result = (r'.feed p data).result ∧
      (r.feed p data).next.pendingOf p = (r'.feed p data).next.pendingOf p := by
  unfold feed
  rw [hl, hp]
  by_cases hd : data.isEmpty
  · simp only [hd, if_true, hp, and_self]
  · simp only [hd, Bool.false_eq_true, if_false]
    cases (Frame.parseAll r'.limit (r'.pendingOf p ++ data)).error with
    | some e => simp only [pendingOf_remove, if_true, and_self]
    | none => simp only [pendingOf_keep, if_true, and_self]

/-- Nothing that is pending starts with a complete message, before a call or after it. -/
theorem check_pendingOf_step (c : Call)
    (h : ∀ p, Frame.check r.limit (r.pendingOf p) = .incomplete) (p : PeerAddress) :
    Frame.check r.limit ((r.step c).pendingOf p) = .incomplete := by
  by_cases hp : p = c.peer
  · cases c with
    | remove q =>
      rw [step, pendingOf_remove, if_pos (show p = q from hp)]
      rfl
    | feed q data =>
      obtain rfl : p = q := hp
      rcases feed_cases r p data with ⟨-, hf⟩ | ⟨e, -, hf⟩ | ⟨herr, hf⟩
      · rw [step, hf]
        exact h p
      · rw [step, hf, pendingOf_remove, if_pos rfl]
        rfl
      · rw [step, hf, pendingOf_keep, if_pos rfl]
        exact Frame.check_rest_parseAll herr
  · rw [pendingOf_step_of_ne hp]
    exact h p

/-! ### A smaller limit -/

/-- The same octets pending, and another limit. -/
def withLimit (r : Reassembly) (limit : Nat) : Reassembly := { r with limit }

@[simp] theorem pendingOf_withLimit (r : Reassembly) (limit : Nat) (p : PeerAddress) :
    (r.withLimit limit).pendingOf p = r.pendingOf p := rfl

theorem withLimit_keep (r : Reassembly) (limit : Nat) (p : PeerAddress) (rest : Octets) :
    (r.withLimit limit).keep p rest = (r.keep p rest).withLimit limit := by
  unfold keep
  split <;> rfl

/-- What can be read within a smaller limit is read all the same. -/
theorem feed_withLimit {limit : Nat} (hle : limit ≤ r.limit) {messages : List Message}
    (h : ((r.withLimit limit).feed p data).result = .ok messages) :
    (r.withLimit limit).feed p data =
      ⟨(r.feed p data).next.withLimit limit, (r.feed p data).result⟩ := by
  rcases feed_cases (r.withLimit limit) p data with ⟨rfl, -⟩ | ⟨e, -, hf⟩ | ⟨herr, hf⟩
  · rfl
  · rw [hf] at h
    cases h
  · have hall : Frame.parseAll r.limit (r.pendingOf p ++ data) =
        Frame.parseAll limit (r.pendingOf p ++ data) := Frame.parseAll_of_le hle herr
    rw [hf]
    rcases feed_cases r p data with ⟨rfl, hf'⟩ | ⟨e, herr', -⟩ | ⟨-, hf'⟩
    · -- no octets at all
      rw [← hf, hf']
      rfl
    · rw [hall] at herr'
      exact absurd (herr.symm.trans herr') nofun
    · rw [hf', hall, withLimit_keep]
      rfl

end Pending

/-! ### Watching one peer -/

/-- What happened to a peer since it was last forgotten: the octets fed for it, the messages given
back, and whether a feed failed. -/
structure Watch where
  reassembly : Reassembly
  fed : Octets
  returned : List Message
  failed : Bool

namespace Watch

/-- Nothing has happened. -/
def init (limit : Nat) : Watch :=
  { reassembly := .init limit, fed := [], returned := [], failed := false }

/-- One more call of a run in which the given peer is watched. -/
def step (p : PeerAddress) (w : Watch) (c : Call) : Watch :=
  let next := w.reassembly.step c
  match c with
  | .remove q =>
    if q = p then { reassembly := next, fed := [], returned := [], failed := false }
    else { w with reassembly := next }
  | .feed q data =>
    if q = p then
      match (w.reassembly.feed q data).result with
      | .ok messages =>
        { w with reassembly := next, fed := w.fed ++ data, returned := w.returned ++ messages }
      | .error _ => { w with reassembly := next, fed := w.fed ++ data, failed := true }
    else { w with reassembly := next }

/-- A run of calls. -/
def run (p : PeerAddress) (w : Watch) (calls : List Call) : Watch := calls.foldl (step p) w

variable {p : PeerAddress} {w : Watch}

@[simp] theorem reassembly_step (c : Call) : (w.step p c).reassembly = w.reassembly.step c := by
  unfold step
  cases c with
  | remove q =>
    simp only
    split <;> rfl
  | feed q data =>
    simp only
    split
    · split <;> rfl
    · rfl

/-- A call for another peer only changes the reassembly. -/
theorem step_of_ne {c : Call} (h : p ≠ c.peer) :
    w.step p c = { w with reassembly := w.reassembly.step c } := by
  cases c with
  | remove q => rw [step, if_neg (show q ≠ p from Ne.symm h)]
  | feed q data => rw [step, if_neg (show q ≠ p from Ne.symm h)]

theorem run_cons (c : Call) (calls : List Call) : w.run p (c :: calls) = (w.step p c).run p calls :=
  rfl

/-- The invariant of a run: unless a feed failed, nothing is lost or invented, and what is pending
for any peer waits for more octets. -/
structure Exact (p : PeerAddress) (w : Watch) : Prop where
  conserves : w.failed = false →
    w.returned.flatMap Message.encode ++ w.reassembly.pendingOf p = w.fed
  waits : ∀ q, Frame.check w.reassembly.limit (w.reassembly.pendingOf q) = .incomplete

theorem exact_init (p : PeerAddress) (limit : Nat) : Exact p (init limit) where
  conserves _ := rfl
  waits _ := rfl

theorem exact_step (h : Exact p w) (c : Call) : Exact p (w.step p c) where
  waits q := by
    rw [reassembly_step, limit_step]
    exact check_pendingOf_step c h.waits q
  conserves := by
    intro hf
    -- only a call for the watched peer touches what is compared
    by_cases hp : p = c.peer
    · cases c with
      | remove q =>
        obtain rfl : p = q := hp
        simp [step, Reassembly.step, pendingOf_remove]
      | feed q data =>
        obtain rfl : p = q := hp
        cases hr : (w.reassembly.feed p data).result with
        | error e => simp [step, hr] at hf  -- this feed failed
        | ok messages =>
          have hfed := feed_of_ok hr
          simp only [step, hr, if_true] at hf ⊢
          rw [List.flatMap_append, List.append_assoc, Reassembly.step, hfed, ← List.append_assoc,
            h.conserves hf]
    · rw [step_of_ne hp] at hf ⊢
      rw [pendingOf_step_of_ne hp]
      exact h.conserves hf

theorem exact_run (h : Exact p w) (calls : List Call) : Exact p (w.run p calls) := by
  induction calls generalizing w with
  | nil => exact h
  | cons c calls ih => exact ih (exact_step h c)

@[simp] theorem limit_run (calls : List Call) :
    (w.run p calls).reassembly.limit = w.reassembly.limit := by
  induction calls generalizing w with
  | nil => rfl
  | cons c calls ih => rw [run_cons, ih, reassembly_step, limit_step]

/-- Two runs look the same to the watched peer. -/
structure Alike (p : PeerAddress) (v w : Watch) : Prop where
  limit : v.reassembly.limit = w.reassembly.limit
  pending : v.reassembly.pendingOf p = w.reassembly.pendingOf p
  fed : v.fed = w.fed
  returned : v.returned = w.returned
  failed : v.failed = w.failed

theorem Alike.step_other {v w : Watch} (h : Alike p v w) {c : Call} (hc : p ≠ c.peer) :
    Alike p v (w.step p c) := by
  rw [step_of_ne hc]
  exact ⟨by rw [limit_step, h.limit], by rw [pendingOf_step_of_ne hc, h.pending], h.fed, h.returned,
    h.failed⟩

theorem Alike.step_own {v w : Watch} (h : Alike p v w) {c : Call} (hc : p = c.peer) :
    Alike p (v.step p c) (w.step p c) := by
  have hlimit : (v.reassembly.step c).limit = (w.reassembly.step c).limit := by
    rw [limit_step, limit_step, h.limit]
  cases c with
  | remove q =>
    obtain rfl : p = q := hc
    simp only [step, if_true]
    exact ⟨hlimit, by simp [Reassembly.step, pendingOf_remove], rfl, rfl, rfl⟩
  | feed q data =>
    obtain rfl : p = q := hc
    obtain ⟨hresult, hnext⟩ := feed_congr h.limit h.pending data
    simp only [step, if_true, ← hresult]
    split
    · exact ⟨hlimit, hnext, by rw [h.fed], by rw [h.returned], h.failed⟩
    · exact ⟨hlimit, hnext, by rw [h.fed], h.returned, rfl⟩

/-- What a peer sees of a run is what it would see if its own calls were the only ones. -/
theorem Alike.run_own {v w : Watch} (h : Alike p v w) (calls : List Call) :
    Alike p (v.run p (calls.filter fun c => c.peer = p)) (w.run p calls) := by
  induction calls generalizing v w with
  | nil => exact h
  | cons c calls ih =>
    -- a call for another peer is a step of one of the runs only
    by_cases hc : p = c.peer
    · rw [List.filter_cons_of_pos (by simp [hc]), run_cons, run_cons]
      exact ih (h.step_own hc)
    · rw [List.filter_cons_of_neg (by simp [Ne.symm hc]), run_cons]
      exact ih (h.step_other hc)

end Watch

/-! ### The theorem -/

/-- **Reassembly loses and invents no octet.**  Along any calls for any peers, the messages given
back to a peer since it was last forgotten, encoded again, and the octets still pending for it are
together the octets fed for it in that time, unless one of these feeds failed.  What is pending
never starts with a complete message, so it is short.  All of this depends on the peer's own calls
alone, and no call for another peer changes it. -/
theorem watch_conserves (limit : Nat) (p : PeerAddress) (calls : List Call) :
    let w := (Watch.init limit).run p calls
    let alone := (Watch.init limit).run p (calls.filter fun c => c.peer = p)
    (w.failed = false →
        w.returned.flatMap Message.encode ++ w.reassembly.pendingOf p = w.fed) ∧
      Frame.check limit (w.reassembly.pendingOf p) = .incomplete ∧
      (w.reassembly.pendingOf p).length < max Header.size limit ∧
      (alone.returned = w.returned ∧ alone.reassembly.pendingOf p = w.reassembly.pendingOf p) ∧
      ∀ c, c.peer ≠ p → (w.step p c).returned = w.returned ∧
        (w.step p c).reassembly.pendingOf p = w.reassembly.pendingOf p := by
  intro w alone
  have hexact : Watch.Exact p w := Watch.exact_run (Watch.exact_init p limit) calls
  have hwaits : Frame.check limit (w.reassembly.pendingOf p) = .incomplete := by
    have := hexact.waits p
    rwa [Watch.limit_run] at this
  have halike : Watch.Alike p alone w :=
    Watch.Alike.run_own ⟨rfl, rfl, rfl, rfl, rfl⟩ calls
  refine ⟨hexact.conserves, hwaits, Frame.length_lt_of_incomplete hwaits,
    ⟨halike.returned, halike.pending⟩, fun c hc => ?_⟩
  rw [Watch.step_of_ne (Ne.symm hc)]
  exact ⟨rfl, pendingOf_step_of_ne (Ne.symm hc)⟩

/-- The cut falls inside a header, and another peer is fed in between.  A message comes back, and
with what is pending it is all that was fed. -/
theorem watch_conserves_cut :
    let p := PeerAddress.v4 ⟨10, 0, 0, 1⟩ 4189
    let q := PeerAddress.v4 ⟨10, 0, 0, 2⟩ 4189
    let w := (Watch.init Message.maxSize).run p
      [.feed p [0x20, 2, 0], .feed q [0x20, 1], .feed p [4, 0x20, 7]]
    w.failed = false ∧ w.fed = [0x20, 2, 0, 4, 0x20, 7] ∧
      w.returned.map Message.encode = [[0x20, 2, 0, 4]] ∧
      w.reassembly.pendingOf p = [0x20, 7] ∧ w.reassembly.pendingOf q = [0x20, 1] ∧
      w.returned.flatMap Message.encode ++ w.reassembly.pendingOf p = w.fed := by
  intro p q w
  have hwell : w.failed = false := by decide +kernel
  obtain ⟨hconserves, -⟩ := watch_conserves Message.maxSize p
    [.feed p [0x20, 2, 0], .feed q [0x20, 1], .feed p [4, 0x20, 7]]
  exact ⟨hwell, by decide +kernel, by decide +kernel, by decide +kernel, by decide +kernel,
    hconserves hwell⟩

end Reassembly

end PathSession
